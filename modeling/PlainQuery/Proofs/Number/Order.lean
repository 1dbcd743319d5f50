import PlainQuery.Number.Floating

/-!
# Numbers in a range

Numbers are compared by their places in the order of the format, and a "not a number" is comparable
with nothing.  So a number that is none is moved into a range by `clamp` (`within_clamp`), and one
that lies in the range already stays where it is (`Within.clamp_eq`).  Rounding never gives a "not a
number" (`isNaN_ofRatio`), so this applies to every number that comes from a quotient of whole
numbers.
-/

namespace PlainQuery.Number.Floating

variable {f : BinaryFormat} {low high x : Floating f}

theorem le_iff : x.le high = true ↔
    x.isNaN = false ∧ high.isNaN = false ∧ x.place ≤ high.place := by
  simp [le, and_assoc]

theorem lt_iff : x.lt high = true ↔
    x.isNaN = false ∧ high.isNaN = false ∧ x.place < high.place := by
  simp [lt, and_assoc]

theorem le_refl (hx : x.isNaN = false) : x.le x = true :=
  le_iff.mpr ⟨hx, hx, Int.le_refl _⟩

theorem le_of_not_lt (hlow : low.isNaN = false) (hx : x.isNaN = false) (h : ¬ x.lt low = true) :
    low.le x = true := by
  rw [lt_iff] at h
  exact le_iff.mpr ⟨hlow, hx, Int.not_lt.mp fun hlt => h ⟨hx, hlow, hlt⟩⟩

/-- The number lies in the range from `low` to `high`. -/
def Within (low high x : Floating f) : Prop := low.le x = true ∧ x.le high = true

instance (low high x : Floating f) : Decidable (Within low high x) :=
  inferInstanceAs (Decidable (_ ∧ _))

theorem within_clamp (hrange : low.le high = true) (hx : x.isNaN = false) :
    Within low high (clamp low high x) := by
  obtain ⟨hlow, hhigh, -⟩ := le_iff.mp hrange
  unfold clamp
  split
  · exact ⟨le_refl hlow, hrange⟩
  · rename_i hbelow
    split
    · exact ⟨hrange, le_refl hhigh⟩
    · rename_i habove
      exact ⟨le_of_not_lt hlow hx hbelow, le_of_not_lt hx hhigh habove⟩

theorem Within.clamp_eq (h : Within low high x) : clamp low high x = x := by
  obtain ⟨hlow, hhigh⟩ := h
  have hbelow : ¬ x.lt low = true := by
    intro hlt
    have := (lt_iff.mp hlt).2.2
    have := (le_iff.mp hlow).2.2
    omega
  have habove : ¬ high.lt x = true := by
    intro hlt
    have := (lt_iff.mp hlt).2.2
    have := (le_iff.mp hhigh).2.2
    omega
  rw [clamp, if_neg hbelow, if_neg habove]

theorem isNaN_of_isFinite (hx : x.isFinite = true) : x.isNaN = false := by
  simp only [isFinite, decide_eq_true_eq] at hx
  simp only [isNaN, decide_eq_false_iff_not]
  omega

/-- A rounded quotient is a number. -/
theorem isNaN_ofRatio (negative : Bool) (num den : Nat) :
    (ofRatio negative num den : Floating f).isNaN = false := by
  unfold ofRatio isNaN
  split
  · simp [zero]
  · rw [decide_eq_false_iff_not, Nat.not_lt]
    exact Nat.min_le_right _ _

end PlainQuery.Number.Floating

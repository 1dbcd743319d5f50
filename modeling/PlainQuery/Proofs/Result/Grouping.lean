import PlainQuery.Result.Display

/-!
# Digits in groups

The commas of `groupDigits` stand between groups of three digits, counted from the right.  What it
writes is an `IsGrouping` of the digits, put together with commas (`exists_grouping`).  The function
goes from the left and decides before each digit whether the digits behind it fill their groups, so
a grouping grows at its front in two ways: a digit in front of full groups begins a group of its own
(`IsGrouping.cons_full`), any other one joins the first group (`IsGrouping.cons_open`).

Taking the commas out again gives the digits back (`filter_groupDigits`).  In a numeral only the
digits in front of the point are put in groups, and a sign stays where it is
(`groupThousands_append`).
-/

namespace PlainQuery.Display

variable {digits first : List Char} {later : List (List Char)}

/-- The digits in groups of three, of which the first may be shorter. -/
structure IsGrouping (digits first : List Char) (later : List (List Char)) : Prop where
  flatten : first ++ later.flatten = digits
  nonempty : first ≠ []
  length_first : first.length ≤ 3
  length_later : ∀ group ∈ later, group.length = 3

theorem IsGrouping.length_eq (h : IsGrouping digits first later) :
    digits.length = first.length + 3 * later.length := by
  have hlater : later.map List.length = List.replicate later.length 3 := by
    rw [List.eq_replicate_iff, List.length_map]
    exact ⟨rfl, List.forall_mem_map.mpr h.length_later⟩
  rw [← h.flatten, List.length_append, List.length_flatten, hlater, List.sum_replicate_nat,
    Nat.mul_comm]

/-- A group that is full is followed by a comma. -/
theorem IsGrouping.cons_full (h : IsGrouping digits first later) (hfull : digits.length % 3 = 0)
    (digit : Char) : IsGrouping (digit :: digits) [digit] (first :: later) := by
  have hlength := h.length_eq
  have hpos := List.length_pos_iff.mpr h.nonempty
  have hfirst := h.length_first
  refine ⟨?_, List.cons_ne_nil _ _, by simp, List.forall_mem_cons.mpr ⟨by omega, h.length_later⟩⟩
  rw [List.flatten_cons, h.flatten, List.singleton_append]

theorem IsGrouping.cons_open (h : IsGrouping digits first later) (hopen : digits.length % 3 ≠ 0)
    (digit : Char) : IsGrouping (digit :: digits) (digit :: first) later := by
  have hlength := h.length_eq
  have hfirst := h.length_first
  refine ⟨?_, List.cons_ne_nil _ _, ?_, h.length_later⟩
  · rw [List.cons_append, h.flatten]
  · rw [List.length_cons]
    omega

/-- **The commas stand between groups.** -/
theorem exists_grouping (hne : digits ≠ []) :
    ∃ first later, IsGrouping digits first later ∧
      groupDigits digits = [','].intercalate (first :: later) := by
  induction digits with
  | nil => exact absurd rfl hne
  | cons digit rest ih =>
      rw [groupDigits]
      by_cases hrest : rest = []
      · subst hrest
        exact ⟨[digit], [], ⟨rfl, List.cons_ne_nil _ _, by simp, nofun⟩, rfl⟩
      obtain ⟨first, later, hgrouping, hgroups⟩ := ih hrest
      rw [hgroups]
      by_cases hfull : rest.length % 3 = 0
      · refine ⟨[digit], first :: later, hgrouping.cons_full hfull digit, ?_⟩
        rw [if_pos (by simp [hrest, hfull]), List.intercalate_cons_cons]
        rfl
      · refine ⟨digit :: first, later, hgrouping.cons_open hfull digit, ?_⟩
        rw [if_neg (by simp [hfull])]
        cases later with
        | nil => rfl
        | cons group later => rfl

/-- Without the commas the digits are left. -/
theorem filter_groupDigits (hdigits : ',' ∉ digits) :
    (groupDigits digits).filter (· ≠ ',') = digits := by
  induction digits with
  | nil => rfl
  | cons digit rest ih =>
      rw [List.mem_cons, not_or] at hdigits
      have hdigit : decide (digit ≠ ',') = true := decide_eq_true (Ne.symm hdigits.1)
      rw [groupDigits]
      split
      · simp only [List.filter_cons, hdigit, if_pos, ne_eq, not_true_eq_false, decide_false,
          Bool.false_eq_true, if_false, ih hdigits.2]
      · simp only [List.filter_cons, hdigit, if_pos, ih hdigits.2]

theorem head?_groupDigits (digits : List Char) : (groupDigits digits).head? = digits.head? := by
  cases digits with
  | nil => rfl
  | cons digit rest =>
      rw [groupDigits]
      split <;> rfl

/-! ## Numerals -/

/-- What stands in front of a number. -/
def sign (negative : Bool) : List Char := if negative then ['-'] else []

theorem filter_sign (negative : Bool) : (sign negative).filter (· ≠ ',') = sign negative := by
  cases negative <;> rfl

theorem head?_sign_append (negative : Bool) (hdigits : digits.head? ≠ some '-') :
    (sign negative ++ digits).head? = some '-' ↔ negative = true := by
  cases negative with
  | true => simp [sign]
  | false => simpa [sign] using hdigits

theorem groupThousands_append (negative : Bool) {whole fraction : List Char}
    (hwhole : ∀ c ∈ whole, c.isDigit = true)
    (hfraction : fraction = [] ∨ ∃ places, fraction = '.' :: places) :
    groupThousands (sign negative ++ (whole ++ fraction)) =
      sign negative ++ (groupDigits whole ++ fraction) := by
  have hpoint : ∀ c ∈ whole, (c != '.') = true := fun c hc => by
    rw [bne_iff_ne]
    rintro rfl
    exact absurd (hwhole '.' hc) (by decide)
  have htake : (whole ++ fraction).takeWhile (· != '.') = whole := by
    rw [List.takeWhile_append_of_pos hpoint]
    rcases hfraction with rfl | ⟨places, rfl⟩ <;> simp
  have hdrop : (whole ++ fraction).dropWhile (· != '.') = fraction := by
    rw [List.dropWhile_append_of_pos hpoint]
    rcases hfraction with rfl | ⟨places, rfl⟩ <;> simp
  cases negative with
  | true =>
      show groupThousands ('-' :: (whole ++ fraction)) = '-' :: (groupDigits whole ++ fraction)
      rw [groupThousands]
      dsimp only
      rw [htake, hdrop]
  | false =>
      show groupThousands (whole ++ fraction) = groupDigits whole ++ fraction
      rw [groupThousands]
      dsimp only
      rw [htake, hdrop]
      -- an unsigned numeral does not begin with a sign
      intro rest heq
      cases whole with
      | nil => rcases hfraction with rfl | ⟨places, rfl⟩ <;> cases heq
      | cons digit whole =>
          cases heq
          exact absurd (hwhole '-' List.mem_cons_self) (by decide)

end PlainQuery.Display

import PlainQuery.Proofs.Text.Pieces

/-!
# Lines

The lines of a text are what stands between its line feeds, so that there is always one more of them
than of line feeds: a line feed at the end is followed by an empty line.

Two texts with a line feed between them have the lines of the one and then those of the other
(`lines_append`), so texts joined by line feeds keep their lines (`lines_joined`).  Each of them has
at least one line, and exactly one if it has no line feed (`length_lines_eq_one_iff`).  So there is
one line for each of the texts exactly if none of them has a line feed in it
(`length_flatMap_lines_eq_iff`), and then the lines are the texts (`flatMap_lines_eq_self`).
-/

namespace PlainQuery.Text

/-- What stands between the line feeds of a text. -/
def lines (text : String) : List String := (pieces (· == '\n') text.toList).map String.ofList

variable {text : String} {texts : List String}

theorem lines_append (first rest : String) :
    lines (first ++ "\n" ++ rest) = lines first ++ lines rest := by
  have htext : (first ++ "\n" ++ rest).toList = first.toList ++ '\n' :: rest.toList := by
    simp
  simp only [lines, htext, pieces_eq_splitOn, List.splitOn_append_cons_self, List.map_append]

theorem lines_joined (hne : texts ≠ []) : lines (joined "\n" texts) = texts.flatMap lines := by
  induction texts with
  | nil => exact absurd rfl hne
  | cons first others ih =>
      cases others with
      | nil => simp [joined]
      | cons second others =>
          have hothers :
              lines (joined "\n" (second :: others)) = (second :: others).flatMap lines :=
            ih (List.cons_ne_nil second others)
          rw [joined, String.intercalate_cons_cons, lines_append, List.flatMap_cons, ← hothers,
            joined]

theorem lines_eq_singleton (htext : '\n' ∉ text.toList) : lines text = [text] := by
  rw [lines, pieces_eq_singleton htext, List.map_singleton, String.ofList_toList]

theorem lines_ne_nil (text : String) : lines text ≠ [] := by
  rw [lines, pieces_eq_splitOn]
  simp [List.splitOn_ne_nil]

theorem length_lines_pos (text : String) : 0 < (lines text).length :=
  List.length_pos_iff.mpr (lines_ne_nil text)

theorem length_lines_eq_one_iff : (lines text).length = 1 ↔ '\n' ∉ text.toList := by
  constructor
  · intro hlength hmem
    -- a line feed has a line in front of it and one behind it
    obtain ⟨front, behind, htext⟩ := List.append_of_mem hmem
    have hsplit : text = String.ofList front ++ "\n" ++ String.ofList behind := by
      apply String.toList_inj.mp
      simp [htext]
    have hfront := length_lines_pos (String.ofList front)
    have hbehind := length_lines_pos (String.ofList behind)
    rw [hsplit, lines_append, List.length_append] at hlength
    omega
  · intro hmem
    rw [lines_eq_singleton hmem, List.length_singleton]

/-- A numeral is all digits. -/
theorem line_not_mem_toString (n : Nat) : '\n' ∉ (toString n).toList := by
  rw [Nat.toString_eq_ofList_toDigits, String.toList_ofList]
  intro hmem
  exact absurd (Nat.isDigit_of_mem_toDigits (by decide) (by decide) hmem) (by decide)

theorem flatMap_lines_eq_self (htexts : ∀ text ∈ texts, '\n' ∉ text.toList) :
    texts.flatMap lines = texts := by
  induction texts with
  | nil => rfl
  | cons text texts ih =>
      rw [List.forall_mem_cons] at htexts
      rw [List.flatMap_cons, lines_eq_singleton htexts.1, ih htexts.2, List.singleton_append]

theorem length_le_length_flatMap_lines (texts : List String) :
    texts.length ≤ (texts.flatMap lines).length := by
  induction texts with
  | nil => exact Nat.le_refl _
  | cons text texts ih =>
      have hpos := length_lines_pos text
      rw [List.flatMap_cons, List.length_append, List.length_cons]
      omega

theorem length_flatMap_lines_eq_iff :
    (texts.flatMap lines).length = texts.length ↔ ∀ text ∈ texts, '\n' ∉ text.toList := by
  induction texts with
  | nil => simp
  | cons text texts ih =>
      have hpos := length_lines_pos text
      -- no text has too few lines, so none of them can make up for one with too many
      have hle := length_le_length_flatMap_lines texts
      rw [List.forall_mem_cons, ← ih, ← length_lines_eq_one_iff, List.flatMap_cons,
        List.length_append, List.length_cons]
      omega

end PlainQuery.Text

import PlainQuery.Text.Pieces

/-!
# Cutting texts at one character

`pieces` cuts a text as `List.splitOn` cuts a list (`pieces_eq_splitOn`), so what is known of the
one holds for the other.  This file is about cuts at one character, and about what stands next to
them.

The first piece ends at the first cut (`pieces_append_cut`), the last piece begins behind the last
one (`getLastD_pieces_append`), a text without a cut is its only piece (`pieces_eq_singleton`), and
no piece has a cut in it (`not_mem_of_mem_pieces`).
-/

namespace PlainQuery.Text

variable {cut : Char} {text piece : List Char}

theorem pieces_eq_splitOn (cut : Char) (text : List Char) :
    pieces (· == cut) text = text.splitOn cut := by
  rw [List.splitOn_eq_splitOnP]
  induction text with
  | nil => rfl
  | cons c rest ih =>
      rw [pieces, List.splitOnP_cons_eq_if_modifyHead, ih]
      cases hrest : rest.splitOnP (· == cut) with
      | nil => exact absurd hrest (List.splitOnP_ne_nil _ rest)
      | cons piece later => rfl

theorem pieces_eq_singleton (htext : cut ∉ text) : pieces (· == cut) text = [text] := by
  rw [pieces_eq_splitOn, List.splitOn_eq_singleton htext]

theorem pieces_append_cut (htext : cut ∉ text) (rest : List Char) :
    pieces (· == cut) (text ++ cut :: rest) = text :: pieces (· == cut) rest := by
  rw [pieces_eq_splitOn, List.splitOn_append_cons_self_of_not_mem htext, pieces_eq_splitOn]

/-- The last piece of a text stands behind the last cut. -/
theorem getLastD_pieces_append (front : List Char) (htext : cut ∉ text) :
    (pieces (· == cut) (front ++ cut :: text)).getLastD [] = text := by
  rw [pieces_eq_splitOn, List.splitOn_append_cons_self, List.splitOn_eq_singleton htext,
    List.getLastD_concat]

theorem not_mem_of_mem_pieces (hpiece : piece ∈ pieces (· == cut) text) : cut ∉ piece := by
  rw [pieces_eq_splitOn] at hpiece
  induction text generalizing piece with
  | nil => simp_all
  | cons c rest ih =>
      rw [List.splitOn_cons_eq_if_modifyHead] at hpiece
      split at hpiece
      · rcases List.mem_cons.mp hpiece with rfl | hpiece
        · exact List.not_mem_nil
        · exact ih hpiece
      · -- the character belongs to the first piece of the rest
        rename_i hc
        cases hrest : rest.splitOn cut with
        | nil => exact absurd hrest (List.splitOn_ne_nil cut rest)
        | cons first later =>
            rw [hrest] at hpiece ih
            rcases List.mem_cons.mp hpiece with rfl | hpiece
            · have hfirst : cut ∉ first := ih List.mem_cons_self
              have hne : cut ≠ c := fun heq => hc (by simp [heq])
              exact List.not_mem_cons_of_ne_of_not_mem hne hfirst
            · exact ih (List.mem_cons_of_mem _ hpiece)

end PlainQuery.Text

import Mathlib.Data.List.Infix
import Mathlib.Data.List.TakeWhile
import PlainQuery.Text.Blank

/-!
# Trimming up to a part that stays

A part of a text that neither begins nor ends with a blank is not touched when the text is trimmed:
the blanks go from what stands before the part and from what stands behind it (`strip_append`).  One
character that is no blank is enough on each side, so the lemmas for a side ask only for the first
or the last character of the part (`stripStart_append`, `stripEnd_append`).  Those for the end
follow from those for the start by reversing the texts.

The same holds for an ending that is dropped, if the part does not end with one of its characters
(`dropEnding?_append`).

What trimming gives has no blanks on its ends (`trimmed_strip`), and such a text is left alone
(`strip_eq_self`).  So the texts that are `Trimmed` are exactly those that trimming can give.  What
it takes away at the end are blanks only (`StripsEnd`), and all of a text only if it has nothing
else (`strip_eq_nil_iff`).
-/

namespace PlainQuery.Text

variable {c : Char} {front text behind ending : List Char}

/-- A beginning that does not have the next character of a part ends before the part. -/
theorem prefix_of_prefix_append (hc : c ∉ ending) (htext : text.head? = some c)
    (h : ending <+: front ++ text) : ending <+: front := by
  rcases List.prefix_or_prefix_of_prefix h (List.prefix_append front text) with hshort | hlong
  · exact hshort
  · obtain ⟨more, rfl⟩ := hlong
    rw [List.prefix_append_right_inj] at h
    cases more with
    | nil => simp
    | cons d more =>
        -- the part would begin inside of the text that does not have its first character
        obtain ⟨rest, rfl⟩ := h
        cases htext
        simp at hc

theorem suffix_of_suffix_append (hc : c ∉ ending) (htext : text.getLast? = some c)
    (h : ending <:+ text ++ behind) : ending <:+ behind := by
  rw [← List.reverse_prefix, List.reverse_append] at h
  rw [← List.reverse_prefix]
  exact prefix_of_prefix_append (by simpa using hc)
    (by rwa [List.head?_reverse]) h

theorem dropEnding?_append (hc : c ∉ ending) (htext : text.getLast? = some c) :
    dropEnding? ending (text ++ behind) = (dropEnding? ending behind).map (text ++ ·) := by
  simp only [dropEnding?, List.isSuffixOf_iff_suffix]
  by_cases h : ending <:+ behind
  -- the ending is taken off what stands behind the part
  · have hlength := h.length_le
    rw [if_pos h, if_pos (h.trans (List.suffix_append text behind)), Option.map_some,
      List.length_append, Nat.add_sub_assoc hlength, List.take_length_add_append]
  · rw [if_neg h, if_neg fun hsuffix => h (suffix_of_suffix_append hc htext hsuffix),
      Option.map_none]

theorem dropEnding?_self_append (text ending : List Char) :
    dropEnding? ending (text ++ ending) = some text := by
  simp [dropEnding?, List.isSuffixOf_iff_suffix]

theorem stripStart_append (hc : isBlank c = false) (htext : text.head? = some c) :
    stripStart (front ++ text) = stripStart front ++ text := by
  cases text with
  | nil => cases htext
  | cons d text =>
      cases htext
      rw [stripStart, List.dropWhile_append]
      split
      · rename_i hempty
        -- nothing is left of the front, and the part stops the trimming
        rw [List.dropWhile_cons_of_neg (by simp [hc]), stripStart, List.isEmpty_iff.mp hempty,
          List.nil_append]
      · rfl

theorem stripEnd_append (hc : isBlank c = false) (htext : text.getLast? = some c) :
    stripEnd (text ++ behind) = text ++ stripEnd behind := by
  have hreverse : stripStart (behind.reverse ++ text.reverse) =
      stripStart behind.reverse ++ text.reverse :=
    stripStart_append hc (by rwa [List.head?_reverse])
  rw [stripEnd, List.reverse_append, ← stripStart, hreverse, List.reverse_append,
    List.reverse_reverse]
  rfl

theorem stripEnd_eq_self (hc : isBlank c = false) (htext : text.getLast? = some c) :
    stripEnd text = text := by
  have happend : stripEnd (text ++ []) = text ++ stripEnd [] := stripEnd_append hc htext
  simpa [show stripEnd [] = [] from rfl] using happend

/-- The part stays when the text around it is trimmed. -/
theorem strip_append {d : Char} (hc : isBlank c = false) (hd : isBlank d = false)
    (hstart : text.head? = some c) (hend : text.getLast? = some d) :
    strip (front ++ (text ++ behind)) = stripStart front ++ (text ++ stripEnd behind) := by
  have hhead : (text ++ behind).head? = some c := by
    rw [List.head?_append, hstart, Option.some_or]
  rw [strip, stripStart_append hc hhead]
  -- trimming at the end sees the part together with all that stands before it
  have hlast : (stripStart front ++ text).getLast? = some d := by
    rw [List.getLast?_append, hend, Option.some_or]
  rw [← List.append_assoc, stripEnd_append hd hlast, List.append_assoc]

theorem stripStart_eq_nil (h : ∀ c ∈ text, isBlank c = true) : stripStart text = [] :=
  List.dropWhile_eq_nil_iff.mpr h

theorem stripEnd_eq_nil (h : ∀ c ∈ text, isBlank c = true) : stripEnd text = [] := by
  rw [stripEnd, ← stripStart, stripStart_eq_nil (by simpa using h), List.reverse_nil]

theorem isBlank_of_head?_stripStart (hc : c ∈ (stripStart text).head?) : isBlank c = false := by
  have hnot := List.head?_dropWhile_not isBlank text
  rw [stripStart] at hc
  rw [Option.mem_def.mp hc] at hnot
  simpa using hnot

/-! ## Blanks at the end -/

/-- The first text is the second one with blanks behind it, and the second one ends with none. -/
structure StripsEnd (text stripped : List Char) : Prop where
  blanks : ∃ blanks, text = stripped ++ blanks ∧ ∀ c ∈ blanks, isBlank c = true
  last : ∀ c ∈ stripped.getLast?, isBlank c = false

theorem stripsEnd_stripEnd (text : List Char) : StripsEnd text (stripEnd text) where
  blanks := by
    refine ⟨(text.reverse.takeWhile isBlank).reverse, ?_, ?_⟩
    · rw [stripEnd, ← List.reverse_append, List.takeWhile_append_dropWhile, List.reverse_reverse]
    · intro c hc
      exact List.mem_takeWhile_imp (List.mem_reverse.mp hc)
  last := by
    intro c hc
    rw [stripEnd, List.getLast?_reverse] at hc
    exact isBlank_of_head?_stripStart hc

theorem stripEnd_append_blanks (h : ∀ c ∈ behind, isBlank c = true) :
    stripEnd (text ++ behind) = stripEnd text := by
  rw [stripEnd, List.reverse_append, List.dropWhile_append_of_pos (by simpa using h), stripEnd]

/-- A character in front of a text goes away only with the whole text. -/
theorem mem_stripEnd_cons {d : Char} (hne : c ≠ d) :
    c ∈ stripEnd (d :: text) ↔ c ∈ stripEnd text := by
  simp only [stripEnd, List.mem_reverse, List.reverse_cons, List.dropWhile_append]
  split
  · rename_i hempty
    rw [List.isEmpty_iff.mp hempty]
    refine iff_of_false (fun hmem => hne ?_) List.not_mem_nil
    exact List.mem_singleton.mp ((List.dropWhile_suffix isBlank).mem hmem)
  · simp [hne]

/-! ## Trimmed texts -/

/-- The text neither begins nor ends with a blank. -/
def Trimmed (text : List Char) : Prop :=
  (∀ c ∈ text.head?, isBlank c = false) ∧ ∀ c ∈ text.getLast?, isBlank c = false

instance (text : List Char) : Decidable (Trimmed text) :=
  @instDecidableAnd _ _ (Option.decidableForallMem _) (Option.decidableForallMem _)

theorem strip_eq_self (h : Trimmed text) : strip text = text := by
  cases text with
  | nil => rfl
  | cons c rest =>
      have hstart : stripStart (c :: rest) = c :: rest :=
        List.dropWhile_cons_of_neg (by simp [h.1 c rfl])
      rw [strip, hstart]
      exact stripEnd_eq_self (h.2 _ (List.getLast?_eq_some_getLast (List.cons_ne_nil c rest)))
        (List.getLast?_eq_some_getLast _)

theorem stripEnd_prefix (text : List Char) : stripEnd text <+: text := by
  have hsuffix := List.dropWhile_suffix (l := text.reverse) isBlank
  rwa [← List.reverse_prefix, List.reverse_reverse] at hsuffix

theorem trimmed_strip (text : List Char) : Trimmed (strip text) := by
  refine ⟨fun c hc => ?_, fun c hc => ?_⟩
  · -- what is left at the end is a beginning of what is left at the start
    obtain ⟨behind, hbehind⟩ := stripEnd_prefix (stripStart text)
    rw [strip, Option.mem_def] at hc
    have hhead : c ∈ (stripStart text).head? := by
      rw [← hbehind, List.head?_append, hc]
      rfl
    exact isBlank_of_head?_stripStart hhead
  · exact (stripsEnd_stripEnd _).last c hc

theorem strip_eq_nil_iff : strip text = [] ↔ ∀ c ∈ text, isBlank c = true := by
  constructor
  · intro h
    rw [strip, stripEnd, List.reverse_eq_nil_iff, List.dropWhile_eq_nil_iff] at h
    -- the first character that is left would be a blank and none
    cases hstart : stripStart text with
    | nil => exact List.dropWhile_eq_nil_iff.mp hstart
    | cons c rest =>
        have hnot : isBlank c = false :=
          isBlank_of_head?_stripStart (by rw [hstart]; rfl)
        rw [h c (by simp [hstart])] at hnot
        cases hnot
  · intro h
    rw [strip, stripStart_eq_nil h]
    rfl

/-! ### Strings -/

theorem trim_eq_self {text : String} (h : Trimmed text.toList) : trim text = text := by
  rw [trim, strip_eq_self h, String.ofList_toList]

theorem trimmed_trim (text : String) : Trimmed (trim text).toList := by
  rw [trim, String.toList_ofList]
  exact trimmed_strip _

theorem trim_eq_empty_iff {text : String} :
    trim text = "" ↔ ∀ c ∈ text.toList, isBlank c = true := by
  rw [← strip_eq_nil_iff, ← String.toList_inj, trim, String.toList_ofList, String.toList_empty]

end PlainQuery.Text

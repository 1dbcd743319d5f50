import Mathlib.Data.List.Induction
import Mathlib.Data.List.Nodup

/-!
# First occurrences

`List.eraseDups` leaves the first occurrence of each name of a list.  A name at the end of the list
is left there exactly if it is new (`eraseDups_concat`), which is the step of all inductions here;
they are from the end, because at the front a name also changes what is left of the others.

Nothing is left twice (`nodup_eraseDups`), and all of the list is left exactly where nothing is
repeated (`eraseDups_of_nodup`, `nodup_of_length_eraseDups`).  So the images of names are distinct
if and only if those of the first occurrences are and nothing is repeated (`nodup_map_iff`).
-/

namespace PlainQuery

theorem eraseDups_concat (names : List String) (name : String) :
    (names ++ [name]).eraseDups =
      if name ∈ names then names.eraseDups else names.eraseDups ++ [name] := by
  rw [List.eraseDups_append]
  by_cases hmem : name ∈ names
  · have hnone : [name].removeAll names = [] := by simp [List.removeAll, hmem]
    rw [if_pos hmem, hnone, List.eraseDups_nil, List.append_nil]
  · have hone : [name].removeAll names = [name] := by simp [List.removeAll, hmem]
    rw [if_neg hmem, hone]
    rfl

theorem nodup_eraseDups (names : List String) : names.eraseDups.Nodup := by
  induction names using List.reverseRecOn with
  | nil => exact List.nodup_nil
  | append_singleton names name ih =>
      rw [eraseDups_concat]
      split
      · exact ih
      · rename_i hmem
        have hfresh : name ∉ names.eraseDups := fun h => hmem (List.mem_eraseDups.mp h)
        rw [← List.concat_eq_append]
        exact ih.concat hfresh

theorem eraseDups_of_nodup {names : List String} (h : names.Nodup) : names.eraseDups = names := by
  induction names using List.reverseRecOn with
  | nil => rfl
  | append_singleton names name ih =>
      rw [List.nodup_append] at h
      obtain ⟨hnames, -, hdisjoint⟩ := h
      have hfresh : name ∉ names := fun hmem => hdisjoint name hmem name (by simp) rfl
      rw [eraseDups_concat, if_neg hfresh, ih hnames]

theorem length_eraseDups_le (names : List String) : names.eraseDups.length ≤ names.length := by
  induction names using List.reverseRecOn with
  | nil => exact Nat.le_refl _
  | append_singleton names name ih =>
      rw [eraseDups_concat]
      split <;> simp <;> omega

theorem nodup_of_length_eraseDups {names : List String}
    (h : names.eraseDups.length = names.length) : names.Nodup := by
  induction names using List.reverseRecOn with
  | nil => exact List.nodup_nil
  | append_singleton names name ih =>
      have hle := length_eraseDups_le names
      rw [eraseDups_concat] at h
      split at h
      · -- one name was erased, and no list gets longer by erasing
        simp only [List.length_append, List.length_singleton] at h
        omega
      · rename_i hfresh
        simp only [List.length_append, List.length_singleton, Nat.add_right_cancel_iff] at h
        rw [← List.concat_eq_append]
        exact (ih h).concat hfresh

/-- The images of names are distinct exactly if those of their first occurrences are, and nothing is
repeated. -/
theorem nodup_map_iff {α : Type} (f : String → α) (names : List String) :
    (names.map f).Nodup ↔
      (names.eraseDups.map f).Nodup ∧ names.eraseDups.length = names.length := by
  constructor
  · intro h
    rw [eraseDups_of_nodup h.of_map]
    exact ⟨h, rfl⟩
  · rintro ⟨h, hlength⟩
    rwa [eraseDups_of_nodup (nodup_of_length_eraseDups hlength)] at h

end PlainQuery

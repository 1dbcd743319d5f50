import Mathlib.Data.List.Induction
import Mathlib.Data.List.Nodup
import PlainQuery.Fields

/-!
# Maps made from lists of pairs

A map keeps its pairs in the order of their names.  `ofList` makes one from a list by putting one
pair after the other in its place, so everything here is by induction from the end of the list
(`ofList_concat`).

* **Distinct names.**  The pairs of the list come out in another order and none is lost
  (`ofList_perm`), and each name has the value it was paired with (`get?_ofList`).

* **Repeated names.**  The last pair counts (`get?_ofList_eq_lookup`).

* **Without values.**  A change of all values may be made before or after (`map_ofList`), so which
  names the map has, and in which order, does not depend on the values (`keys_ofList_congr`).
-/

namespace PlainQuery.Fields

variable {α β : Type}

/-! ## Distinct names -/

theorem insert_perm {key : String} (value : α) {fields : Fields α} (hkey : key ∉ keys fields) :
    (insert key value fields).Perm ((key, value) :: fields) := by
  induction fields with
  | nil => exact List.Perm.refl _
  | cons pair rest ih =>
      obtain ⟨name, other⟩ := pair
      simp only [keys, List.map_cons, List.mem_cons, not_or] at hkey
      simp only [insert, if_neg hkey.1]
      split
      · exact List.Perm.refl _
      · -- the pair goes behind one whose name comes first
        exact ((ih hkey.2).cons _).trans (List.Perm.swap _ _ _)

theorem ofList_concat (pairs : List (String × α)) (pair : String × α) :
    ofList (pairs ++ [pair]) = insert pair.1 pair.2 (ofList pairs) := by
  simp [ofList]

/-- A map made from pairs with distinct names consists of these pairs. -/
theorem ofList_perm {pairs : List (String × α)} (hnodup : (pairs.map Prod.fst).Nodup) :
    (ofList pairs).Perm pairs := by
  induction pairs using List.reverseRecOn with
  | nil => exact List.Perm.refl _
  | append_singleton pairs pair ih =>
      rw [List.map_append, List.nodup_append] at hnodup
      obtain ⟨hpairs, -, hdisjoint⟩ := hnodup
      have hperm := ih hpairs
      -- the name is new to the map as it is new to the list
      have hfresh : pair.1 ∉ keys (ofList pairs) := by
        intro hmem
        have hmem' : pair.1 ∈ pairs.map Prod.fst := (hperm.map Prod.fst).mem_iff.mp hmem
        exact hdisjoint _ hmem' _ (by simp) rfl
      rw [ofList_concat]
      exact ((insert_perm pair.2 hfresh).trans (hperm.cons _)).trans
        (List.perm_append_singleton _ _).symm

/-- In a map made from pairs with distinct names, every name has the value of its pair. -/
theorem get?_ofList {pairs : List (String × α)} (hnodup : (pairs.map Prod.fst).Nodup)
    {pair : String × α} (hmem : pair ∈ pairs) : (ofList pairs).get? pair.1 = some pair.2 := by
  induction pairs using List.reverseRecOn with
  | nil => simp at hmem
  | append_singleton pairs last ih =>
      rw [ofList_concat]
      rw [List.map_append, List.nodup_append] at hnodup
      obtain ⟨hpairs, -, hdisjoint⟩ := hnodup
      rcases List.mem_append.mp hmem with hmem | hmem
      · have hne : pair.1 ≠ last.1 :=
          hdisjoint _ (List.mem_map_of_mem hmem) _ (by simp)
        rw [get?_insert_of_ne hne]
        exact ih hpairs hmem
      · rw [List.mem_singleton.mp hmem]
        exact get?_insert_self _ _ _

/-! ## Repeated names -/

/-- Of several pairs of one name the last counts. -/
theorem get?_ofList_eq_lookup (pairs : List (String × α)) (name : String) :
    (ofList pairs).get? name = pairs.reverse.lookup name := by
  induction pairs using List.reverseRecOn with
  | nil => rfl
  | append_singleton pairs last ih =>
      rw [ofList_concat, List.reverse_append, List.reverse_singleton, List.singleton_append]
      by_cases heq : name = last.1
      · rw [heq, get?_insert_self, List.lookup_cons_self]
      · have hname : (name == last.1) = false := by simpa using heq
        rw [get?_insert_of_ne heq, ih, List.lookup_cons, hname]

/-! ## Names without values -/

theorem map_insert (change : α → β) (key : String) (value : α) (fields : Fields α) :
    (insert key value fields).map (Prod.map id change) =
      insert key (change value) (fields.map (Prod.map id change)) := by
  induction fields with
  | nil => rfl
  | cons pair rest ih =>
      obtain ⟨name, other⟩ := pair
      simp only [insert, List.map_cons, Prod.map_apply, id_eq]
      split
      · rfl
      · split
        · rfl
        · rw [List.map_cons, ih]
          rfl

theorem map_ofList (change : α → β) (pairs : List (String × α)) :
    (ofList pairs).map (Prod.map id change) = ofList (pairs.map (Prod.map id change)) := by
  induction pairs using List.reverseRecOn with
  | nil => rfl
  | append_singleton pairs pair ih =>
      rw [ofList_concat, map_insert, ih, List.map_append, List.map_singleton, ofList_concat]
      rfl

/-- The names of a map made from pairs depend on the names of the pairs alone. -/
theorem keys_ofList_congr {pairs : List (String × α)} {others : List (String × β)}
    (hnames : pairs.map Prod.fst = others.map Prod.fst) :
    (ofList pairs).keys = (ofList others).keys := by
  -- the map of the same names with nothing at each of them
  have hkeys : ∀ {γ : Type} (entries : List (String × γ)),
      (ofList entries).keys =
        (ofList ((entries.map Prod.fst).map fun name => (name, ()))).keys := by
    intro γ entries
    have h := congrArg (List.map Prod.fst) (map_ofList (fun _ => ()) entries)
    rw [List.map_map] at h
    rw [List.map_map]
    exact h
  rw [hkeys pairs, hkeys others, hnames]

end PlainQuery.Fields

/-!
# Fields in key order

`Fields α` is a finite map from names to values, kept as the list of its pairs in increasing order
of the names.  Objects of documents, parameters of a query and rows of a result are such maps: a
name has one value, and a later `insert` replaces an earlier one.
-/

namespace PlainQuery

/-- A finite map from names to values, listed in the order of the names. -/
abbrev Fields (α : Type) := List (String × α)

namespace Fields

variable {α β : Type}

/-- The map with `value` at `key`. -/
def insert (key : String) (value : α) : Fields α → Fields α
  | [] => [(key, value)]
  | (name, other) :: rest =>
    if key < name then (key, value) :: (name, other) :: rest
    else if key = name then (key, value) :: rest
    else (name, other) :: insert key value rest

/-- The value at `key`. -/
def get? (fields : Fields α) (key : String) : Option α := fields.lookup key

/-- The map of the pairs, the last of several values of one name. -/
def ofList (pairs : List (String × α)) : Fields α :=
  pairs.foldl (fun fields pair => insert pair.1 pair.2 fields) []

/-- The map without `key`. -/
def erase (key : String) (fields : Fields α) : Fields α := fields.filter fun pair => pair.1 != key

/-- The names in order. -/
def keys (fields : Fields α) : List String := fields.map Prod.fst

/-- After an insertion the name has the inserted value. -/
theorem get?_insert_self (key : String) (value : α) (fields : Fields α) :
    (insert key value fields).get? key = some value := by
  unfold get?
  induction fields with
  | nil => simp [insert]
  | cons pair rest ih =>
    obtain ⟨name, other⟩ := pair
    simp only [insert]
    split
    · rw [List.lookup_cons_self]
    · split
      · rw [List.lookup_cons_self]
      · rename_i hne
        have hname : (key == name) = false := by simpa using hne
        rw [List.lookup_cons, hname]
        exact ih

/-- An insertion leaves every other name alone. -/
theorem get?_insert_of_ne {key other : String} (hne : other ≠ key) (value : α)
    (fields : Fields α) : (insert key value fields).get? other = fields.get? other := by
  have hkey : (other == key) = false := by simpa using hne
  unfold get?
  induction fields with
  | nil => rw [insert, List.lookup_cons, hkey]
  | cons pair rest ih =>
    obtain ⟨name, value'⟩ := pair
    simp only [insert]
    split
    · rw [List.lookup_cons, hkey]
    · split
      · rename_i heq
        rw [List.lookup_cons, List.lookup_cons, ← heq, hkey]
      · rw [List.lookup_cons, List.lookup_cons, ih]

/-- An erased name has no value. -/
theorem get?_erase_self (key : String) (fields : Fields α) :
    (erase key fields).get? key = none := by
  refine List.lookup_eq_none_iff.mpr fun pair hmem => ?_
  have hne : pair.1 ≠ key := by simpa using (List.mem_filter.mp hmem).2
  simpa using hne.symm

/-- An erasure leaves every other name alone. -/
theorem get?_erase_of_ne {key other : String} (hne : other ≠ key) (fields : Fields α) :
    (erase key fields).get? other = fields.get? other := by
  unfold get? erase
  induction fields with
  | nil => rfl
  | cons pair rest ih =>
    obtain ⟨name, value⟩ := pair
    rw [List.filter_cons]
    split
    · rw [List.lookup_cons, List.lookup_cons, ih]
    · rename_i herased
      have hname : name = key := by simpa using herased
      have hother : (other == name) = false := by simpa [hname] using hne
      rw [ih, List.lookup_cons, hother]

end Fields

end PlainQuery

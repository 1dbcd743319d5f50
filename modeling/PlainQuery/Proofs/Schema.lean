import Mathlib.Data.List.Nodup
import PlainQuery.Schema.Basic

/-!
# Canonical names

Tables are looked up without regard to case, and the first table of a schema that fits is found.  So
a schema may have two tables whose names differ in case only, of which the second is never found.

A name is *canonical* if it is the exact name of the table that it finds (`Canonical`).

* The name of a table that was found is canonical, whatever it was found by (`canonical_of_table?`):
  the names equal to it up to case are the same ones (`table?_congr`).

* On canonical names the comparison without case is equality (`Canonical.eq_of_equalIgnoringCase`).
  That is why names that were looked up may be compared either way, and why canonical names without
  repetition differ in more than case (`pairwise_of_canonical`).

`Finds` is what a list of names comes to: the tables that are found by one of them.
-/

namespace PlainQuery

namespace Text

theorem equalIgnoringCase_iff {left right : String} :
    equalIgnoringCase left right = true ↔
      left.toList.map Char.toLower = right.toList.map Char.toLower := by
  unfold equalIgnoringCase
  rw [beq_iff_eq]

theorem equalIgnoringCase_refl (name : String) : equalIgnoringCase name name = true :=
  equalIgnoringCase_iff.mpr rfl

theorem equalIgnoringCase_comm (left right : String) :
    equalIgnoringCase left right = equalIgnoringCase right left := BEq.comm

/-- Names that are equal up to case are equal up to case to the same names. -/
theorem equalIgnoringCase_congr {left right : String} (h : equalIgnoringCase left right = true)
    (name : String) : equalIgnoringCase name left = equalIgnoringCase name right := by
  unfold equalIgnoringCase
  rw [equalIgnoringCase_iff.mp h]

end Text

namespace Schema

variable {schema : Schema}

/-- The name is exactly that of the table that is found by it. -/
def Canonical (schema : Schema) (name : String) : Prop :=
  ∃ table, schema.table? name = some table ∧ table.name = name

/-- The spelling that the schema has for a name: of the names of its tables that are equal to it up
to case, the first. -/
def spelling? (schema : Schema) (name : String) : Option String :=
  schema.tableNames.find? fun known => Text.equalIgnoringCase known name

theorem spelling?_eq (name : String) :
    schema.spelling? name = (schema.table? name).map Table.name := by
  unfold spelling? tableNames
  rw [List.find?_map]
  rfl

theorem mem_of_spelling? {name known : String} (h : schema.spelling? name = some known) :
    known ∈ schema.tableNames ∧ Text.equalIgnoringCase known name = true := by
  have hcase := List.find?_some h
  exact ⟨List.mem_of_find?_eq_some h, hcase⟩

/-- Names that are equal up to case find the same table. -/
theorem table?_congr {left right : String} (h : Text.equalIgnoringCase left right = true) :
    schema.table? left = schema.table? right := by
  unfold table?
  congr 1
  funext table
  exact Text.equalIgnoringCase_congr h table.name

/-- A table that is found is found by its own name. -/
theorem table?_name {name : String} {table : Table} (h : schema.table? name = some table) :
    schema.table? table.name = some table := by
  have hcase := List.find?_some h
  exact (table?_congr hcase).trans h

theorem canonical_of_table? {name : String} {table : Table}
    (h : schema.table? name = some table) : schema.Canonical table.name :=
  ⟨table, table?_name h, rfl⟩

/-- Of two tables that are found by their names, only the name matters. -/
theorem eq_of_name_eq {table other : Table} (htable : schema.table? table.name = some table)
    (hother : schema.table? other.name = some other) (h : table.name = other.name) :
    table = other := by
  rw [h, hother] at htable
  exact (Option.some.inj htable).symm

/-- The table is found by one of the names. -/
def Finds (schema : Schema) (names : List String) (table : Table) : Prop :=
  ∃ name ∈ names, schema.table? name = some table

theorem finds_cons {name : String} {names : List String} {table : Table} :
    schema.Finds (name :: names) table ↔
      schema.table? name = some table ∨ schema.Finds names table := by
  simp [Finds]

theorem Finds.table?_name {names : List String} {table : Table} (h : schema.Finds names table) :
    schema.table? table.name = some table := by
  obtain ⟨name, -, hname⟩ := h
  exact Schema.table?_name hname

theorem Finds.canonical {names : List String} {table : Table} (h : schema.Finds names table) :
    schema.Canonical table.name :=
  ⟨table, h.table?_name, rfl⟩

namespace Canonical

variable {name other : String}

theorem mem_tableNames (h : schema.Canonical name) : name ∈ schema.tableNames := by
  obtain ⟨table, hfound, rfl⟩ := h
  exact List.mem_map_of_mem (List.mem_of_find?_eq_some hfound)

theorem spelling?_eq (h : schema.Canonical name) : schema.spelling? name = some name := by
  obtain ⟨table, hfound, hname⟩ := h
  rw [Schema.spelling?_eq, hfound, Option.map_some, hname]

theorem canonicalName_eq (h : schema.Canonical name) : schema.canonicalName name = name := by
  obtain ⟨table, hfound, hname⟩ := h
  unfold canonicalName
  rw [hfound]
  exact hname

/-- Canonical names that differ in case only are the same name. -/
theorem eq_of_equalIgnoringCase (hname : schema.Canonical name) (hother : schema.Canonical other)
    (h : Text.equalIgnoringCase name other = true) : name = other := by
  obtain ⟨table, hfound, rfl⟩ := hname
  obtain ⟨table', hfound', rfl⟩ := hother
  rw [table?_congr h, hfound'] at hfound
  cases hfound
  rfl

end Canonical

/-- Canonical names without repetition are pairwise different in more than their case. -/
theorem pairwise_of_canonical {names : List String} (hall : ∀ name ∈ names, schema.Canonical name)
    (hnodup : names.Nodup) :
    names.Pairwise fun first second => Text.equalIgnoringCase first second = false := by
  refine List.Pairwise.imp_of_mem ?_ hnodup
  -- names that are equal up to case would be one name
  intro first second hfirst hsecond hne
  rw [← Bool.not_eq_true]
  intro hcase
  exact hne ((hall first hfirst).eq_of_equalIgnoringCase (hall second hsecond) hcase)

end Schema

end PlainQuery

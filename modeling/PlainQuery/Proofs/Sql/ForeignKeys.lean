import PlainQuery.Proofs.Sql.Reachability

/-!
# The foreign keys behind inferred joins

`inferJoins_maximal` says which tables are joined; this file says on what.  The two directions of a
foreign key are easily mixed up: if the table that is joined has the key, then the column of the key
stands on the right side of the condition, and if a table that is there has it, on the left side.

```text
target has the key    LEFT JOIN target ON source.referenced = target.column
source has the key    LEFT JOIN target ON source.column     = target.referenced
```

Every inferred join is of one of these two kinds (`Justified`), and the first kind comes first: a
key of a table that is there is used only if the joined table has none on any of them.

The statement is about one join in the middle of the list.  The tables that are *there* are the
first one and those of the joins in front of it, so `Justified` is stated for every way to cut the
list in two (`inferJoins_justified`).  That the new table is really new, in more than the case of
its name, comes from the names being those of the schema (`fresh_of_inferJoins`).
-/

namespace PlainQuery

namespace Sql

variable {schema : Schema} {anchor : Table} {first : String} {others : List String}

/-- The join adds a table that is asked for and new, and compares the two columns between which a
foreign key is declared; a key of the new table on one that is there goes before all others. -/
structure Justified (schema : Schema) (asked : List String) (there : List Table)
    (found : Join × Table) : Prop where
  asked : schema.Finds asked found.2
  fresh : ∀ table ∈ there, Text.equalIgnoringCase table.name found.2.name = false
  keyed : (∃ source ∈ there, found.1.ByOwnKey source found.2) ∨
    ∃ source ∈ there, found.1.ByOtherKey source found.2
  preferred : (∃ source ∈ there, found.2.RefersTo source) →
    ∃ source ∈ there, found.1.ByOwnKey source found.2

theorem Justified.exists_source {asked : List String} {there : List Table} {found : Join × Table}
    (h : Justified schema asked there found) :
    ∃ source ∈ there, found.1.ByKey source found.2 := by
  rcases h.keyed with ⟨source, hsource, hkey⟩ | ⟨source, hsource, hkey⟩
  · exact ⟨source, hsource, hkey.byKey⟩
  · exact ⟨source, hsource, hkey.byKey⟩

/-- A table that is joined later differs from all earlier ones in more than the case of its name. -/
theorem fresh_of_inferJoins (hanchor : schema.table? first = some anchor)
    {earlier later : List (Join × Table)} {found : Join × Table}
    (hjoins : inferJoins schema (first :: others) = earlier ++ found :: later) :
    ∀ table ∈ anchor :: earlier.map Prod.snd,
      Text.equalIgnoringCase table.name found.2.name = false := by
  -- all names are spelled as in the schema, where case does not tell two tables apart
  have hcanonical : ∀ name ∈ anchor.name ::
      (inferJoins schema (first :: others)).map (fun found => found.2.name),
      schema.Canonical name := by
    intro name hmem
    rcases List.mem_cons.mp hmem with rfl | hmem
    · exact Schema.canonical_of_table? hanchor
    · obtain ⟨found, hfound, rfl⟩ := List.mem_map.mp hmem
      have hpending := mem_pendingTables_of_mem_inferJoins hanchor hfound
      exact (mem_pendingTables_iff.mp hpending).1.canonical
  have hpairwise :=
    Schema.pairwise_of_canonical hcanonical (nodup_inferJoins others hanchor)
  -- what stands before the found table in this list are the tables that are there
  rw [hjoins, List.map_append, ← List.cons_append] at hpairwise
  intro table hmem
  refine (List.pairwise_append.mp hpairwise).2.2 table.name ?_ found.2.name List.mem_cons_self
  rcases List.mem_cons.mp hmem with rfl | hmem
  · exact List.mem_cons_self
  · obtain ⟨other, hother, rfl⟩ := List.mem_map.mp hmem
    exact List.mem_cons_of_mem _ (List.mem_map.mpr ⟨other, hother, rfl⟩)

theorem justified_of_inferJoins (hanchor : schema.table? first = some anchor)
    {earlier later : List (Join × Table)} {found : Join × Table}
    (hjoins : inferJoins schema (first :: others) = earlier ++ found :: later) :
    Justified schema others (anchor :: earlier.map Prod.snd) found := by
  have hmem : found ∈ inferJoins schema (first :: others) := by
    rw [hjoins]
    simp
  have hattached := (inferJoins_exhausts others hanchor).attached
  rw [hjoins] at hattached
  have hspec := joinTo?_spec hattached.joinTo?_eq
  rw [List.singleton_append] at hspec
  refine
    { asked := (mem_pendingTables_iff.mp (mem_pendingTables_of_mem_inferJoins hanchor hmem)).1
      fresh := fresh_of_inferJoins hanchor hjoins
      keyed := ?_
      preferred := ?_ }
  · exact hspec.imp_right And.right
  · rintro ⟨source, hsource, hrefers⟩
    -- a key of the other table is used only where there is no own one
    rcases hspec with hown | ⟨hnone, -⟩
    · exact hown
    · exact absurd hrefers (hnone source hsource)

/-- There are joins only if the first table asked for is known. -/
theorem exists_justified_of_inferJoins {names : List String} {earlier later : List (Join × Table)}
    {found : Join × Table} (hjoins : inferJoins schema names = earlier ++ found :: later) :
    ∃ first others anchor, names = first :: others ∧ schema.table? first = some anchor ∧
      Justified schema others (anchor :: earlier.map Prod.snd) found := by
  cases names with
  | nil => simp [inferJoins] at hjoins
  | cons first others =>
      cases hanchor : schema.table? first with
      | none => simp [inferJoins, hanchor] at hjoins
      | some anchor =>
          exact ⟨first, others, anchor, rfl, hanchor, justified_of_inferJoins hanchor hjoins⟩

theorem target_of_mem_inferJoins {names : List String} {found : Join × Table}
    (hmem : found ∈ inferJoins schema names) : found.1.target = .ofName found.2.name := by
  obtain ⟨earlier, later, hjoins⟩ := List.append_of_mem hmem
  obtain ⟨first, others, anchor, -, -, hfound⟩ := exists_justified_of_inferJoins hjoins
  obtain ⟨source, -, hkey⟩ := hfound.exists_source
  exact hkey.target_eq

/-- **Every inferred join is justified by a foreign key**, between the table it adds and one that is
there before it.  The names that are recorded are those of the added tables, in this order. -/
theorem inferJoins_justified (schema : Schema) (names : List String) :
    (inferJoins schema names).map (fun found => found.1.target) =
        (joinedTables schema names).map (fun table => .ofName table.name) ∧
      ∀ earlier found later, inferJoins schema names = earlier ++ found :: later →
        ∃ first others anchor, names = first :: others ∧ schema.table? first = some anchor ∧
          Justified schema others (anchor :: earlier.map Prod.snd) found := by
  constructor
  · unfold joinedTables
    rw [List.map_map]
    exact List.map_congr_left fun found hmem => target_of_mem_inferJoins hmem
  · intro earlier found later hjoins
    exact exists_justified_of_inferJoins hjoins

/-- Employees and departments refer to each other, and departments to offices. -/
def staffSchema : Schema where
  tables :=
    [{ name := "employees"
       columns :=
         [{ name := "id", dataType := "INTEGER" },
          .referencing "departments" "number" { name := "department", dataType := "INTEGER" }] },
     { name := "departments"
       columns :=
         [{ name := "number", dataType := "INTEGER" },
          .referencing "Employees" "id" { name := "head", dataType := "INTEGER" },
          .referencing "offices" "code" { name := "office", dataType := "TEXT" }] },
     { name := "offices", columns := [{ name := "code", dataType := "TEXT" }] }]
  discoveredAt := default

/-- Departments are joined on their own key although employees have one too, and offices on the key
of the departments. -/
theorem justified_staff :
    ∃ employees departments offices,
      inferJoins staffSchema ["employees", "OFFICES", "departments"] = [departments, offices] ∧
      departments.1 =
        { target := .ofName "departments", source := .ofName "employees"
          sourceColumn := .ofName "id", targetColumn := .ofName "head" } ∧
      Justified staffSchema ["OFFICES", "departments"] [employees] departments ∧
      offices.1 =
        { target := .ofName "offices", source := .ofName "departments"
          sourceColumn := .ofName "office", targetColumn := .ofName "code" } ∧
      Justified staffSchema ["OFFICES", "departments"] [employees, departments.2] offices := by
  obtain ⟨departments, offices, hjoins, hdepartments, hoffices⟩ :
      ∃ departments offices,
        inferJoins staffSchema ["employees", "OFFICES", "departments"] = [departments, offices] ∧
        departments.1 = ⟨.ofName "departments", .ofName "employees", .ofName "id", .ofName "head"⟩ ∧
        offices.1 = ⟨.ofName "offices", .ofName "departments", .ofName "office", .ofName "code"⟩ :=
    ⟨_, _, rfl, rfl, rfl⟩
  obtain ⟨-, hjustified⟩ :=
    inferJoins_justified staffSchema ["employees", "OFFICES", "departments"]
  obtain ⟨first, others, anchor, hnames, hanchor, hfirst⟩ := hjustified [] _ _ hjoins
  obtain ⟨first', others', anchor', hnames', hanchor', hsecond⟩ :=
    hjustified [departments] _ _ hjoins
  obtain ⟨rfl, rfl⟩ := List.cons.inj hnames
  obtain ⟨rfl, rfl⟩ := List.cons.inj hnames'
  rw [hanchor] at hanchor'
  cases hanchor'
  exact ⟨anchor, departments, offices, hjoins, hdepartments, hfirst, hoffices, hsecond⟩

end Sql

end PlainQuery

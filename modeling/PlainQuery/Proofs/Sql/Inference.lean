import Mathlib.Data.List.Perm.Basic
import PlainQuery.Proofs.Schema
import PlainQuery.Sql.Joins

/-!
# The rounds of the inference of joins

The inference keeps a list of tables that are there and a list of pending ones, and moves one
pending table after the other.  This file says what it comes to, from a single join to all rounds.

* **One join.**  A table can be joined to one of several tables exactly if a foreign key links it to
  one of them (`joinTo?_eq_none_iff`), and then the join is on such a key, of the table itself if it
  has one (`joinTo?_spec`).

* **One round.**  It takes a pending table for which there is a join, if there is one at all
  (`takeJoinable?_spec`, `takeJoinable?_eq_none_iff`), and leaves the others pending.

* **All rounds.**  What they come to is said without rounds: every table is joined to those that are
  there before it (`Attached`), and nothing that is left over can be joined (`Exhausts`).  The
  program stops when a round takes nothing, or after as many rounds as there are pending tables; the
  bound is never what stops it too early, since each round takes one of them
  (`joinPending_exhausts`).

What is pending to begin with are the tables asked for, each once and without the first one
(`mem_pendingTables_iff`, `nodup_pendingTables`).  `Attached.forall_mem` is the induction along the
joins that later modules use: what holds of the first table and passes along a join holds of all.
-/

namespace PlainQuery

/-! ## Links between tables -/

/-- The column is a foreign key of the table, with both of its targets set. -/
def Column.RefersTo (column : Column) (table : Table) : Prop :=
  column.foreignKey = true ∧ column.foreignColumn.isSome = true ∧
    ∃ name, column.foreignTable = some name ∧ Text.equalIgnoringCase name table.name = true

theorem Column.reference?_eq_some_iff {column : Column} {name referenced : String} :
    column.reference? = some (name, referenced) ↔
      column.foreignKey = true ∧ column.foreignTable = some name ∧
        column.foreignColumn = some referenced := by
  unfold reference?
  cases column.foreignKey <;> cases column.foreignTable <;> cases column.foreignColumn <;> simp

theorem Column.refersTo_iff {column : Column} {table : Table} :
    column.RefersTo table ↔ ∃ name referenced, column.reference? = some (name, referenced) ∧
      Text.equalIgnoringCase name table.name = true := by
  simp only [RefersTo, reference?_eq_some_iff, Option.isSome_iff_exists]
  constructor
  · rintro ⟨hkey, ⟨referenced, hcolumn⟩, name, htable, hcase⟩
    exact ⟨name, referenced, ⟨hkey, htable, hcolumn⟩, hcase⟩
  · rintro ⟨name, referenced, ⟨hkey, htable, hcolumn⟩, hcase⟩
    exact ⟨hkey, ⟨referenced, hcolumn⟩, name, htable, hcase⟩

/-- The column is a foreign key on the column `referenced` of the table. -/
def Column.References (column : Column) (table : Table) (referenced : String) : Prop :=
  column.foreignKey = true ∧ column.foreignColumn = some referenced ∧
    ∃ name, column.foreignTable = some name ∧ Text.equalIgnoringCase name table.name = true

theorem Column.references_iff {column : Column} {table : Table} {referenced : String} :
    column.References table referenced ↔ ∃ name, column.reference? = some (name, referenced) ∧
      Text.equalIgnoringCase name table.name = true := by
  simp only [References, reference?_eq_some_iff]
  constructor
  · rintro ⟨hkey, hcolumn, name, htable, hcase⟩
    exact ⟨name, ⟨hkey, htable, hcolumn⟩, hcase⟩
  · rintro ⟨name, ⟨hkey, htable, hcolumn⟩, hcase⟩
    exact ⟨hkey, hcolumn, name, htable, hcase⟩

/-- A foreign key of the one table refers to the other. -/
def Table.RefersTo (table other : Table) : Prop := ∃ column ∈ table.columns, column.RefersTo other

/-- A foreign key connects the two tables, in one direction or the other. -/
def Table.Linked (table other : Table) : Prop := table.RefersTo other ∨ other.RefersTo table

namespace Sql

variable {included pending : List Table} {source target : Table} {join : Join}

/-! ## One join -/

/-- The join of `target` to `source` on a foreign key of one of the two. -/
inductive Join.ByKey (source target : Table) : Join → Prop where
  | own {column : Column} {name referenced : String} (hmem : column ∈ target.columns)
      (hreference : column.reference? = some (name, referenced))
      (hname : Text.equalIgnoringCase name source.name = true) :
      ByKey source target
        { target := .ofName target.name
          source := .ofName source.name
          sourceColumn := .ofName referenced
          targetColumn := .ofName column.name }
  | other {column : Column} {name referenced : String} (hmem : column ∈ source.columns)
      (hreference : column.reference? = some (name, referenced))
      (hname : Text.equalIgnoringCase name target.name = true) :
      ByKey source target
        { target := .ofName target.name
          source := .ofName source.name
          sourceColumn := .ofName column.name
          targetColumn := .ofName referenced }

namespace Join.ByKey

theorem target_eq (h : join.ByKey source target) : join.target = .ofName target.name := by
  cases h <;> rfl

theorem source_eq (h : join.ByKey source target) : join.source = .ofName source.name := by
  cases h <;> rfl

theorem linked (h : join.ByKey source target) : source.Linked target := by
  cases h with
  | own hmem hreference hname =>
      exact .inr ⟨_, hmem, Column.refersTo_iff.mpr ⟨_, _, hreference, hname⟩⟩
  | other hmem hreference hname =>
      exact .inl ⟨_, hmem, Column.refersTo_iff.mpr ⟨_, _, hreference, hname⟩⟩

end Join.ByKey

/-- The join of `target` to `source` on a foreign key of `target`. -/
def Join.ByOwnKey (source target : Table) (join : Join) : Prop :=
  ∃ column ∈ target.columns, ∃ referenced, column.References source referenced ∧
    join =
      { target := .ofName target.name
        source := .ofName source.name
        sourceColumn := .ofName referenced
        targetColumn := .ofName column.name }

/-- The join of `target` to `source` on a foreign key of `source`. -/
def Join.ByOtherKey (source target : Table) (join : Join) : Prop :=
  ∃ column ∈ source.columns, ∃ referenced, column.References target referenced ∧
    join =
      { target := .ofName target.name
        source := .ofName source.name
        sourceColumn := .ofName column.name
        targetColumn := .ofName referenced }

theorem Join.ByOwnKey.byKey (h : join.ByOwnKey source target) : join.ByKey source target := by
  obtain ⟨column, hcolumn, referenced, hreferences, rfl⟩ := h
  obtain ⟨name, hreference, hname⟩ := Column.references_iff.mp hreferences
  exact .own hcolumn hreference hname

theorem Join.ByOtherKey.byKey (h : join.ByOtherKey source target) : join.ByKey source target := by
  obtain ⟨column, hcolumn, referenced, hreferences, rfl⟩ := h
  obtain ⟨name, hreference, hname⟩ := Column.references_iff.mp hreferences
  exact .other hcolumn hreference hname

theorem joinByOwnKey?_byOwnKey (h : joinByOwnKey? target included = some join) :
    ∃ source ∈ included, join.ByOwnKey source target := by
  unfold joinByOwnKey? at h
  obtain ⟨column, hcolumn, h⟩ := List.exists_of_findSome?_eq_some h
  obtain ⟨⟨name, referenced⟩, hreference, h⟩ := Option.bind_eq_some_iff.mp h
  obtain ⟨source, hsource, rfl⟩ := Option.map_eq_some_iff.mp h
  have hname := List.find?_some hsource
  rw [Text.equalIgnoringCase_comm] at hname
  have hreferences : column.References source referenced :=
    Column.references_iff.mpr ⟨name, hreference, hname⟩
  exact ⟨source, List.mem_of_find?_eq_some hsource, column, hcolumn, referenced, hreferences, rfl⟩

theorem joinByOtherKey?_byOtherKey (h : joinByOtherKey? target included = some join) :
    ∃ source ∈ included, join.ByOtherKey source target := by
  unfold joinByOtherKey? at h
  obtain ⟨source, hsource, h⟩ := List.exists_of_findSome?_eq_some h
  obtain ⟨column, hcolumn, h⟩ := List.exists_of_findSome?_eq_some h
  obtain ⟨⟨name, referenced⟩, hreference, h⟩ := Option.bind_eq_some_iff.mp h
  obtain ⟨hname, h⟩ := Option.ite_none_right_eq_some.mp h
  cases h
  have hreferences : column.References target referenced :=
    Column.references_iff.mpr ⟨name, hreference, hname⟩
  exact ⟨source, hsource, column, hcolumn, referenced, hreferences, rfl⟩

theorem joinByOwnKey?_eq_none_iff :
    joinByOwnKey? target included = none ↔ ∀ source ∈ included, ¬ target.RefersTo source := by
  unfold joinByOwnKey?
  simp only [List.findSome?_eq_none_iff, Option.bind_eq_none_iff, Option.map_eq_none_iff,
    List.find?_eq_none, Prod.forall]
  constructor
  · rintro hnone source hsource ⟨column, hcolumn, hrefers⟩
    obtain ⟨name, referenced, hreference, hname⟩ := Column.refersTo_iff.mp hrefers
    rw [Text.equalIgnoringCase_comm] at hname
    exact hnone column hcolumn name referenced hreference source hsource hname
  · intro hnone column hcolumn name referenced hreference source hsource hname
    rw [Text.equalIgnoringCase_comm] at hname
    exact hnone source hsource
      ⟨column, hcolumn, Column.refersTo_iff.mpr ⟨name, referenced, hreference, hname⟩⟩

theorem joinByOtherKey?_eq_none_iff :
    joinByOtherKey? target included = none ↔ ∀ source ∈ included, ¬ source.RefersTo target := by
  unfold joinByOtherKey?
  simp only [List.findSome?_eq_none_iff, Option.bind_eq_none_iff, Prod.forall, ite_eq_right_iff,
    reduceCtorEq, imp_false]
  constructor
  · rintro hnone source hsource ⟨column, hcolumn, hrefers⟩
    obtain ⟨name, referenced, hreference, hname⟩ := Column.refersTo_iff.mp hrefers
    exact hnone source hsource column hcolumn name referenced hreference hname
  · intro hnone source hsource column hcolumn name referenced hreference hname
    exact hnone source hsource
      ⟨column, hcolumn, Column.refersTo_iff.mpr ⟨name, referenced, hreference, hname⟩⟩

/-- A join that is found is on a foreign key of the table itself, if it has one on any of the tables
that are there, and else on a foreign key of one of these. -/
theorem joinTo?_spec (h : joinTo? included target = some join) :
    (∃ source ∈ included, join.ByOwnKey source target) ∨
      (∀ source ∈ included, ¬ target.RefersTo source) ∧
        ∃ source ∈ included, join.ByOtherKey source target := by
  unfold joinTo? at h
  rcases Option.or_eq_some_iff.mp h with hown | ⟨hnone, hother⟩
  · exact .inl (joinByOwnKey?_byOwnKey hown)
  · exact .inr ⟨joinByOwnKey?_eq_none_iff.mp hnone, joinByOtherKey?_byOtherKey hother⟩

theorem joinTo?_byKey (h : joinTo? included target = some join) :
    ∃ source ∈ included, join.ByKey source target := by
  rcases joinTo?_spec h with ⟨source, hsource, hown⟩ | ⟨-, source, hsource, hother⟩
  · exact ⟨source, hsource, hown.byKey⟩
  · exact ⟨source, hsource, hother.byKey⟩

/-- A table cannot be joined exactly if no foreign key links it to any of the tables. -/
theorem joinTo?_eq_none_iff :
    joinTo? included target = none ↔ ∀ source ∈ included, ¬ source.Linked target := by
  unfold joinTo? Table.Linked
  rw [Option.or_eq_none_iff, joinByOwnKey?_eq_none_iff, joinByOtherKey?_eq_none_iff]
  -- no own key and no key of another table: linked in neither direction
  simp only [not_or, forall_and, and_comm]

/-! ## One round -/

/-- The table that is taken can be joined, and the others stay pending. -/
theorem takeJoinable?_spec {others : List Table} {found : Join × Table}
    (h : takeJoinable? included pending = some (found, others)) :
    joinTo? included found.2 = some found.1 ∧ (found.2 :: others).Perm pending := by
  induction pending generalizing others with
  | nil => cases h
  | cons table pending ih =>
      simp only [takeJoinable?] at h
      split at h
      · rename_i join hjoin
        cases h
        exact ⟨hjoin, List.Perm.refl _⟩
      · obtain ⟨⟨found', others'⟩, htaken, heq⟩ := Option.map_eq_some_iff.mp h
        cases heq
        obtain ⟨hjoin, hperm⟩ := ih htaken
        -- the table that was passed over stays in front of the others
        exact ⟨hjoin, (List.Perm.swap _ _ _).trans (hperm.cons _)⟩

/-- Nothing is taken only if nothing can be joined. -/
theorem takeJoinable?_eq_none_iff :
    takeJoinable? included pending = none ↔ ∀ table ∈ pending, joinTo? included table = none := by
  induction pending with
  | nil => simp [takeJoinable?]
  | cons table pending ih =>
      simp only [takeJoinable?, List.forall_mem_cons]
      split
      · rename_i join hjoin
        simp [hjoin]
      · rename_i hnone
        rw [Option.map_eq_none_iff, ih]
        exact (and_iff_right hnone).symm

/-! ## All rounds -/

/-- Each table is joined to one that is there before it: one of the included tables, or one that was
joined earlier. -/
inductive Attached : List Table → List (Join × Table) → Prop where
  | nil (included : List Table) : Attached included []
  | cons {included : List Table} {join : Join} {table : Table} {later : List (Join × Table)}
      (hjoin : joinTo? included table = some join) (hlater : Attached (included ++ [table]) later) :
      Attached included ((join, table) :: later)

/-- The joins attach pending tables to the included ones, as many of them as possible. -/
structure Exhausts (included pending : List Table) (joins : List (Join × Table)) : Prop where
  attached : Attached included joins
  exists_rest : ∃ rest, (joins.map Prod.snd ++ rest).Perm pending ∧
    ∀ table ∈ rest, joinTo? (included ++ joins.map Prod.snd) table = none

/-- There are as many rounds as pending tables, and each round but the last joins one of them. -/
theorem joinPending_exhausts {rounds : Nat} (hrounds : pending.length ≤ rounds) :
    Exhausts included pending (joinPending rounds included pending) := by
  induction rounds generalizing included pending with
  | zero =>
      have hnone : pending = [] := List.length_eq_zero_iff.mp (Nat.le_zero.mp hrounds)
      exact ⟨.nil included, [], by simp [joinPending, hnone], by simp⟩
  | succ rounds ih =>
      simp only [joinPending]
      split
      · rename_i hnone
        refine ⟨.nil included, pending, by simp, fun table hmem => ?_⟩
        rw [List.map_nil, List.append_nil]
        exact takeJoinable?_eq_none_iff.mp hnone table hmem
      · rename_i found others htaken
        obtain ⟨hjoin, hperm⟩ := takeJoinable?_spec htaken
        -- one table fewer is pending, so one round fewer suffices
        have hothers : others.length ≤ rounds := by
          have hlength := hperm.length_eq
          rw [List.length_cons] at hlength
          omega
        have htail : Exhausts (included ++ [found.2]) others _ := ih hothers
        obtain ⟨hattached, rest, hrest, hleft⟩ := htail
        refine ⟨.cons hjoin hattached, rest, (hrest.cons found.2).trans hperm, ?_⟩
        intro table hmem
        rw [List.map_cons, List.append_cons]
        exact hleft table hmem

namespace Attached

variable {joins earlier later : List (Join × Table)} {found : Join × Table}

/-- Each join is the one that is found with the tables that are there before it. -/
theorem joinTo?_eq (h : Attached included (earlier ++ found :: later)) :
    joinTo? (included ++ earlier.map Prod.snd) found.2 = some found.1 := by
  induction earlier generalizing included with
  | nil =>
      cases h with
      | cons hjoin _ => simpa using hjoin
  | cons first earlier ih =>
      cases h with
      | cons _ hlater =>
          rw [List.map_cons, List.append_cons]
          exact ih hlater

/-- Each join is on a foreign key, to a table that is there before it. -/
theorem exists_source (h : Attached included (earlier ++ found :: later)) :
    ∃ source ∈ included ++ earlier.map Prod.snd, found.1.ByKey source found.2 :=
  joinTo?_byKey h.joinTo?_eq

/-- What is true of the included tables, and passes from one table to the next along a join, is true
of all joined tables. -/
theorem forall_mem {P : Table → Prop} (h : Attached included joins)
    (hincluded : ∀ table ∈ included, P table)
    (hpasses : ∀ source found, P source → found ∈ joins → source.Linked found.2 → P found.2) :
    ∀ found ∈ joins, P found.2 := by
  induction h with
  | nil => simp
  | @cons included join table later hjoin _ ih =>
      obtain ⟨source, hsource, hkey⟩ := joinTo?_byKey hjoin
      have htable : P table :=
        hpasses source (join, table) (hincluded source hsource) List.mem_cons_self hkey.linked
      have hmoved : ∀ other ∈ included ++ [table], P other := by
        intro other hother
        rcases List.mem_append.mp hother with hother | hother
        · exact hincluded other hother
        · rw [List.mem_singleton.mp hother]
          exact htable
      intro found hmem
      rcases List.mem_cons.mp hmem with rfl | hmem
      · exact htable
      · refine ih hmoved (fun source found hsource hlater => ?_) found hmem
        exact hpasses source found hsource (List.mem_cons_of_mem _ hlater)

end Attached

/-! ## The tables that are asked for -/

variable {schema : Schema}

/-- A table counts as seen by its name. -/
theorem any_name_iff {seen : List Table} {table : Table} :
    (seen.any fun other => other.name == table.name) = true ↔
      table.name ∈ seen.map Table.name := by
  simp only [List.any_eq_true, beq_iff_eq, List.mem_map]

/-- Pending are the tables that are asked for and have not been seen. -/
theorem mem_pendingTables_iff {seen : List Table} {names : List String} {table : Table} :
    table ∈ pendingTables schema seen names ↔
      schema.Finds names table ∧ table.name ∉ seen.map Table.name := by
  induction names generalizing seen with
  | nil => simp [pendingTables, Schema.Finds]
  | cons name names ih =>
      rw [Schema.finds_cons, pendingTables]
      split
      · rename_i first hfirst
        -- a table that has the name of the first one is the first one
        have hname : schema.Finds names table → table.name = first.name → table = first := by
          intro hfinds hname
          exact Schema.eq_of_name_eq hfinds.table?_name (Schema.table?_name hfirst) hname
        rw [hfirst, Option.some.injEq]
        split
        · rename_i hseen
          rw [any_name_iff] at hseen
          rw [ih]
          constructor
          · intro h
            exact ⟨.inr h.1, h.2⟩
          · rintro ⟨rfl | hfinds, hnew⟩
            · exact absurd hseen hnew
            · exact ⟨hfinds, hnew⟩
        · rename_i hunseen
          rw [any_name_iff] at hunseen
          rw [List.mem_cons, ih, List.map_append, List.mem_append, not_or]
          constructor
          · rintro (rfl | ⟨hfinds, hnew, -⟩)
            · exact ⟨.inl rfl, hunseen⟩
            · exact ⟨.inr hfinds, hnew⟩
          · rintro ⟨rfl | hfinds, hnew⟩
            · exact .inl rfl
            · by_cases heq : table.name = first.name
              · exact .inl (hname hfinds heq)
              · exact .inr ⟨hfinds, hnew, by simpa using heq⟩
      · rename_i hnone
        rw [ih, hnone]
        simp

/-- No two pending tables have the same name. -/
theorem nodup_pendingTables (schema : Schema) (seen : List Table) (names : List String) :
    ((pendingTables schema seen names).map Table.name).Nodup := by
  induction names generalizing seen with
  | nil => simp [pendingTables]
  | cons name names ih =>
      rw [pendingTables]
      split
      · rename_i first hfirst
        split
        · exact ih seen
        · rw [List.map_cons, List.nodup_cons]
          refine ⟨fun hmem => ?_, ih _⟩
          obtain ⟨other, hother, heq⟩ := List.mem_map.mp hmem
          exact (mem_pendingTables_iff.mp hother).2 (by simp [heq])
      · exact ih seen

variable {anchor : Table} {first : String}

/-- From the first table on, all tables asked for are attached that can be. -/
theorem inferJoins_exhausts (others : List String) (hanchor : schema.table? first = some anchor) :
    Exhausts [anchor] (pendingTables schema [anchor] others)
      (inferJoins schema (first :: others)) := by
  simp only [inferJoins, hanchor]
  exact joinPending_exhausts (Nat.le_refl _)

/-- Only tables that are asked for are joined. -/
theorem mem_pendingTables_of_mem_inferJoins {others : List String} {found : Join × Table}
    (hanchor : schema.table? first = some anchor)
    (hmem : found ∈ inferJoins schema (first :: others)) :
    found.2 ∈ pendingTables schema [anchor] others := by
  obtain ⟨-, rest, hperm, -⟩ := inferJoins_exhausts others hanchor
  exact hperm.subset (List.mem_append_left _ (List.mem_map_of_mem hmem))

/-- No table is joined twice, and the first one is not joined at all. -/
theorem nodup_inferJoins (others : List String) (hanchor : schema.table? first = some anchor) :
    (anchor.name :: (inferJoins schema (first :: others)).map fun found => found.2.name).Nodup := by
  obtain ⟨-, rest, hperm, -⟩ := inferJoins_exhausts others hanchor
  have hnodup := (hperm.map Table.name).nodup_iff.mpr (nodup_pendingTables schema [anchor] others)
  rw [List.map_append, List.map_map] at hnodup
  refine List.nodup_cons.mpr ⟨fun hmem => ?_, hnodup.of_append_left⟩
  obtain ⟨found, hfound, heq⟩ := List.mem_map.mp hmem
  have hpending := mem_pendingTables_of_mem_inferJoins hanchor hfound
  exact (mem_pendingTables_iff.mp hpending).2 (by simp [heq])

end Sql

end PlainQuery

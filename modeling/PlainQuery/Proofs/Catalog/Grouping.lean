import Mathlib.Data.List.Induction
import PlainQuery.Catalog.Discovery
import PlainQuery.Proofs.FirstOccurrences

/-!
# Grouping the rows of a catalog

A catalog lists the columns of a table in rows that stand together.  `groupTables` goes through the
rows with the tables so far: a row continues the latest one or begins another, and is left out if
the table has a column of its name.

Two descriptions of the result are proved, one without any condition on the rows and one with it.

* `MadeOf` says what a table is made of, and holds of every table at every point of the fold
  (`madeOf_foldl_addRow`): each of its columns is that of a row, and nothing has been counted.  So
  nothing is invented, and what the filter forbids is not there (`allows_of_mem_groupTables`).
* To name a table twice, a catalog would have to come back to it.  If it does not (`Contiguous`),
  the latest table is always the right one, and the fold comes to what `gather` makes of all rows of
  each name, in the order in which the names are first seen (`foldl_addRow`).  The rows of tables
  that are not seen may stand anywhere in between (`groupTables_eq`), because a part of a contiguous
  list is contiguous (`Contiguous.sublist`).

What is left is about one table.  Its column names are those of its rows, each at its first place
(`columnNames_gather`), and of several rows of one name the first one counts
(`exists_row_of_mem_gather`).  `Groups` collects what the tables have to do with the rows, and
`groups_groupTables` reads it off.
-/

namespace PlainQuery

theorem map_eq_self {α : Type} {f : α → α} {entries : List α}
    (h : ∀ entry ∈ entries, f entry = entry) : entries.map f = entries :=
  (List.map_congr_left h).trans (List.map_id _)

/-- Equal names stand together: there is no other one between them. -/
def Contiguous (names : List String) : Prop :=
  ∀ name ∈ names, ∀ other ∈ names, [name, other, name].Sublist names → other = name

namespace Contiguous

variable {names others : List String} {name : String}

instance (names : List String) : Decidable (Contiguous names) :=
  inferInstanceAs (Decidable
    (∀ name ∈ names, ∀ other ∈ names, [name, other, name].Sublist names → other = name))

theorem sublist (h : Contiguous names) (hsublist : others.Sublist names) : Contiguous others :=
  fun name hname other hother hbetween =>
    h name (hsublist.subset hname) other (hsublist.subset hother) (hbetween.trans hsublist)

theorem getLast?_of_mem (h : Contiguous (names ++ [name])) (hmem : name ∈ names) :
    names.getLast? = some name := by
  rcases List.eq_nil_or_concat' names with rfl | ⟨earlier, last, rfl⟩
  · cases hmem
  · rw [List.getLast?_concat, Option.some_inj]
    rcases List.mem_append.mp hmem with hearlier | hlast
    · refine h name (by simp) last (by simp) ?_
      have hfirst : [name].Sublist earlier := List.singleton_sublist.mpr hearlier
      exact (hfirst.append (List.Sublist.refl [last])).append (List.Sublist.refl [name])
    · exact (List.mem_singleton.mp hlast).symm

/-- The last name is the last one to occur for the first time. -/
theorem getLast?_eraseDups (h : Contiguous names) :
    names.eraseDups.getLast? = names.getLast? := by
  induction names using List.reverseRecOn with
  | nil => rfl
  | append_singleton names name ih =>
      rw [eraseDups_concat, List.getLast?_concat]
      split
      · rename_i hmem
        rw [ih (h.sublist (List.sublist_append_left names [name])), h.getLast?_of_mem hmem]
      · rw [List.getLast?_concat]

end Contiguous

/-! ## Columns -/

/-- The column is what the row says. -/
structure CatalogColumn.Lists (row : CatalogColumn) (column : Column) : Prop where
  name : column.name = row.column
  dataType : column.dataType = row.dataType
  nullable : column.nullable = row.nullable
  primaryKey : column.primaryKey = row.primaryKey
  /-- It is a foreign key if and only if both parts of its target are set, -/
  complete : column.foreignKey = true ↔
    column.foreignTable.isSome = true ∧ column.foreignColumn.isSome = true
  /-- and if and only if the row has both of them. -/
  carried : column.foreignKey = true ↔
    row.foreignTable.isSome = true ∧ row.foreignColumn.isSome = true
  target : column.foreignKey = true →
    column.foreignTable = row.foreignTable ∧ column.foreignColumn = row.foreignColumn
  untargeted : column.foreignKey = false →
    column.foreignTable = none ∧ column.foreignColumn = none

theorem CatalogColumn.samples_toColumn (row : CatalogColumn) : row.toColumn.samples = [] := by
  unfold toColumn
  split <;> rfl

theorem CatalogColumn.lists_toColumn (row : CatalogColumn) : row.Lists row.toColumn := by
  obtain ⟨table, column, dataType, nullable, primaryKey, foreignTable, foreignColumn⟩ := row
  cases foreignTable <;> cases foreignColumn <;> constructor <;>
    simp [toColumn, Column.referencing]

/-! ## Filters -/

namespace TableFilter

theorem isInfrastructure_eq_false_iff {name : String} : isInfrastructure name = false ↔
    name ∉ infrastructure ∧ ¬ systemStart.toList <+: name.toList := by
  rw [← Bool.not_eq_true, isInfrastructure, Bool.or_eq_true, not_or, List.contains_iff_mem,
    List.isPrefixOf_iff_prefix]

theorem allows_eq_true_iff {filter : TableFilter} {table : String} :
    filter.allows table = true ↔ isInfrastructure (Text.lower table) = false ∧
      (filter.includeInternal = true ∨ Text.lower table ∉ filter.internal) := by
  simp [allows]

end TableFilter

namespace Discovery

variable {filter : TableFilter} {rows : List CatalogColumn} {row : CatalogColumn} {name : String}

theorem addColumn_eq (table : Table) (column : Column) :
    addColumn table column =
      { table with
        columns :=
          if column.name ∈ table.columns.map Column.name then table.columns
          else table.columns ++ [column] } := by
  have hall : (table.columns.all fun other => other.name != column.name) = true ↔
      column.name ∉ table.columns.map Column.name := by
    simp [List.mem_map]
  unfold addColumn
  by_cases hmem : column.name ∈ table.columns.map Column.name
  · rw [if_neg (fun h => hall.mp h hmem), if_pos hmem]
  · rw [if_pos (hall.mpr hmem), if_neg hmem]

theorem columnNames_addColumn (table : Table) (column : Column) :
    (addColumn table column).columns.map Column.name =
      if column.name ∈ table.columns.map Column.name then table.columns.map Column.name
      else table.columns.map Column.name ++ [column.name] := by
  rw [addColumn_eq, apply_ite (List.map Column.name), List.map_append, List.map_singleton]

theorem mem_columns_addColumn {table : Table} {column added : Column}
    (hmem : column ∈ (addColumn table added).columns) :
    column ∈ table.columns ∨ column = added ∧ added.name ∉ table.columns.map Column.name := by
  rw [addColumn_eq] at hmem
  dsimp only at hmem
  split at hmem
  · exact .inl hmem
  · rename_i hfresh
    exact (List.mem_append.mp hmem).imp_right fun hlast => ⟨List.mem_singleton.mp hlast, hfresh⟩

/-! ## Where tables come from -/

/-- The table has been made of the rows. -/
structure MadeOf (rows : List CatalogColumn) (table : Table) : Prop where
  named : ∃ row ∈ rows, row.table = table.name
  listed : ∀ column ∈ table.columns, ∃ row ∈ rows, row.toColumn = column
  uncounted : table.rowCount = none

theorem MadeOf.mono {others : List CatalogColumn} {table : Table} (h : MadeOf rows table)
    (hsubset : rows ⊆ others) : MadeOf others table where
  named := h.named.imp fun _ hrow => ⟨hsubset hrow.1, hrow.2⟩
  listed := fun column hcolumn =>
    (h.listed column hcolumn).imp fun _ hrow => ⟨hsubset hrow.1, hrow.2⟩
  uncounted := h.uncounted

theorem madeOf_single (hrow : row ∈ rows) :
    MadeOf rows { name := row.table, columns := [row.toColumn] } where
  named := ⟨row, hrow, rfl⟩
  listed := fun _ hcolumn => ⟨row, hrow, (List.mem_singleton.mp hcolumn).symm⟩
  uncounted := rfl

theorem MadeOf.addColumn {table : Table} (h : MadeOf rows table) (hrow : row ∈ rows) :
    MadeOf rows (addColumn table row.toColumn) := by
  have hlisted : ∀ column ∈ (Discovery.addColumn table row.toColumn).columns,
      ∃ row ∈ rows, row.toColumn = column := by
    intro column hcolumn
    rcases mem_columns_addColumn hcolumn with hcolumn | ⟨rfl, -⟩
    · exact h.listed column hcolumn
    · exact ⟨row, hrow, rfl⟩
  refine ⟨?_, hlisted, ?_⟩
  · rw [addColumn_eq]
    exact h.named
  · rw [addColumn_eq]
    exact h.uncounted

theorem madeOf_addRow {tables : List Table} (h : ∀ table ∈ tables, MadeOf rows table)
    (hrow : row ∈ rows) : ∀ table ∈ addRow tables row, MadeOf rows table := by
  intro table hmem
  unfold addRow at hmem
  split at hmem
  · split at hmem
    · rcases List.mem_cons.mp hmem with rfl | hearlier
      · exact (h _ List.mem_cons_self).addColumn hrow
      · exact h table (List.mem_cons_of_mem _ hearlier)
    · rcases List.mem_cons.mp hmem with rfl | hearlier
      · exact madeOf_single hrow
      · exact h table hearlier
  · rw [List.mem_singleton.mp hmem]
    exact madeOf_single hrow

theorem madeOf_foldl_addRow (rows : List CatalogColumn) :
    ∀ table ∈ rows.foldl addRow [], MadeOf rows table := by
  induction rows using List.reverseRecOn with
  | nil => exact nofun
  | append_singleton rows row ih =>
      rw [List.foldl_append]
      exact madeOf_addRow (fun table hmem => (ih table hmem).mono (List.subset_append_left _ _))
        (by simp)

theorem madeOf_of_mem_groupTables {table : Table} (hmem : table ∈ groupTables filter rows) :
    MadeOf (rows.filter fun row => filter.allows row.table) table :=
  madeOf_foldl_addRow _ table (List.mem_reverse.mp hmem)

/-- Grouping keeps to the filter. -/
theorem allows_of_mem_groupTables {table : Table} (hmem : table ∈ groupTables filter rows) :
    filter.allows table.name = true := by
  obtain ⟨row, hrow, hname⟩ := (madeOf_of_mem_groupTables hmem).named
  rw [← hname]
  exact (List.mem_filter.mp hrow).2

/-! ## One table -/

/-- The table of this name with the columns that the rows list for it. -/
def gather (rows : List CatalogColumn) (name : String) : Table :=
  (rows.filter fun row => row.table == name).foldl
    (fun table row => addColumn table row.toColumn) { name := name }

theorem gather_concat_self (rows : List CatalogColumn) (row : CatalogColumn) :
    gather (rows ++ [row]) row.table = addColumn (gather rows row.table) row.toColumn := by
  simp [gather]

theorem gather_concat_of_ne (h : row.table ≠ name) :
    gather (rows ++ [row]) name = gather rows name := by
  simp [gather, h]

/-- Rows of other tables do not matter. -/
theorem gather_filter (hallows : filter.allows name = true) :
    gather (rows.filter fun row => filter.allows row.table) name = gather rows name := by
  unfold gather
  rw [List.filter_filter]
  congr 1
  refine List.filter_congr fun row _ => ?_
  by_cases heq : row.table = name
  · simp [heq, hallows]
  · simp [heq]

/-- There is nothing to the table but its columns. -/
theorem gather_eq (rows : List CatalogColumn) (name : String) :
    gather rows name = { name := name, columns := (gather rows name).columns } := by
  induction rows using List.reverseRecOn with
  | nil => rfl
  | append_singleton rows row ih =>
      by_cases heq : row.table = name
      · subst heq
        rw [gather_concat_self, addColumn_eq, ih]
      · rw [gather_concat_of_ne heq]
        exact ih

@[simp] theorem name_gather (rows : List CatalogColumn) (name : String) :
    (gather rows name).name = name := by
  rw [gather_eq]

theorem columnNames_gather (rows : List CatalogColumn) (name : String) :
    (gather rows name).columns.map Column.name =
      ((rows.filter fun row => row.table == name).map CatalogColumn.column).eraseDups := by
  induction rows using List.reverseRecOn with
  | nil => rfl
  | append_singleton rows row ih =>
      by_cases heq : row.table = name
      · subst heq
        have hrows : ((rows ++ [row]).filter fun other => other.table == row.table) =
            (rows.filter fun other => other.table == row.table) ++ [row] := by simp
        rw [gather_concat_self, columnNames_addColumn, ih, row.lists_toColumn.name, hrows,
          List.map_append, List.map_singleton, eraseDups_concat]
        simp only [List.mem_eraseDups]
      · rw [gather_concat_of_ne heq, ih]
        simp [heq]

/-- Of several rows of one name the first one counts. -/
theorem exists_row_of_mem_gather {column : Column} (hmem : column ∈ (gather rows name).columns) :
    ∃ row, rows.find? (fun row => row.table == name && row.column == column.name) = some row ∧
      row.toColumn = column := by
  induction rows using List.reverseRecOn with
  | nil => cases hmem
  | append_singleton rows row ih =>
      have hearlier : column ∈ (gather rows name).columns → ∃ first,
          (rows ++ [row]).find? (fun row => row.table == name && row.column == column.name) =
            some first ∧ first.toColumn = column := by
        intro hmem
        obtain ⟨first, hfirst, hcolumn⟩ := ih hmem
        exact ⟨first, by rw [List.find?_append, hfirst, Option.some_or], hcolumn⟩
      by_cases heq : row.table = name
      · subst heq
        rw [gather_concat_self] at hmem
        rcases mem_columns_addColumn hmem with hmem | ⟨rfl, hfresh⟩
        · exact hearlier hmem
        · -- no earlier row of the table has this name
          have hnone : rows.find? (fun other => other.table == row.table &&
              other.column == row.toColumn.name) = none := by
            refine List.find?_eq_none.mpr fun other hother hsame => hfresh ?_
            rw [Bool.and_eq_true] at hsame
            rw [columnNames_gather, List.mem_eraseDups, ← beq_iff_eq.mp hsame.2]
            exact List.mem_map_of_mem (List.mem_filter.mpr ⟨hother, hsame.1⟩)
          refine ⟨row, ?_, rfl⟩
          rw [List.find?_append, hnone, Option.none_or]
          simp [row.lists_toColumn.name]
      · rw [gather_concat_of_ne heq] at hmem
        exact hearlier hmem

/-! ## All tables -/

/-- A row of the latest table continues it. -/
theorem addRow_of_eq {table : Table} (h : table.name = row.table) (earlier : List Table) :
    addRow (table :: earlier) row = addColumn table row.toColumn :: earlier := by
  simp [addRow, h]

/-- A row of any other table begins one. -/
theorem addRow_of_ne {tables : List Table} (h : ∀ table ∈ tables, table.name ≠ row.table) :
    addRow tables row = { name := row.table, columns := [row.toColumn] } :: tables := by
  cases tables with
  | nil => rfl
  | cons table earlier => simp [addRow, h table List.mem_cons_self]

theorem gather_concat_of_not_mem (h : row.table ∉ rows.map CatalogColumn.table) :
    gather (rows ++ [row]) row.table = { name := row.table, columns := [row.toColumn] } := by
  have hnone : (rows.filter fun other => other.table == row.table) = [] := by
    refine List.filter_eq_nil_iff.mpr fun other hother heq => h ?_
    rw [← beq_iff_eq.mp heq]
    exact List.mem_map_of_mem hother
  rw [gather_concat_self, gather, hnone]
  rfl

theorem map_gather_concat {names : List String} (h : row.table ∉ names) :
    names.map (gather (rows ++ [row])) = names.map (gather rows) := by
  refine List.map_congr_left fun name hname => gather_concat_of_ne ?_
  rintro rfl
  exact h hname

theorem foldl_addRow (h : Contiguous (rows.map CatalogColumn.table)) :
    rows.foldl addRow [] =
      ((rows.map CatalogColumn.table).eraseDups.map (gather rows)).reverse := by
  induction rows using List.reverseRecOn with
  | nil => rfl
  | append_singleton rows row ih =>
      rw [List.map_append, List.map_singleton] at h
      have hrows := h.sublist (List.sublist_append_left _ _)
      rw [List.foldl_append, List.foldl_cons, List.foldl_nil, ih hrows, List.map_append,
        List.map_singleton, eraseDups_concat]
      split
      · rename_i hmem
        -- the rows stand together, so the table of the row is the latest one
        obtain ⟨names, hnames⟩ := List.getLast?_eq_some_iff.mp
          (hrows.getLast?_eraseDups.trans (h.getLast?_of_mem hmem))
        have hothers : row.table ∉ names := by
          have hnodup := nodup_eraseDups (rows.map CatalogColumn.table)
          rw [hnames] at hnodup
          exact fun hname =>
            (List.nodup_append.mp hnodup).2.2 _ hname _ (List.mem_singleton_self _) rfl
        simp only [hnames, List.map_append, List.map_singleton, List.reverse_append,
          List.reverse_singleton, List.singleton_append, map_gather_concat hothers,
          gather_concat_self]
        rw [addRow_of_eq (name_gather rows row.table)]
      · rename_i hfresh
        have hothers : row.table ∉ (rows.map CatalogColumn.table).eraseDups :=
          fun hname => hfresh (List.mem_eraseDups.mp hname)
        rw [List.map_append, List.map_singleton, List.reverse_append, List.reverse_singleton,
          List.singleton_append, map_gather_concat hothers, gather_concat_of_not_mem hfresh,
          addRow_of_ne]
        intro table hmem
        obtain ⟨name, hname, rfl⟩ := List.mem_map.mp (List.mem_reverse.mp hmem)
        rw [name_gather]
        rintro rfl
        exact hothers hname

/-- The tables are those that are seen, in the order in which they are first named. -/
theorem groupTables_eq (filter : TableFilter) (h : Contiguous (rows.map CatalogColumn.table)) :
    groupTables filter rows =
      ((rows.map CatalogColumn.table).filter filter.allows).eraseDups.map (gather rows) := by
  have hnames : (rows.filter fun row => filter.allows row.table).map CatalogColumn.table =
      (rows.map CatalogColumn.table).filter filter.allows := by
    rw [List.filter_map]
    rfl
  have hseen : Contiguous ((rows.filter fun row => filter.allows row.table).map
      CatalogColumn.table) := h.sublist (List.filter_sublist.map _)
  rw [groupTables, foldl_addRow hseen, List.reverse_reverse, hnames]
  refine List.map_congr_left fun name hname => gather_filter ?_
  exact (List.mem_filter.mp (List.mem_eraseDups.mp hname)).2

/-! ## What grouping does -/

/-- The tables are what the rows say, as far as the filter lets them pass. -/
structure Groups (filter : TableFilter) (rows : List CatalogColumn) (tables : List Table) :
    Prop where
  names : tables.map Table.name =
    ((rows.map CatalogColumn.table).filter filter.allows).eraseDups
  distinct : (tables.map Table.name).Nodup
  columnNames : ∀ table ∈ tables, table.columns.map Column.name =
    ((rows.filter fun row => row.table == table.name).map CatalogColumn.column).eraseDups
  /-- Of several rows of one name, a column is what the first one says. -/
  columns : ∀ table ∈ tables, ∀ column ∈ table.columns, ∃ row,
    rows.find? (fun row => row.table == table.name && row.column == column.name) = some row ∧
      row.Lists column
  infrastructure : ∀ table ∈ tables, Text.lower table.name ∉ TableFilter.infrastructure ∧
    ¬ TableFilter.systemStart.toList <+: (Text.lower table.name).toList
  internal : ∀ name ∈ rows.map CatalogColumn.table,
    TableFilter.isInfrastructure (Text.lower name) = false → Text.lower name ∈ filter.internal →
      (name ∈ tables.map Table.name ↔ filter.includeInternal = true)

theorem groups_groupTables (filter : TableFilter) (h : Contiguous (rows.map CatalogColumn.table)) :
    Groups filter rows (groupTables filter rows) := by
  have hnames : (groupTables filter rows).map Table.name =
      ((rows.map CatalogColumn.table).filter filter.allows).eraseDups := by
    rw [groupTables_eq filter h, List.map_map]
    exact map_eq_self fun name _ => name_gather rows name
  -- each table is the one gathered under its own name
  have hgathered : ∀ table ∈ groupTables filter rows, table = gather rows table.name := by
    intro table hmem
    rw [groupTables_eq filter h] at hmem
    obtain ⟨name, -, rfl⟩ := List.mem_map.mp hmem
    rw [name_gather]
  constructor
  case names => exact hnames
  case distinct =>
    rw [hnames]
    exact nodup_eraseDups _
  case columnNames =>
    intro table hmem
    rw [← columnNames_gather, ← hgathered table hmem]
  case columns =>
    intro table hmem column hcolumn
    rw [hgathered table hmem] at hcolumn
    obtain ⟨row, hrow, rfl⟩ := exists_row_of_mem_gather hcolumn
    exact ⟨row, hrow, row.lists_toColumn⟩
  case infrastructure =>
    intro table hmem
    have hname : table.name ∈ (groupTables filter rows).map Table.name := List.mem_map_of_mem hmem
    rw [hnames, List.mem_eraseDups, List.mem_filter] at hname
    exact TableFilter.isInfrastructure_eq_false_iff.mp
      (TableFilter.allows_eq_true_iff.mp hname.2).1
  case internal =>
    intro name hmem hseen hinternal
    rw [hnames, List.mem_eraseDups, List.mem_filter, TableFilter.allows_eq_true_iff]
    simp [hmem, hseen, hinternal]

end Discovery

end PlainQuery

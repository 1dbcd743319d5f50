import Mathlib.Control.Basic
import PlainQuery.Proofs.Catalog.Grouping

/-!
# Snapshots

A snapshot lists the tables that the rows of a catalog are grouped into.  To each of them is added
what the catalog answers about it: the number of its rows, and samples of those of its columns that
hold texts.  An answer that is not given is not added, and nothing else follows from it.

A catalog runs in a world of its own and may answer differently each time.  `Catalog.AnswersBut`
compares it with given answers, which do not change, and sets some `Additions` apart, about which it
may say anything.  One fact about snapshots is enough then: apart from these additions, the answers
determine the tables (`exists_snapshot_of_ok`).  It goes up from one column (`without_sampleColumn`)
to one table (`without_enrichTable`) and to all of them by `map_run_mapM`, which says of work on a
list that each result depends on its entry alone.

The additions that are set apart can be chosen:

* all of them: then nothing is said of the catalog, and the tables are as the rows say
  (`exists_snapshot_groupTables`), whatever it answers.  With what is known about grouping this is
  `snapshot_groups`;
* none of them: then the tables have exactly what is answered (`completed_enrichTable`);
* those of one table or of one column, about which a catalog is silent: then two snapshots are the
  same in all other places.  `snapshot_isolated` says so, with what the second choice gives.
-/

namespace PlainQuery

variable {World World' : Type}

/-! ## Additions -/

/-- Some of what is added to the tables of a schema: numbers of rows and samples. -/
structure Additions where
  counts : (table : String) → Bool
  samples : (table column : String) → Bool

namespace Additions

def all : Additions := ⟨fun _ => true, fun _ _ => true⟩

protected def none : Additions := ⟨fun _ => false, fun _ _ => false⟩

/-- What is added to a table, its columns included. -/
def ofTable (name : String) : Additions :=
  ⟨fun table => table == name, fun table _ => table == name⟩

/-- What is added to a column of a table. -/
def ofColumn (name columnName : String) : Additions :=
  ⟨fun _ => false, fun table column => table == name && column == columnName⟩

end Additions

/-- The column of a table without these additions. -/
def Column.without (additions : Additions) (table : String) (column : Column) : Column :=
  if additions.samples table column.name then { column with samples := [] } else column

/-- The table without these additions. -/
def Table.without (additions : Additions) (table : Table) : Table :=
  { table with
    rowCount := if additions.counts table.name then none else table.rowCount
    columns := table.columns.map (Column.without additions table.name) }

theorem Table.without_none : Table.without .none = id := by
  funext table
  have hcolumns : table.columns.map (Column.without .none table.name) = table.columns :=
    map_eq_self fun _ _ => rfl
  rw [without, hcolumns]
  rfl

/-- The catalog gives these answers, whatever the world is like, except possibly about the
additions. -/
structure Catalog.AnswersBut (catalog : Catalog (StateM World)) (additions : Additions)
    (answers : Catalog Id) : Prop where
  rowCount : ∀ table, additions.counts table = false → ∀ world,
    ((catalog.rowCount table).run world).1 = (answers.rowCount table).run
  sampleValues : ∀ table column, additions.samples table column = false → ∀ limit world,
    ((catalog.sampleValues table column limit).run world).1 =
      (answers.sampleValues table column limit).run

namespace Catalog

/-- Nothing is said of a catalog if all additions are set apart. -/
theorem answersBut_all (catalog : Catalog (StateM World)) (answers : Catalog Id) :
    catalog.AnswersBut .all answers :=
  ⟨nofun, nofun⟩

theorem AnswersBut.weaken {catalog : Catalog (StateM World)} {answers : Catalog Id}
    (h : catalog.AnswersBut .none answers) (additions : Additions) :
    catalog.AnswersBut additions answers :=
  ⟨fun table _ => h.rowCount table rfl, fun table column _ => h.sampleValues table column rfl⟩

/-- The catalog that gives no answer. -/
def silent : Catalog Id where
  columns := pure (.error (.task ""))
  rowCount := fun _ => pure (.error (.task ""))
  sampleValues := fun _ _ _ => pure (.error (.task ""))

/-- The catalog that gives these answers and leaves the world as it is. -/
def ofAnswers (answers : Catalog Id) : Catalog (StateM World) where
  columns := pure answers.columns.run
  rowCount := fun table => pure (answers.rowCount table).run
  sampleValues := fun table column limit => pure (answers.sampleValues table column limit).run

/-- The catalog when nothing can be asked about the additions. -/
def lacking (additions : Additions) (answers : Catalog Id) : Catalog Id where
  columns := answers.columns
  rowCount := fun table =>
    if additions.counts table then silent.rowCount table else answers.rowCount table
  sampleValues := fun table column limit =>
    if additions.samples table column then silent.sampleValues table column limit
    else answers.sampleValues table column limit

theorem answersBut_ofAnswers (additions : Additions) (answers : Catalog Id) :
    (ofAnswers answers : Catalog (StateM World)).AnswersBut additions answers :=
  ⟨fun _ _ _ => rfl, fun _ _ _ _ _ => rfl⟩

theorem answersBut_lacking (additions : Additions) (answers : Catalog Id) :
    (ofAnswers answers : Catalog (StateM World)).AnswersBut additions
      (answers.lacking additions) where
  rowCount := by
    intro table hcounts world
    simp only [lacking, hcounts, Bool.false_eq_true, if_false]
    rfl
  sampleValues := by
    intro table column hsamples limit world
    simp only [lacking, hsamples, Bool.false_eq_true, if_false]
    rfl

end Catalog

namespace Discovery

variable {additions : Additions} {answers : Catalog Id} {catalog : Catalog (StateM World)}
  {other : Catalog (StateM World')} {world : World} {world' : World'}

/-! ## One table -/

/-- Work on the elements of a list, one after the other, if what is seen of a result depends on the
element alone. -/
theorem map_run_mapM {α β γ : Type} {work : α → StateM World β} {view : β → γ} {seen : α → γ}
    (hwork : ∀ entry world, view ((work entry).run world).1 = seen entry) (entries : List α)
    (world : World) : ((entries.mapM work).run world).1.map view = entries.map seen := by
  induction entries generalizing world with
  | nil => rfl
  | cons entry entries ih =>
      rw [List.mapM_cons]
      show view ((work entry).run world).1 ::
        ((entries.mapM work).run ((work entry).run world).2).1.map view = _
      rw [hwork, ih, List.map_cons]

theorem without_sampleColumn (h : catalog.AnswersBut additions answers) (sampleSize : Nat)
    (table : String) (column : Column) (world : World) :
    ((sampleColumn catalog sampleSize table column).run world).1.without additions table =
      (sampleColumn answers sampleSize table column).run.without additions table := by
  unfold sampleColumn
  split
  · rfl
  · show ({ column with
      samples :=
        ((catalog.sampleValues table column.name sampleSize).run world).1.toOption.getD [] } :
        Column).without additions table = ({ column with
      samples := (answers.sampleValues table column.name sampleSize).run.toOption.getD [] } :
        Column).without additions table
    unfold Column.without
    dsimp only
    split
    · rfl
    · rename_i hsamples
      rw [h.sampleValues table column.name (Bool.eq_false_iff.mpr hsamples)]

theorem run_enrichTable (answers : Catalog Id) (sampleSize : Nat) (table : Table) :
    (enrichTable answers sampleSize table).run =
      { table with
        rowCount := (answers.rowCount table.name).run.toOption
        columns := table.columns.map fun column =>
          (sampleColumn answers sampleSize table.name column).run } := by
  simp only [enrichTable, Id.run_bind, List.idRun_mapM, Id.run_pure]

theorem without_enrichTable (h : catalog.AnswersBut additions answers) (sampleSize : Nat)
    (table : Table) (world : World) :
    ((enrichTable catalog sampleSize table).run world).1.without additions =
      (enrichTable answers sampleSize table).run.without additions := by
  -- the columns are sampled in the world that the count has left behind
  have hcolumns := map_run_mapM (without_sampleColumn h sampleSize table.name) table.columns
    ((catalog.rowCount table.name).run world).2
  have hcount : (if additions.counts table.name then none
      else ((catalog.rowCount table.name).run world).1.toOption) =
        if additions.counts table.name then none
        else (answers.rowCount table.name).run.toOption := by
    split
    · rfl
    · rename_i hcounts
      rw [h.rowCount table.name (Bool.eq_false_iff.mpr hcounts)]
  rw [run_enrichTable, Table.without, Table.without, List.map_map]
  show ({ table with
    rowCount := if additions.counts table.name then none
      else ((catalog.rowCount table.name).run world).1.toOption
    columns := _ } : Table) = _
  rw [hcount]
  congr 1

/-! ## All tables -/

theorem snapshot_of_error {problem : CatalogError}
    (hrows : (catalog.columns.run world).1 = .error problem) (discovery : Discovery)
    (today : StateM World Calendar.Instant) :
    ((discovery.snapshot catalog today).run world).1 = .error (.ofCatalogError problem) := by
  rcases hrun : catalog.columns.run world with ⟨listed, after⟩
  rw [hrun] at hrows
  obtain rfl : listed = .error problem := hrows
  simp only [snapshot, introspect, StateT.run_bind, hrun]
  rfl

/-- If the columns are listed, there is a snapshot.  The additions apart, its tables depend on the
answers of the catalog alone. -/
theorem exists_snapshot_of_ok {rows : List CatalogColumn}
    (hrows : (catalog.columns.run world).1 = .ok rows) (discovery : Discovery)
    (today : StateM World Calendar.Instant) :
    ∃ schema, ((discovery.snapshot catalog today).run world).1 = .ok schema ∧
      ∀ additions answers, catalog.AnswersBut additions answers →
        schema.tables.map (Table.without additions) =
          (groupTables discovery.filter rows).map fun table =>
            (enrichTable answers discovery.sampleSize table).run.without additions := by
  rcases hrun : catalog.columns.run world with ⟨listed, after⟩
  rw [hrun] at hrows
  obtain rfl : listed = .ok rows := hrows
  simp only [snapshot, introspect, StateT.run_bind, hrun]
  exact ⟨_, rfl, fun additions answers h =>
    map_run_mapM (without_enrichTable h discovery.sampleSize) _ after⟩

/-! ## Without any additions -/

theorem without_all_enrichTable (answers : Catalog Id) (sampleSize : Nat) (table : Table) :
    (enrichTable answers sampleSize table).run.without .all = table.without .all := by
  have hcolumns : ∀ column : Column,
      (sampleColumn answers sampleSize table.name column).run.without .all table.name =
        column.without .all table.name := by
    intro column
    unfold sampleColumn
    split <;> rfl
  rw [run_enrichTable, Table.without, Table.without, List.map_map]
  congr 1
  exact List.map_congr_left fun column _ => hcolumns column

theorem samples_of_mem_groupTables {filter : TableFilter} {rows : List CatalogColumn}
    {table : Table} (hmem : table ∈ groupTables filter rows) :
    ∀ column ∈ table.columns, column.samples = [] := by
  intro column hcolumn
  obtain ⟨row, -, rfl⟩ := (madeOf_of_mem_groupTables hmem).listed column hcolumn
  exact row.samples_toColumn

theorem without_all_of_mem_groupTables {filter : TableFilter} {rows : List CatalogColumn}
    {table : Table} (hmem : table ∈ groupTables filter rows) : table.without .all = table := by
  have hcolumns : table.columns.map (Column.without .all table.name) = table.columns := by
    refine map_eq_self fun column hcolumn => ?_
    show { column with samples := [] } = column
    rw [← samples_of_mem_groupTables hmem column hcolumn]
  rw [Table.without, hcolumns]
  show { table with rowCount := none } = table
  rw [← (madeOf_of_mem_groupTables hmem).uncounted]

/-- Nothing but numbers of rows and samples is added to what the rows say. -/
theorem exists_snapshot_groupTables {rows : List CatalogColumn}
    (hrows : (catalog.columns.run world).1 = .ok rows) (discovery : Discovery)
    (today : StateM World Calendar.Instant) :
    ∃ schema, ((discovery.snapshot catalog today).run world).1 = .ok schema ∧
      schema.tables.map (Table.without .all) = groupTables discovery.filter rows := by
  obtain ⟨schema, hschema, htables⟩ := exists_snapshot_of_ok hrows discovery today
  refine ⟨schema, hschema, ?_⟩
  -- with everything set apart, the catalog may as well be silent
  rw [htables .all .silent (catalog.answersBut_all .silent)]
  refine map_eq_self fun table hmem => ?_
  rw [without_all_enrichTable, without_all_of_mem_groupTables hmem]

/-! ## What is added -/

/-- The column has the samples that the catalog gives, if it holds texts and any are asked for. -/
structure Sampled (answers : Catalog Id) (sampleSize : Nat) (table : String) (column : Column) :
    Prop where
  given : column.isTextLike = true → sampleSize ≠ 0 → ∀ samples,
    (answers.sampleValues table column.name sampleSize).run = .ok samples → column.samples = samples
  missing : (column.isTextLike = false ∨ sampleSize = 0 ∨
      ∃ problem, (answers.sampleValues table column.name sampleSize).run = .error problem) →
    column.samples = []

/-- The table has what the catalog answers about it, and nothing where it gives no answer. -/
structure Completed (answers : Catalog Id) (sampleSize : Nat) (table : Table) : Prop where
  counted : ∀ count, table.rowCount = some count ↔ (answers.rowCount table.name).run = .ok count
  uncounted : table.rowCount = none ↔
    ∃ problem, (answers.rowCount table.name).run = .error problem
  sampled : ∀ column ∈ table.columns, Sampled answers sampleSize table.name column

theorem toOption_eq_some_iff {ε α : Type} {answer : Except ε α} {value : α} :
    answer.toOption = some value ↔ answer = .ok value := by
  cases answer <;> simp [Except.toOption]

theorem toOption_eq_none_iff {ε α : Type} {answer : Except ε α} :
    answer.toOption = none ↔ ∃ problem, answer = .error problem := by
  cases answer <;> simp [Except.toOption]

theorem run_sampleColumn_of_text {column : Column} (htext : column.isTextLike = true)
    {sampleSize : Nat} (hsize : sampleSize ≠ 0) (answers : Catalog Id) (table : String) :
    (sampleColumn answers sampleSize table column).run =
      { column with
        samples := (answers.sampleValues table column.name sampleSize).run.toOption.getD [] } := by
  have hasked : (sampleSize == 0 || !column.isTextLike) = false := by simp [htext, hsize]
  rw [sampleColumn, hasked]
  rfl

theorem run_sampleColumn_of_not_text {column : Column} {sampleSize : Nat}
    (h : column.isTextLike = false ∨ sampleSize = 0) (answers : Catalog Id) (table : String) :
    (sampleColumn answers sampleSize table column).run = column := by
  have hskipped : (sampleSize == 0 || !column.isTextLike) = true := by
    rcases h with htext | hsize
    · rw [htext, Bool.not_false, Bool.or_true]
    · rw [hsize, beq_self_eq_true, Bool.true_or]
  rw [sampleColumn, hskipped]
  rfl

theorem sampled_sampleColumn (answers : Catalog Id) (sampleSize : Nat) (table : String)
    {column : Column} (hbare : column.samples = []) :
    Sampled answers sampleSize table (sampleColumn answers sampleSize table column).run := by
  by_cases hasked : column.isTextLike = true ∧ sampleSize ≠ 0
  · obtain ⟨htext, hsize⟩ := hasked
    rw [run_sampleColumn_of_text htext hsize]
    refine ⟨fun _ _ samples hsamples => ?_, ?_⟩
    · show (answers.sampleValues table column.name sampleSize).run.toOption.getD [] = samples
      rw [hsamples]
      rfl
    · rintro (hnot | hnone | ⟨problem, hproblem⟩)
      · exact absurd htext (Bool.eq_false_iff.mp hnot)
      · exact absurd hnone hsize
      · show (answers.sampleValues table column.name sampleSize).run.toOption.getD [] = []
        rw [hproblem]
        rfl
  -- nobody asks for samples, so the column keeps those it has: none
  · have hskipped : column.isTextLike = false ∨ sampleSize = 0 := by
      rw [not_and_or, Bool.not_eq_true, not_not] at hasked
      exact hasked
    rw [run_sampleColumn_of_not_text hskipped]
    exact ⟨fun htext hsize => absurd ⟨htext, hsize⟩ hasked, fun _ => hbare⟩

theorem completed_enrichTable (answers : Catalog Id) (sampleSize : Nat) {table : Table}
    (hbare : ∀ column ∈ table.columns, column.samples = []) :
    Completed answers sampleSize (enrichTable answers sampleSize table).run := by
  rw [run_enrichTable]
  refine ⟨fun _ => toOption_eq_some_iff, toOption_eq_none_iff, fun sampled hmem => ?_⟩
  obtain ⟨column, hcolumn, rfl⟩ := List.mem_map.mp hmem
  exact sampled_sampleColumn answers sampleSize table.name (hbare column hcolumn)

/-! ## A sample catalog -/

/-- Two tables, with a table of migrations between them, and a table of users. -/
def maintenanceRows : List CatalogColumn :=
  [{ table := "equipment", column := "id", nullable := false, primaryKey := true },
    { table := "equipment", column := "kind", dataType := "VARCHAR" },
    { table := "equipment", column := "site", foreignTable := some "sites" },
    { table := "equipment", column := "id", dataType := "VARCHAR" },
    { table := "alembic_version", column := "version_num", dataType := "VARCHAR" },
    { table := "events", column := "equipment_id", foreignTable := some "equipment",
      foreignColumn := some "id" },
    { table := "events", column := "note", dataType := "TEXT" },
    { table := "users", column := "id" }]

def maintenance : Catalog Id where
  columns := pure (.ok maintenanceRows)
  rowCount := fun table => pure (.ok (if table == "events" then 3000 else 12))
  sampleValues := fun _ _ _ => pure (.ok ["Cargador", "Excavadora"])

def maintained : Discovery where
  filter := .ofTables false ["users"]

/-! ## Grouping -/

theorem name_without (additions : Additions) (table : String) (column : Column) :
    (column.without additions table).name = column.name := by
  unfold Column.without
  split <;> rfl

theorem lists_of_without {row : CatalogColumn} {table : String} {column : Column}
    (h : row.Lists (column.without additions table)) : row.Lists column := by
  unfold Column.without at h
  split at h
  · exact ⟨h.name, h.dataType, h.nullable, h.primaryKey, h.complete, h.carried, h.target,
      h.untargeted⟩
  · exact h

/-- Additions make no difference to how tables are grouped. -/
theorem groups_of_without {filter : TableFilter} {rows : List CatalogColumn} {tables : List Table}
    (additions : Additions)
    (h : Groups filter rows (tables.map (Table.without additions))) :
    Groups filter rows tables := by
  have hnames : (tables.map (Table.without additions)).map Table.name = tables.map Table.name := by
    rw [List.map_map]
    rfl
  have hmem : ∀ table ∈ tables, table.without additions ∈ tables.map (Table.without additions) :=
    fun table => List.mem_map_of_mem
  -- only samples and counts are set apart, so all names stay
  have hcolumnNames : ∀ table : Table, (table.without additions).columns.map Column.name =
      table.columns.map Column.name := by
    intro table
    show (table.columns.map (Column.without additions table.name)).map Column.name = _
    rw [List.map_map]
    exact List.map_congr_left fun column _ => name_without additions table.name column
  constructor
  case names => rw [← hnames, h.names]
  case distinct =>
    rw [← hnames]
    exact h.distinct
  case columnNames =>
    intro table htable
    rw [← hcolumnNames]
    exact h.columnNames _ (hmem table htable)
  case columns =>
    intro table htable column hcolumn
    obtain ⟨row, hrow, hlists⟩ := h.columns _ (hmem table htable)
      (column.without additions table.name) (List.mem_map_of_mem hcolumn)
    rw [name_without] at hrow
    exact ⟨row, hrow, lists_of_without hlists⟩
  case infrastructure =>
    exact fun table htable => h.infrastructure (table.without additions) (hmem table htable)
  case internal =>
    rw [← hnames]
    exact h.internal

/-- **Grouping loses, invents and repeats nothing**, whatever the catalog answers about the tables
that it lists. -/
theorem snapshot_groups {rows : List CatalogColumn}
    (hrows : (catalog.columns.run world).1 = .ok rows)
    (hcontiguous : Contiguous (rows.map CatalogColumn.table)) (discovery : Discovery)
    (today : StateM World Calendar.Instant) :
    ∃ schema, ((discovery.snapshot catalog today).run world).1 = .ok schema ∧
      Groups discovery.filter rows schema.tables := by
  obtain ⟨schema, hschema, htables⟩ := exists_snapshot_groupTables hrows discovery today
  refine ⟨schema, hschema, groups_of_without .all ?_⟩
  rw [htables]
  exact groups_groupTables discovery.filter hcontiguous

theorem snapshot_groups_maintenance :
    Contiguous (maintenanceRows.map CatalogColumn.table) ∧
      ∃ schema, ((maintained.snapshot (.ofAnswers maintenance) (pure default)).run ()).1 =
          .ok schema ∧
        Groups maintained.filter maintenanceRows schema.tables ∧
        schema.tables.map Table.name = ["equipment", "events"] := by
  have hcontiguous : Contiguous (maintenanceRows.map CatalogColumn.table) := by decide
  obtain ⟨schema, hschema, hgroups⟩ := snapshot_groups
    (show ((Catalog.ofAnswers maintenance).columns.run ()).1 = .ok maintenanceRows from rfl)
    hcontiguous maintained (pure default)
  exact ⟨hcontiguous, schema, hschema, hgroups, hgroups.names.trans (by decide)⟩

/-! ## Counts and samples -/

/-- **A missing answer is missed in its place only.**  There is a snapshot if the columns are
listed, and it has what the catalog answers about each table.  A catalog that lists the same columns
and answers differently about some additions, or not at all, leads to the same tables but for
these. -/
theorem snapshot_isolated (h : catalog.AnswersBut .none answers)
    (hother : other.AnswersBut additions answers)
    (hcolumns : (other.columns.run world').1 = (catalog.columns.run world).1)
    (discovery : Discovery) (today : StateM World Calendar.Instant)
    (today' : StateM World' Calendar.Instant) :
    (∀ problem, (catalog.columns.run world).1 = .error problem →
      ((discovery.snapshot catalog today).run world).1 = .error (.ofCatalogError problem)) ∧
    (∀ rows, (catalog.columns.run world).1 = .ok rows → ∃ schema,
      ((discovery.snapshot catalog today).run world).1 = .ok schema ∧
        schema.tables.map (Table.without .all) = groupTables discovery.filter rows ∧
        ∀ table ∈ schema.tables, Completed answers discovery.sampleSize table) ∧
    ((discovery.snapshot other today').run world').1.map
        (fun schema => schema.tables.map (Table.without additions)) =
      ((discovery.snapshot catalog today).run world).1.map
        fun schema => schema.tables.map (Table.without additions) := by
  refine ⟨fun problem hproblem => snapshot_of_error hproblem discovery today, ?_, ?_⟩
  · intro rows hrows
    obtain ⟨schema, hschema, hbare⟩ := exists_snapshot_groupTables hrows discovery today
    obtain ⟨_, hsame, htables⟩ := exists_snapshot_of_ok hrows discovery today
    cases hschema.symm.trans hsame
    refine ⟨schema, hschema, hbare, fun table hmem => ?_⟩
    -- with nothing set apart the tables are known completely
    have hadded : schema.tables = (groupTables discovery.filter rows).map fun table =>
        (enrichTable answers discovery.sampleSize table).run := by
      simpa only [Table.without_none, List.map_id, id_eq] using htables .none answers h
    rw [hadded] at hmem
    obtain ⟨grouped, hgrouped, rfl⟩ := List.mem_map.mp hmem
    exact completed_enrichTable answers discovery.sampleSize (samples_of_mem_groupTables hgrouped)
  · cases hrows : (catalog.columns.run world).1 with
    | error problem =>
        rw [snapshot_of_error hrows, snapshot_of_error (hcolumns.trans hrows)]
    | ok rows =>
        obtain ⟨schema, hschema, htables⟩ := exists_snapshot_of_ok hrows discovery today
        obtain ⟨schema', hschema', htables'⟩ :=
          exists_snapshot_of_ok (hcolumns.trans hrows) discovery today'
        rw [hschema, hschema']
        refine congrArg Except.ok ?_
        exact (htables' additions answers hother).trans
          (htables additions answers (h.weaken additions)).symm

/-- What is found if nothing can be asked about the equipment, and if only its kinds are not
known.  Either way the notes of the events keep their samples. -/
theorem snapshot_isolated_maintenance :
    ∃ whole uncounted unsampled,
      ((maintained.snapshot (.ofAnswers maintenance) (pure default)).run ()).1 = .ok whole ∧
      ((maintained.snapshot (.ofAnswers (maintenance.lacking (.ofTable "equipment")))
        (pure default)).run ()).1 = .ok uncounted ∧
      ((maintained.snapshot (.ofAnswers (maintenance.lacking (.ofColumn "equipment" "kind")))
        (pure default)).run ()).1 = .ok unsampled ∧
      whole.tables.map (Table.without (.ofTable "equipment")) =
        uncounted.tables.map (Table.without (.ofTable "equipment")) ∧
      whole.tables.map (Table.without (.ofColumn "equipment" "kind")) =
        unsampled.tables.map (Table.without (.ofColumn "equipment" "kind")) ∧
      (∀ table ∈ uncounted.tables,
        Completed (maintenance.lacking (.ofTable "equipment")) 20 table) ∧
      uncounted.tables.map Table.name = ["equipment", "events"] ∧
      uncounted.tables.map Table.rowCount = [none, some 3000] ∧
      whole.tables.map (fun table => table.columns.map Column.samples) =
        [[[], ["Cargador", "Excavadora"], []], [[], ["Cargador", "Excavadora"]]] ∧
      uncounted.tables.map (fun table => table.columns.map Column.samples) =
        [[[], [], []], [[], ["Cargador", "Excavadora"]]] ∧
      unsampled.tables.map (fun table => table.columns.map Column.samples) =
        [[[], [], []], [[], ["Cargador", "Excavadora"]]] := by
  have hlisted : ((Catalog.ofAnswers maintenance).columns.run ()).1 = maintenance.columns.run := rfl
  obtain ⟨whole, hwhole, -⟩ := exists_snapshot_of_ok hlisted maintained (pure default)
  obtain ⟨-, huncounted, hcounts⟩ := snapshot_isolated
    (Catalog.answersBut_ofAnswers .none (maintenance.lacking (.ofTable "equipment")))
    (Catalog.answersBut_lacking (.ofTable "equipment") maintenance) hlisted maintained
    (pure default) (pure default)
  obtain ⟨-, hunsampled, hsamples⟩ := snapshot_isolated
    (Catalog.answersBut_ofAnswers .none (maintenance.lacking (.ofColumn "equipment" "kind")))
    (Catalog.answersBut_lacking (.ofColumn "equipment" "kind") maintenance) hlisted maintained
    (pure default) (pure default)
  obtain ⟨uncounted, huncounted, hbare, hcompleted⟩ := huncounted _ rfl
  obtain ⟨unsampled, hunsampled, -⟩ := hunsampled _ rfl
  rw [hwhole, huncounted] at hcounts
  rw [hwhole, hunsampled] at hsamples
  have hnames := congrArg (List.map Table.name) hbare
  rw [List.map_map] at hnames
  refine ⟨whole, uncounted, unsampled, hwhole, huncounted, hunsampled, Except.ok.inj hcounts,
    Except.ok.inj hsamples, hcompleted, hnames.trans (by decide), ?_⟩
  -- what the columns have been given is computed
  cases hwhole
  cases huncounted
  cases hunsampled
  decide

end Discovery

end PlainQuery

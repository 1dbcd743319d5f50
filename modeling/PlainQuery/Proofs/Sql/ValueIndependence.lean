import PlainQuery.Proofs.Fields
import PlainQuery.Proofs.Sql.Layout
import PlainQuery.Proofs.Sql.Plan

/-!
# Values never reach the text

Two intents are *alike* if they differ in values only: in what filters compare with, in the dates,
in the limit and in what is never compiled.  Two schemas have the same *bare* form if they differ
only in data: in samples, types of columns and numbers of rows.  This file compares the queries that
`generate` makes from alike intents over such schemas: they have the same text, the same tables and
the same names of parameters (`generate_congr`).

The two runs are brought together step by step, tables first and conditions after them.

* **Schemas.**  Everything that looks at a table commutes with `Table.bare`: the lookup of a table,
  a single join (`joinTo?_bare`), the rounds of the join search (`joinPending_bare`) and what they
  start from (`pendingTables_bare`).  Hence the choice of tables and joins is the same over a schema
  and over its bare form (`tableClause_bare`), and over any two schemas with one bare form.

* **Intents.**  The names in a condition are what is left of it without the values
  (`Condition.named`).  Values of one shape make the same condition up to its values
  (`condition?_congr`); in particular they take as many slots, so the numbering of the placeholders
  runs in step for alike filters and one filter never moves the names of the next one
  (`filterConditions_congr`).

Text, tables and names of parameters are functions of the plan without its values
(`visible_queryOver`), and that plan is the same for alike intents (`planOver_congr`).
-/

namespace PlainQuery

/-! ## Schemas without data -/

/-- The column with nothing but its name and what it refers to. -/
def Column.bare (column : Column) : Column where
  name := column.name
  dataType := ""
  foreignKey := column.foreignKey
  foreignTable := column.foreignTable
  foreignColumn := column.foreignColumn

/-- The table with nothing but its name and its bare columns. -/
def Table.bare (table : Table) : Table where
  name := table.name
  columns := table.columns.map Column.bare

/-- The schema with nothing but its bare tables. -/
def Schema.bare (schema : Schema) : Schema where
  tables := schema.tables.map Table.bare
  discoveredAt := default

@[simp] theorem Column.reference?_bare (column : Column) :
    column.bare.reference? = column.reference? := rfl

@[simp] theorem Table.name_bare (table : Table) : table.bare.name = table.name := rfl

@[simp] theorem Schema.table?_bare (schema : Schema) (name : String) :
    schema.bare.table? name = (schema.table? name).map Table.bare := by
  unfold Schema.table? Schema.bare
  rw [List.find?_map]
  rfl

@[simp] theorem Schema.canonicalName_bare (schema : Schema) (name : String) :
    schema.bare.canonicalName name = schema.canonicalName name := by
  unfold Schema.canonicalName
  rw [Schema.table?_bare]
  cases schema.table? name <;> rfl

/-! ## Intents that differ in values only -/

/-- Both values are null or neither is, and both are lists of the same length or neither is a list.
-/
structure Json.Alike (first second : Json) : Prop where
  null : first.isNull = second.isNull
  length : first.items?.map List.length = second.items?.map List.length

/-- The filters have the same column and operator, and values of the same shape. -/
structure Filter.Alike (first second : Filter) : Prop where
  column : first.column = second.column
  operator : first.operator = second.operator
  value : first.value.Alike second.value

/-- The intents ask for the same, but for the values, the dates and the size of the limit. -/
structure Intent.Alike (first second : Intent) : Prop where
  tables : first.tables = second.tables
  selectColumns : first.selectColumns = second.selectColumns
  aggregations : first.aggregations = second.aggregations
  filters : List.Forall₂ Filter.Alike first.filters second.filters
  joins : first.joins = second.joins
  groupBy : first.groupBy = second.groupBy
  orderBy : first.orderBy = second.orderBy
  limit : first.limit.isSome = second.limit.isSome
  startDate : (first.dateRange.bind DateRange.startDate).isSome =
    (second.dateRange.bind DateRange.startDate).isSome
  endDate : (first.dateRange.bind DateRange.endDate).isSome =
    (second.dateRange.bind DateRange.endDate).isSome

namespace Sql

/-! ## Joins over a bare schema -/

theorem joinByOwnKey?_bare (target : Table) (included : List Table) :
    joinByOwnKey? target.bare (included.map Table.bare) = joinByOwnKey? target included := by
  unfold joinByOwnKey? Table.bare
  rw [List.findSome?_map]
  congr 1
  funext column
  simp only [Function.comp_apply, Column.reference?_bare, List.find?_map, Option.map_map]
  rfl

theorem joinByOtherKey?_bare (target : Table) (included : List Table) :
    joinByOtherKey? target.bare (included.map Table.bare) = joinByOtherKey? target included := by
  unfold joinByOtherKey?
  rw [List.findSome?_map]
  congr 1
  funext source
  show (source.columns.map Column.bare).findSome? _ = _
  rw [List.findSome?_map]
  rfl

theorem joinTo?_bare (included : List Table) (target : Table) :
    joinTo? (included.map Table.bare) target.bare = joinTo? included target := by
  unfold joinTo?
  rw [joinByOwnKey?_bare, joinByOtherKey?_bare]

theorem takeJoinable?_bare (included pending : List Table) :
    takeJoinable? (included.map Table.bare) (pending.map Table.bare) =
      (takeJoinable? included pending).map
        fun taken => (taken.1.map id Table.bare, taken.2.map Table.bare) := by
  induction pending with
  | nil => rfl
  | cons table pending ih =>
      -- a table is taken on both sides or on neither
      simp only [takeJoinable?, List.map_cons, joinTo?_bare, ih]
      cases joinTo? included table with
      | some join => rfl
      | none => cases takeJoinable? included pending <;> rfl

theorem joinPending_bare (rounds : Nat) (included pending : List Table) :
    joinPending rounds (included.map Table.bare) (pending.map Table.bare) =
      (joinPending rounds included pending).map (Prod.map id Table.bare) := by
  induction rounds generalizing included pending with
  | zero => rfl
  | succ rounds ih =>
      simp only [joinPending, takeJoinable?_bare]
      cases takeJoinable? included pending with
      | none => rfl
      | some taken =>
          obtain ⟨found, others⟩ := taken
          have hrest := ih (included ++ [found.2]) others
          rw [List.map_append] at hrest
          simp only [Option.map_some, List.map_cons]
          rw [← hrest]
          rfl

theorem pendingTables_bare (schema : Schema) (seen : List Table) (names : List String) :
    pendingTables schema.bare (seen.map Table.bare) names =
      (pendingTables schema seen names).map Table.bare := by
  induction names generalizing seen with
  | nil => rfl
  | cons name names ih =>
      simp only [pendingTables, Schema.table?_bare]
      cases schema.table? name with
      | none => exact ih seen
      | some table =>
          have hrest := ih (seen ++ [table])
          rw [List.map_append] at hrest
          -- only the names of the tables that were seen are compared
          simp only [Option.map_some, List.any_map, Function.comp_def, Table.name_bare]
          split
          · exact ih seen
          · rw [List.map_cons, ← hrest]
            rfl

theorem inferJoins_bare (schema : Schema) (names : List String) :
    inferJoins schema.bare names = (inferJoins schema names).map (Prod.map id Table.bare) := by
  cases names with
  | nil => rfl
  | cons first others =>
      simp only [inferJoins, Schema.table?_bare]
      cases schema.table? first with
      | none => rfl
      | some anchor =>
          have hpending := pendingTables_bare schema [anchor] others
          have hjoins := joinPending_bare (pendingTables schema [anchor] others).length [anchor]
            (pendingTables schema [anchor] others)
          -- as many rounds on both sides, since as many tables are pending
          rw [← hpending, List.map_singleton] at hjoins
          rw [Option.map_some]
          dsimp only
          rw [← hjoins, ← List.map_singleton, hpending, List.length_map]

theorem hintedJoin?_bare (schema : Schema) (hint : JoinHint) :
    hintedJoin? schema.bare hint = hintedJoin? schema hint := by
  unfold hintedJoin?
  simp only [Schema.canonicalName_bare, Schema.table?_bare]
  cases schema.table? hint.leftTable with
  | none => rfl
  | some left => cases schema.table? hint.rightTable <;> rfl

/-- The data of a schema decides neither about the tables of a query nor about its joins. -/
theorem tableClause_bare (schema : Schema) (intent : Intent) :
    tableClause schema.bare intent = tableClause schema intent := by
  have hhints : hintedJoin? schema.bare = hintedJoin? schema := funext (hintedJoin?_bare schema)
  unfold tableClause
  rw [hhints]
  simp only [Schema.canonicalName_bare, inferJoins_bare]
  cases intent.tables with
  | nil => rfl
  | cons first others =>
      dsimp only
      cases identifier? (schema.canonicalName first) with
      | none => rfl
      | some anchor =>
          cases intent.joins.isEmpty with
          | false => rfl
          | true => simp only [if_true, List.map_map]; rfl

/-! ## Conditions of alike filters -/

/-- The condition with the names of its values in their place. -/
def Condition.named (condition : Condition Binding) : Condition Placeholder :=
  condition.map Binding.placeholder

theorem Condition.length_slots_named (condition : Condition Binding) :
    condition.named.slots.length = condition.slots.length := by
  rw [named, Condition.slots_map, List.length_map]

theorem numbered_congr (stem : Stem) (counter : Nat) {values others : List Json}
    (hlength : values.length = others.length) :
    (numbered stem counter values).map Binding.placeholder =
      (numbered stem counter others).map Binding.placeholder := by
  induction values generalizing counter others with
  | nil => rw [List.length_eq_zero_iff.mp hlength.symm]
  | cons value values ih =>
      cases others with
      | nil => simp at hlength
      | cons other others =>
          simp only [numbered, List.map_cons]
          rw [ih (counter + 1) (Nat.succ.inj hlength)]

theorem length_memberValues {value other : Json} (h : value.Alike other) :
    (memberValues value).length = (memberValues other).length := by
  obtain ⟨hnull, hlength⟩ := h
  cases value <;> cases other <;> simp_all [Json.isNull, Json.items?, memberValues]

/-- A value is a list of two exactly if every value of its shape is. -/
theorem between_congr (counter : Nat) (column : Identifier) {value other : Json}
    (h : value.Alike other) :
    (condition? counter column value .between).map Condition.named =
      (condition? counter column other .between).map Condition.named := by
  -- a list of any other length is dropped
  have hlist : ∀ items : List Json, items.length ≠ 2 →
      condition? counter column (.array items) .between = none := by
    intro items hne
    match items with
    | [] => rfl
    | [_] => rfl
    | [_, _] => simp at hne
    | _ :: _ :: _ :: _ => rfl
  obtain ⟨-, hlength⟩ := h
  cases value with
  | array items =>
      cases other with
      | array others =>
          have hlength : items.length = others.length := by simpa [Json.items?] using hlength
          by_cases htwo : items.length = 2
          · obtain ⟨low, high, rfl⟩ := List.length_eq_two.mp htwo
            obtain ⟨low', high', rfl⟩ := List.length_eq_two.mp (hlength.symm.trans htwo)
            rfl
          · rw [hlist items htwo, hlist others (hlength ▸ htwo)]
      | _ => simp [Json.items?] at hlength
  | _ => cases other <;> first | rfl | simp [Json.items?] at hlength

/-- For values of one shape an operator makes the same condition, up to the values in it. -/
theorem condition?_congr (counter : Nat) (column : Identifier) (operator : Operator)
    {value other : Json} (h : value.Alike other) :
    (condition? counter column value operator).map Condition.named =
      (condition? counter column other operator).map Condition.named := by
  cases operator with
  | nullTest negated => rfl
  | like ignoresCase => rfl
  | between => exact between_congr counter column h
  | compare comparison =>
      simp only [condition?, h.null]
      split <;> rfl
  | membership negated =>
      have hmembers := numbered_congr .member counter (length_memberValues h)
      simp only [condition?]
      -- neither list has members, or both have some
      cases hvalue : numbered .member counter (memberValues value) with
      | nil =>
          rw [hvalue, List.map_nil, eq_comm, List.map_eq_nil_iff] at hmembers
          rw [hmembers]
      | cons first others =>
          cases hother : numbered .member counter (memberValues other) with
          | nil => simp [hvalue, hother] at hmembers
          | cons first' others' =>
              rw [hvalue, hother] at hmembers
              exact congrArg
                (fun members => some (Condition.membership column negated members)) hmembers

theorem filterCondition?_congr (counter : Nat) {filter other : Filter} (h : filter.Alike other) :
    (filterCondition? counter filter).map Condition.named =
      (filterCondition? counter other).map Condition.named := by
  unfold filterCondition?
  rw [h.operator, h.column]
  cases Operator.ofName? other.operator with
  | none => rfl
  | some operator =>
      cases identifier? other.column with
      | none => rfl
      | some column => exact condition?_congr counter column operator h.value

/-- Alike filters are dropped together, and the others take the same placeholders. -/
theorem filterConditions_congr (counter : Nat) {filters others : List Filter}
    (h : List.Forall₂ Filter.Alike filters others) :
    (filterConditions counter filters).map Condition.named =
      (filterConditions counter others).map Condition.named := by
  induction h generalizing counter with
  | nil => rfl
  | cons hfilter hfilters ih =>
      rename_i filter other filters others
      have hcondition := filterCondition?_congr counter hfilter
      unfold filterConditions
      cases hfirst : filterCondition? counter filter with
      | none =>
          rw [hfirst, Option.map_none, eq_comm, Option.map_eq_none_iff] at hcondition
          rw [hcondition]
          exact ih counter
      | some condition =>
          -- both conditions take as many slots, so the counters stay the same
          rw [hfirst, Option.map_some, eq_comm, Option.map_eq_some_iff] at hcondition
          obtain ⟨condition', hsecond, hnamed⟩ := hcondition
          have hlength : condition.slots.length = condition'.slots.length := by
            rw [← condition.length_slots_named, ← hnamed, condition'.length_slots_named]
          rw [hsecond]
          simp only [List.map_cons, hnamed, hlength, ih]

/-! ## Queries of alike intents -/

theorem dateConditions_named (defaultDateColumn : String) (intent : Intent) :
    (dateConditions defaultDateColumn intent).map Condition.named =
      (if (intent.dateRange.bind DateRange.startDate).isSome then
        [.compare (.ofName (dateColumn defaultDateColumn intent)) .greaterOrEqual .dateStart]
      else []) ++
      (if (intent.dateRange.bind DateRange.endDate).isSome then
        [.compare (.ofName (dateColumn defaultDateColumn intent)) .lessOrEqual .dateEnd]
      else []) := by
  unfold dateConditions
  cases intent.dateRange with
  | none => rfl
  | some range =>
      obtain ⟨start, stop, period⟩ := range
      cases start <;> cases stop <;> rfl

theorem dateConditions_congr (defaultDateColumn : String) {first second : Intent}
    (h : first.Alike second) :
    (dateConditions defaultDateColumn first).map Condition.named =
      (dateConditions defaultDateColumn second).map Condition.named := by
  -- the column of the dates is chosen by names only
  have hcolumn : dateColumn defaultDateColumn first = dateColumn defaultDateColumn second := by
    unfold dateColumn
    rw [h.selectColumns, h.groupBy]
  rw [dateConditions_named, dateConditions_named, hcolumn, h.startDate, h.endDate]

/-- Without the values, alike intents have the same plan. -/
theorem planOver_congr (defaultDateColumn : String) (tables : TableClause) {first second : Intent}
    (h : first.Alike second) :
    (planOver defaultDateColumn first tables).map Binding.placeholder =
      (planOver defaultDateColumn second tables).map Binding.placeholder := by
  have hitems : selectItems first = selectItems second := by
    unfold selectItems
    rw [h.selectColumns, h.aggregations]
  have hfilters := filterConditions_congr 0 h.filters
  have hdates := dateConditions_congr defaultDateColumn h
  have hlimit : (first.limit.map fun count => Binding.mk .limit (.ofNat count)).map
      Binding.placeholder =
        (second.limit.map fun count => Binding.mk .limit (.ofNat count)).map
          Binding.placeholder := by
    have hsome := h.limit
    cases hfirst : first.limit <;> cases hsecond : second.limit <;> simp_all
  unfold planOver Statement.map
  simp only [List.map_append, hitems, hlimit, h.groupBy, h.orderBy]
  congr 1
  exact congrArg₂ _ hfilters hdates

/-- What there is to see of a query besides values: its text, its tables and the names of its
parameters. -/
def Query.visible (query : Query) : String × List String × List String :=
  (query.sql, query.tablesUsed, query.parameters.keys)

theorem visible_queryOver (defaultDateColumn : String) (intent : Intent) (tables : TableClause) :
    (queryOver defaultDateColumn intent tables).visible =
      (String.ofList (((planOver defaultDateColumn intent tables).map Binding.placeholder).write
          Placeholder.write),
        tables.tablesUsed,
        (Fields.ofList (((planOver defaultDateColumn intent tables).map
          Binding.placeholder).slots.map fun placeholder => (placeholder.name, ()))).keys) := by
  have hkeys : (queryOver defaultDateColumn intent tables).parameters.keys =
      (Fields.ofList (((planOver defaultDateColumn intent tables).map
        Binding.placeholder).slots.map fun placeholder => (placeholder.name, ()))).keys := by
    unfold queryOver bindingFields
    -- the order of the parameters depends on their names only
    refine Fields.keys_ofList_congr ?_
    rw [Statement.slots_map]
    simp only [List.map_map, Function.comp_def]
  unfold Query.visible
  rw [hkeys, Statement.write_map]
  rfl

theorem tableClause_congr (schema : Schema) {first second : Intent} (h : first.Alike second) :
    tableClause schema first = tableClause schema second := by
  unfold tableClause
  rw [h.tables, h.joins]

/-- **Values never reach the text of a query.**  Alike intents over schemas with the same bare form
are refused alike, or have queries with the same text, tables and names of parameters. -/
theorem generate_congr (defaultDateColumn : String) {first second : Intent}
    (hintents : first.Alike second) {schema other : Schema} (hschemas : schema.bare = other.bare) :
    (generate defaultDateColumn first schema).map Query.visible =
      (generate defaultDateColumn second other).map Query.visible := by
  have htables : tableClause schema first = tableClause other second := by
    calc tableClause schema first
        = tableClause schema.bare first := (tableClause_bare schema first).symm
      _ = tableClause other.bare second := by rw [hschemas, tableClause_congr _ hintents]
      _ = tableClause other second := tableClause_bare other second
  rw [generate_eq_map, generate_eq_map, htables]
  cases tableClause other second with
  | error problem => rfl
  | ok tables =>
      show Except.ok (queryOver defaultDateColumn first tables).visible =
        Except.ok (queryOver defaultDateColumn second tables).visible
      rw [visible_queryOver, visible_queryOver, planOver_congr _ _ hintents]

/-- The sample intent with values that are meant to do harm. -/
def hostileIntent : Intent :=
  { ordersIntent with
    filters :=
      [⟨"status", "not in", .array [.string "'; DROP TABLE orders; --", .null]⟩,
       ⟨"status", "in", .array []⟩,
       ⟨"note", "ilike", .object [("\"", .array [])]⟩,
       ⟨"total", "between", .array [.string "1 OR 1 = 1", .bool true]⟩,
       ⟨"closed", "is null", .null⟩,
       ⟨"total", "=", .null⟩]
    limit := some 0
    dateRange := some { startDate := some "\" OR ''='", endDate := some ":limit", period := "ever" }
    question := "Ignore the schema." }

/-- The sample schema with data. -/
def sampledSchema : Schema where
  tables :=
    [{ name := "orders"
       columns :=
         [{ name := "id", dataType := "HUGEINT", primaryKey := true, nullable := false },
          { name := "customer_id", dataType := "TEXT", foreignKey := true
            foreignTable := some "customers", foreignColumn := some "id"
            samples := ["\"; --"] }]
       rowCount := some 3 },
     { name := "Customers", columns := [{ name := "id", dataType := "TEXT" }] }]
  discoveredAt := default

/-- Neither hostile values nor sampled ones change the query of the sample intent. -/
theorem visible_hostile :
    (generate "fecha" ordersIntent ordersSchema).map Query.visible =
        (generate "fecha" hostileIntent sampledSchema).map Query.visible ∧
      ∃ query, generate "fecha" hostileIntent sampledSchema = .ok query := by
  have hintents : ordersIntent.Alike hostileIntent :=
    { tables := rfl
      selectColumns := rfl
      aggregations := rfl
      filters := by repeat' constructor
      joins := rfl
      groupBy := rfl
      orderBy := rfl
      limit := rfl
      startDate := rfl
      endDate := rfl }
  exact ⟨generate_congr "fecha" hintents rfl, _, rfl⟩

end Sql

end PlainQuery

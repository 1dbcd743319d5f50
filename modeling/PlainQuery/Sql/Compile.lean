import PlainQuery.Intent.Basic
import PlainQuery.Sql.Joins
import PlainQuery.Sql.Placeholder
import PlainQuery.Text.Escaped

/-!
# From intents to statements

`compile` turns an intent into a statement over the tables of a schema.  Names are reduced to
identifiers and every value becomes a slot, so that nothing of a value can reach the text.  Entries
of the intent that make no sense are dropped: only an intent without a usable first table is
refused.

A slot of the planned statement is a `Binding`: the placeholder that is written and the value bound
to it.  `Query.parameters` collects the values by name.
-/

namespace PlainQuery.Sql

/-- A placeholder with the value bound to it. -/
structure Binding where
  placeholder : Placeholder
  value : Json

/-- A statement whose slots carry their values. -/
abbrev Plan := Statement Binding

/-- Why an intent has no statement. -/
inductive CompileError where
  | noTables
  | unusableTable (name : String)
deriving DecidableEq, Repr

/-- The wording of the problem. -/
def CompileError.message : CompileError → String
  | noTables => "No tables specified in intent"
  | unusableTable name => "Table name " ++ Text.escaped name ++ " has no usable characters"

/-! ## The columns of the result -/

/-- The call that an aggregation asks for, with the stem of its default label. -/
def aggregateCall? (function : AggregateFunction) (column : String) :
    Option (AggregateCall × List Char) :=
  if column == "*" then
    if function = .count then some (.countAll, "all".toList) else none
  else (identifier? column).map fun name => (.apply function name, name.text)

/-- The label `stem_rest`. -/
def defaultLabel (function : AggregateFunction) (rest : List Char) : Identifier :=
  .ofName (String.ofList (function.stem.toList ++ '_' :: rest))

/-- The column of the result that an aggregation asks for. -/
def aggregateItem? (aggregation : Aggregation) : Option SelectItem := do
  let function ← AggregateFunction.ofName? aggregation.function
  let (call, rest) ← aggregateCall? function (Text.trim aggregation.column)
  let label := (aggregation.label.bind identifier?).getD (defaultLabel function rest)
  pure (.aggregate call label)

/-- The columns of the result. -/
def selectItems (intent : Intent) : List SelectItem :=
  (intent.selectColumns.filterMap identifier?).map .column ++
    intent.aggregations.filterMap aggregateItem?

/-! ## Tables -/

/-- The join that a hint asks for, if it is complete and both tables are known. -/
def hintedJoin? (schema : Schema) (hint : JoinHint) : Option (Join × String) := do
  let source ← identifier? (schema.canonicalName hint.leftTable)
  let sourceColumn ← identifier? hint.leftColumn
  let target ← identifier? (schema.canonicalName hint.rightTable)
  let targetColumn ← identifier? hint.rightColumn
  -- an unknown name keeps its spelling, so being usable does not make it one of a table
  let _ ← schema.table? hint.leftTable
  let table ← schema.table? hint.rightTable
  pure ({ target, source, sourceColumn, targetColumn }, table.name)

/-- The list with `name` at its end, unless it has the name already in some case. -/
def addName (names : List String) (name : String) : List String :=
  if names.any fun other => Text.equalIgnoringCase other name then names else names ++ [name]

/-- The tables of a statement: the anchor, the joins and the names of all tables used. -/
structure TableClause where
  anchor : Identifier
  joins : List Join
  tablesUsed : List String

/-- The tables that an intent asks for.  Joins are inferred only if it proposes none. -/
def tableClause (schema : Schema) (intent : Intent) : Except CompileError TableClause :=
  match intent.tables with
  | [] => .error .noTables
  | first :: _ =>
    let anchorName := schema.canonicalName first
    match identifier? anchorName with
    | none => .error (.unusableTable first)
    | some anchor =>
      let hinted := intent.joins.filterMap (hintedJoin? schema)
      -- hints that lead to nothing are no reason to infer joins
      let inferred := if intent.joins.isEmpty then inferJoins schema intent.tables else []
      .ok
        { anchor
          joins := hinted.map Prod.fst ++ inferred.map Prod.fst
          tablesUsed :=
            (hinted.map Prod.snd).foldl addName [anchorName] ++
              inferred.map fun found => found.2.name }

/-! ## Conditions -/

/-- Bindings of the values to placeholders that are numbered after `counter`. -/
def numbered (stem : Stem) (counter : Nat) : List Json → List Binding
  | [] => []
  | value :: values =>
    ⟨.numbered stem (counter + 1), value⟩ :: numbered stem (counter + 1) values

/-- The values that a membership test compares with. -/
def memberValues : Json → List Json
  | .array items => items
  | .null => []
  | value => [value]

/-- The condition on a column that an operator and a value ask for, if the value suits the operator.
-/
def condition? (counter : Nat) (column : Identifier) (value : Json) :
    Operator → Option (Condition Binding)
  | .nullTest negated => some (.nullTest column negated)
  | .membership negated =>
    match numbered .member counter (memberValues value) with
    | [] => none
    | members => some (.membership column negated members)
  | .like ignoresCase =>
    some (.like column ignoresCase ⟨.numbered .pattern (counter + 1), value⟩)
  | .between =>
    match value with
    | .array [low, high] =>
      some (.between column ⟨.numbered .operand (counter + 1), low⟩
        ⟨.numbered .operand (counter + 2), high⟩)
    | _ => none
  | .compare comparison =>
    if value.isNull then none
    else some (.compare column comparison ⟨.numbered .operand (counter + 1), value⟩)

/-- The condition that a filter asks for. -/
def filterCondition? (counter : Nat) (filter : Filter) : Option (Condition Binding) := do
  let operator ← Operator.ofName? filter.operator
  let column ← identifier? filter.column
  condition? counter column filter.value operator

/-- The conditions of the filters; the numbers of the placeholders never fall back. -/
def filterConditions (counter : Nat) : List Filter → List (Condition Binding)
  | [] => []
  | filter :: filters =>
    match filterCondition? counter filter with
    | none => filterConditions counter filters
    | some condition =>
      condition :: filterConditions (counter + condition.slots.length) filters

/-- What the name of a column of dates contains. -/
def dateMarkers : List String :=
  ["fecha", "date", "created_at", "updated_at", "timestamp", "time"]

/-- The name looks like that of a column of dates. -/
def looksLikeDate (column : String) : Bool :=
  let lower := (Text.lower column).toList
  dateMarkers.any fun marker => Text.occursIn marker.toList lower

/-- The column that a range of dates applies to: the first one asked for that looks like a date. -/
def dateColumn (defaultColumn : String) (intent : Intent) : String :=
  ((intent.selectColumns ++ intent.groupBy).find? looksLikeDate).getD defaultColumn

/-- The conditions of the range of dates. -/
def dateConditions (defaultColumn : String) (intent : Intent) : List (Condition Binding) :=
  match intent.dateRange with
  | none => []
  | some range =>
    -- unlike the names of an intent, the configured one is not looked at
    let column := Identifier.ofName (dateColumn defaultColumn intent)
    (range.startDate.toList.map fun date =>
      .compare column .greaterOrEqual ⟨.dateStart, .string date⟩) ++
    (range.endDate.toList.map fun date =>
      .compare column .lessOrEqual ⟨.dateEnd, .string date⟩)

/-! ## The whole statement -/

/-- The column to order by that a term asks for. -/
def orderItem? (term : OrderTerm) : Option OrderItem :=
  (identifier? term.column).map fun column => ⟨column, Direction.ofName term.direction⟩

/-- The statement that an intent asks for, and the names of the tables it uses. -/
def compile (defaultDateColumn : String) (intent : Intent) (schema : Schema) :
    Except CompileError (Plan × List String) := do
  let tables ← tableClause schema intent
  pure
    ({ items := selectItems intent
       anchor := tables.anchor
       joins := tables.joins
       conditions :=
        filterConditions 0 intent.filters ++ dateConditions defaultDateColumn intent
       groupBy := intent.groupBy.filterMap identifier?
       orderBy := intent.orderBy.filterMap orderItem?
       limit := intent.limit.map fun count => ⟨.limit, .ofNat count⟩ },
     tables.tablesUsed)

end PlainQuery.Sql

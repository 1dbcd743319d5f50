import PlainQuery.Sql.Compile

/-!
# Queries

A `Query` is a compiled statement as text, with the values of its placeholders, a description for
people and the tables it uses.  `generate` makes one from an intent.
-/

namespace PlainQuery.Sql

/-- A compiled statement. -/
structure Query where
  sql : String
  parameters : Fields Json
  description : String
  tablesUsed : List String
deriving Repr, Inhabited

/-! ## The description -/

/-- A value as it is shown in a description: strings bare, everything else as a document. -/
def showValue : Json → String
  | .string text => text
  | value => value.render

/-- An aggregation in a description. -/
def describeAggregation (aggregation : Aggregation) : String :=
  Text.upper aggregation.function ++ "(" ++ aggregation.column ++ ")"

/-- A filter in a description. -/
def describeFilter (filter : Filter) : String :=
  if filter.value.isNull then filter.column ++ " " ++ Text.upper filter.operator
  else filter.column ++ " " ++ filter.operator ++ " " ++ showValue filter.value

/-- A part of a description that is left out when it has no entries. -/
def describePart (heading : String) (entries : List String) : List String :=
  if entries.isEmpty then [] else [heading ++ Text.joined ", " entries]

/-- What an intent asks for, in words. -/
def describeIntent (intent : Intent) (tablesUsed : List String) : String :=
  let period := match intent.dateRange with
    | some range => if range.period.isEmpty then [] else ["Period: " ++ range.period]
    | none => []
  Text.joined " | "
    (describePart "Computing: " (intent.aggregations.map describeAggregation) ++
      ["From tables: " ++ Text.joined ", " tablesUsed] ++
      describePart "Filtered by: " (intent.filters.map describeFilter) ++
      describePart "Grouped by: " intent.groupBy ++ period)

/-! ## Generating -/

/-- The values of the slots by the names of their placeholders. -/
def bindingFields (bindings : List Binding) : Fields Json :=
  Fields.ofList (bindings.map fun binding => (binding.placeholder.name, binding.value))

/-- The text of a plan. -/
def Plan.sql (plan : Plan) : String :=
  String.ofList (plan.write fun binding => binding.placeholder.write)

/-- The query for an intent. -/
def generate (defaultDateColumn : String) (intent : Intent) (schema : Schema) :
    Except CompileError Query := do
  let (plan, tablesUsed) ← compile defaultDateColumn intent schema
  pure
    { sql := Plan.sql plan
      parameters := bindingFields plan.slots
      description := describeIntent intent tablesUsed
      tablesUsed }

/-- The column that ranges of dates apply to when nothing else is configured. -/
def standardDateColumn : String := "fecha"

end PlainQuery.Sql

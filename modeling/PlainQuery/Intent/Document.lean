import PlainQuery.Intent.Basic
import PlainQuery.Json.Record

/-!
# Intents as documents

Each part of an intent is written as an object with all its fields, `null` standing for what is
absent.  Reading is strict: it accepts what is written and little more.  For the loose reading of
what a model replies see `Intent.ofReply`.
-/

namespace PlainQuery

open Json (Presence field? optionalField? defaultedField? listOf?)

namespace DateRange

/-- The fields of a range of dates. -/
def shape : List (String × Presence) :=
  [("start_date", .optional), ("end_date", .optional), ("period_description", .defaulted)]

/-- The document of a range of dates. -/
def toJson (range : DateRange) : Json :=
  .ofMembers
    [("start_date", .ofOption .string range.startDate),
     ("end_date", .ofOption .string range.endDate),
     ("period_description", .string range.period)]

/-- Reads a range of dates. -/
def ofJson? (value : Json) : Option DateRange := do
  let fields ← value.record? shape
  pure
    { startDate := ← optionalField? Json.string? "start_date" fields
      endDate := ← optionalField? Json.string? "end_date" fields
      period := ← defaultedField? Json.string? "" "period_description" fields }

end DateRange

namespace Aggregation

/-- The fields of an aggregation. -/
def shape : List (String × Presence) :=
  [("func", .required), ("column", .required), ("alias", .optional)]

/-- The document of an aggregation. -/
def toJson (aggregation : Aggregation) : Json :=
  .ofMembers
    [("func", .string aggregation.function), ("column", .string aggregation.column),
     ("alias", .ofOption .string aggregation.label)]

/-- Reads an aggregation. -/
def ofJson? (value : Json) : Option Aggregation := do
  let fields ← value.record? shape
  pure
    { function := ← field? Json.string? "func" fields
      column := ← field? Json.string? "column" fields
      label := ← optionalField? Json.string? "alias" fields }

end Aggregation

namespace Filter

/-- The fields of a filter. -/
def shape : List (String × Presence) :=
  [("column", .required), ("operator", .required), ("value", .defaulted)]

/-- The document of a filter. -/
def toJson (filter : Filter) : Json :=
  .ofMembers
    [("column", .string filter.column), ("operator", .string filter.operator),
     ("value", filter.value)]

/-- Reads a filter. -/
def ofJson? (value : Json) : Option Filter := do
  let fields ← value.record? shape
  pure
    { column := ← field? Json.string? "column" fields
      operator := ← field? Json.string? "operator" fields
      value := ← defaultedField? some .null "value" fields }

end Filter

namespace JoinHint

/-- The fields of a join hint. -/
def shape : List (String × Presence) :=
  [("table1", .required), ("col1", .required), ("table2", .required), ("col2", .required)]

/-- The document of a join hint. -/
def toJson (hint : JoinHint) : Json :=
  .ofMembers
    [("table1", .string hint.leftTable), ("col1", .string hint.leftColumn),
     ("table2", .string hint.rightTable), ("col2", .string hint.rightColumn)]

/-- Reads a join hint. -/
def ofJson? (value : Json) : Option JoinHint := do
  let fields ← value.record? shape
  pure
    { leftTable := ← field? Json.string? "table1" fields
      leftColumn := ← field? Json.string? "col1" fields
      rightTable := ← field? Json.string? "table2" fields
      rightColumn := ← field? Json.string? "col2" fields }

end JoinHint

namespace OrderTerm

/-- The fields of an order term. -/
def shape : List (String × Presence) := [("column", .required), ("direction", .required)]

/-- The document of an order term. -/
def toJson (term : OrderTerm) : Json :=
  .ofMembers [("column", .string term.column), ("direction", .string term.direction)]

/-- Reads an order term. -/
def ofJson? (value : Json) : Option OrderTerm := do
  let fields ← value.record? shape
  pure
    { column := ← field? Json.string? "column" fields
      direction := ← field? Json.string? "direction" fields }

end OrderTerm

namespace Intent

/-- The fields of an intent. -/
def shape : List (String × Presence) :=
  [("tables", .required), ("select_columns", .required), ("aggregations", .required),
   ("filters", .required), ("joins", .required), ("group_by", .required),
   ("order_by", .required), ("limit", .optional), ("date_range", .optional),
   ("confidence", .required), ("reasoning", .required), ("original_question", .required)]

/-- The document of an intent. -/
def toJson (intent : Intent) : Json :=
  .ofMembers
    [("tables", .ofStrings intent.tables),
     ("select_columns", .ofStrings intent.selectColumns),
     ("aggregations", .array (intent.aggregations.map Aggregation.toJson)),
     ("filters", .array (intent.filters.map Filter.toJson)),
     ("joins", .array (intent.joins.map JoinHint.toJson)),
     ("group_by", .ofStrings intent.groupBy),
     ("order_by", .array (intent.orderBy.map OrderTerm.toJson)),
     ("limit", .ofOption .ofNat intent.limit),
     ("date_range", .ofOption DateRange.toJson intent.dateRange),
     ("confidence", .number (.double intent.confidence)),
     ("reasoning", .string intent.reasoning),
     ("original_question", .string intent.question)]

/-- Reads an intent. -/
def ofJson? (value : Json) : Option Intent := do
  let fields ← value.record? shape
  pure
    { tables := ← field? (listOf? Json.string?) "tables" fields
      selectColumns := ← field? (listOf? Json.string?) "select_columns" fields
      aggregations := ← field? (listOf? Aggregation.ofJson?) "aggregations" fields
      filters := ← field? (listOf? Filter.ofJson?) "filters" fields
      joins := ← field? (listOf? JoinHint.ofJson?) "joins" fields
      groupBy := ← field? (listOf? Json.string?) "group_by" fields
      orderBy := ← field? (listOf? OrderTerm.ofJson?) "order_by" fields
      limit := ← optionalField? Json.natural? "limit" fields
      dateRange := ← optionalField? DateRange.ofJson? "date_range" fields
      confidence := ← field? Json.double? "confidence" fields
      reasoning := ← field? Json.string? "reasoning" fields
      question := ← field? Json.string? "original_question" fields }

end Intent

end PlainQuery

import PlainQuery.Json.Basic

/-!
# Intents

An `Intent` says what a question asks for, before it is turned into a query: which tables, columns,
calculations, conditions and order.  The names of functions and operators are still free text; the
compiler decides which of them it knows.
-/

namespace PlainQuery

/-- A range of dates, each bound as text. -/
structure DateRange where
  startDate : Option String := none
  endDate : Option String := none
  period : String := ""
deriving Repr, Inhabited, DecidableEq

/-- A calculation over a column, with the name wanted for its result. -/
structure Aggregation where
  function : String
  column : String
  label : Option String := none
deriving Repr, Inhabited, DecidableEq

/-- A condition on a column. -/
structure Filter where
  column : String
  operator : String
  value : Json := .null
deriving Repr, Inhabited

/-- A proposal to join two tables on one column each. -/
structure JoinHint where
  leftTable : String
  leftColumn : String
  rightTable : String
  rightColumn : String
deriving Repr, Inhabited, DecidableEq

/-- A column to order by. -/
structure OrderTerm where
  column : String
  direction : String
deriving Repr, Inhabited, DecidableEq

/-- What a question asks for. -/
structure Intent where
  tables : List String := []
  selectColumns : List String := []
  aggregations : List Aggregation := []
  filters : List Filter := []
  joins : List JoinHint := []
  groupBy : List String := []
  orderBy : List OrderTerm := []
  limit : Option Nat := none
  dateRange : Option DateRange := none
  confidence : Number.Double
  reasoning : String := ""
  question : String := ""
deriving Repr, Inhabited

end PlainQuery

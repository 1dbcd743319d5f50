import PlainQuery.Json.Record

/-!
# Results of queries

A `QueryResult` is what a query gave: its rows, or the reason why there are none.  A row holds a
value for each column name; columns of one name share a value.
-/

namespace PlainQuery

open Json (Presence field? optionalField? listOf?)

/-- A row of a result. -/
abbrev Row := Fields Json

/-- What a query gave. -/
structure QueryResult where
  success : Bool
  rows : List Row
  rowCount : Nat
  columnNames : List String
  /-- How long the query took, in milliseconds. -/
  elapsed : Number.Double
  errorMessage : Option String
  /-- There were more rows than these. -/
  truncated : Bool
deriving Repr, Inhabited

namespace QueryResult

/-- The result of a query that gave rows. -/
def ofRows (columnNames : List String) (rows : List Row) (truncated : Bool)
    (elapsed : Number.Double) : QueryResult where
  success := true
  rows := rows
  rowCount := rows.length
  columnNames := columnNames
  elapsed := elapsed
  errorMessage := none
  truncated := truncated

/-- The result of a query that failed. -/
def failure (message : String) (elapsed : Number.Double) : QueryResult where
  success := false
  rows := []
  rowCount := 0
  columnNames := []
  elapsed := elapsed
  errorMessage := some message
  truncated := false

/-- The fields of a result. -/
def shape : List (String × Presence) :=
  [("success", .required), ("data", .required), ("row_count", .required),
   ("column_names", .required), ("execution_time_ms", .required), ("error_message", .optional),
   ("truncated", .required)]

/-- The document of a result. -/
def toJson (result : QueryResult) : Json :=
  .ofMembers
    [("success", .bool result.success), ("data", .array (result.rows.map .object)),
     ("row_count", .ofNat result.rowCount), ("column_names", .ofStrings result.columnNames),
     ("execution_time_ms", .number (.double result.elapsed)),
     ("error_message", .ofOption .string result.errorMessage),
     ("truncated", .bool result.truncated)]

/-- Reads a result. -/
def ofJson? (value : Json) : Option QueryResult := do
  let fields ← value.record? shape
  pure
    { success := ← field? Json.bool? "success" fields
      rows := ← field? (listOf? Json.members?) "data" fields
      rowCount := ← field? Json.natural? "row_count" fields
      columnNames := ← field? (listOf? Json.string?) "column_names" fields
      elapsed := ← field? Json.double? "execution_time_ms" fields
      errorMessage := ← optionalField? Json.string? "error_message" fields
      truncated := ← field? Json.bool? "truncated" fields }

end QueryResult

end PlainQuery

import PlainQuery.Schema.Basic

/-!
# Describing a schema

`Schema.describe` is the text about a schema that is handed to a language model.  It depends on the
tables alone, so equal tables are described alike.
-/

namespace PlainQuery

namespace Column

/-- The notes on a column: its type and what holds of it. -/
def notes (column : Column) : List String :=
  [column.dataType] ++
    (if column.primaryKey then ["PK"] else []) ++
    (match column.reference? with
      | some (table, target) => ["FK -> " ++ table ++ "." ++ target]
      | none => []) ++
    (if column.nullable then [] else ["NOT NULL"])

/-- The line on a column. -/
def describe (column : Column) : String :=
  let samples := column.samples.map fun value => "'" ++ value ++ "'"
  "  - " ++ column.name ++ " (" ++ Text.joined ", " column.notes ++ ")" ++
    (if samples.isEmpty then "" else " samples: " ++ Text.joined ", " samples) ++ "\n"

end Column

namespace Table

/-- The lines on a table. -/
def describe (table : Table) : String :=
  let size := match table.rowCount with
    | some count => toString count ++ " rows"
    | none => "row count unknown"
  let description := match table.description with
    | some text => "Description: " ++ text ++ "\n"
    | none => ""
  "\nTable: " ++ table.name ++ " (" ++ size ++ ")\n" ++ description ++ "Columns:\n" ++
    String.join (table.columns.map Column.describe)

/-- The references of a table to others, a line each. -/
def describeReferences (table : Table) : List String :=
  table.columns.filterMap fun column =>
    column.reference?.map fun (target, targetColumn) =>
      "  - " ++ table.name ++ "." ++ column.name ++ " -> " ++ target ++ "." ++ targetColumn ++ "\n"

end Table

/-- The description of a schema. -/
def Schema.describe (schema : Schema) : String :=
  let references := schema.tables.flatMap Table.describeReferences
  "DATABASE SCHEMA (" ++ toString schema.tables.length ++ " tables)\n" ++
    String.join (schema.tables.map Table.describe) ++
    (if references.isEmpty then "" else "\nRELATIONSHIPS:\n" ++ String.join references)

end PlainQuery

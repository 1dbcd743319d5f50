import PlainQuery.Json.Record
import PlainQuery.Schema.Basic

/-!
# Schemas as documents
-/

namespace PlainQuery

open Json (Presence field? optionalField? listOf?)

namespace Column

/-- The fields of a column. -/
def shape : List (String × Presence) :=
  [("name", .required), ("data_type", .required), ("is_nullable", .required),
   ("is_primary_key", .required), ("is_foreign_key", .required), ("foreign_table", .optional),
   ("foreign_column", .optional), ("sample_values", .required)]

/-- The document of a column. -/
def toJson (column : Column) : Json :=
  .ofMembers
    [("name", .string column.name), ("data_type", .string column.dataType),
     ("is_nullable", .bool column.nullable), ("is_primary_key", .bool column.primaryKey),
     ("is_foreign_key", .bool column.foreignKey),
     ("foreign_table", .ofOption .string column.foreignTable),
     ("foreign_column", .ofOption .string column.foreignColumn),
     ("sample_values", .ofStrings column.samples)]

/-- Reads a column. -/
def ofJson? (value : Json) : Option Column := do
  let fields ← value.record? shape
  pure
    { name := ← field? Json.string? "name" fields
      dataType := ← field? Json.string? "data_type" fields
      nullable := ← field? Json.bool? "is_nullable" fields
      primaryKey := ← field? Json.bool? "is_primary_key" fields
      foreignKey := ← field? Json.bool? "is_foreign_key" fields
      foreignTable := ← optionalField? Json.string? "foreign_table" fields
      foreignColumn := ← optionalField? Json.string? "foreign_column" fields
      samples := ← field? (listOf? Json.string?) "sample_values" fields }

end Column

namespace Table

/-- The fields of a table. -/
def shape : List (String × Presence) :=
  [("name", .required), ("columns", .required), ("row_count", .optional),
   ("description", .optional)]

/-- The document of a table. -/
def toJson (table : Table) : Json :=
  .ofMembers
    [("name", .string table.name), ("columns", .array (table.columns.map Column.toJson)),
     ("row_count", .ofOption .ofNat table.rowCount),
     ("description", .ofOption .string table.description)]

/-- Reads a table. -/
def ofJson? (value : Json) : Option Table := do
  let fields ← value.record? shape
  pure
    { name := ← field? Json.string? "name" fields
      columns := ← field? (listOf? Column.ofJson?) "columns" fields
      rowCount := ← optionalField? Json.natural? "row_count" fields
      description := ← optionalField? Json.string? "description" fields }

end Table

namespace Schema

/-- The fields of a schema. -/
def shape : List (String × Presence) := [("tables", .required), ("discovered_at", .required)]

/-- The document of a schema. -/
def toJson (schema : Schema) : Json :=
  .ofMembers
    [("tables", .array (schema.tables.map Table.toJson)),
     ("discovered_at", .string (schema.discoveredAt.render .letter))]

/-- Reads a schema. -/
def ofJson? (value : Json) : Option Schema := do
  let fields ← value.record? shape
  pure
    { tables := ← field? (listOf? Table.ofJson?) "tables" fields
      discoveredAt :=
        ← field? (fun text => text.string?.bind Calendar.Instant.ofText?) "discovered_at" fields }

end Schema

end PlainQuery

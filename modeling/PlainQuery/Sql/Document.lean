import PlainQuery.Json.Record
import PlainQuery.Sql.Query

/-!
# Queries as documents
-/

namespace PlainQuery.Sql.Query

open Json (Presence field? listOf?)

/-- The fields of a query. -/
def shape : List (String × Presence) :=
  [("sql", .required), ("parameters", .required), ("description", .required),
   ("tables_used", .required)]

/-- The document of a query. -/
def toJson (query : Query) : Json :=
  .ofMembers
    [("sql", .string query.sql), ("parameters", .object query.parameters),
     ("description", .string query.description), ("tables_used", .ofStrings query.tablesUsed)]

/-- Reads a query. -/
def ofJson? (value : Json) : Option Query := do
  let fields ← value.record? shape
  pure
    { sql := ← field? Json.string? "sql" fields
      parameters := ← field? Json.members? "parameters" fields
      description := ← field? Json.string? "description" fields
      tablesUsed := ← field? (listOf? Json.string?) "tables_used" fields }

end PlainQuery.Sql.Query

import PlainQuery.Intent.Basic
import PlainQuery.Schema.Basic

/-!
# Checking intents against a schema

`Intent.validate` keeps the tables of an intent that the schema knows, in the spelling of the schema
and without repetition.  An intent without such a table is refused.
-/

namespace PlainQuery

/-- None of the tables of an intent is known; the tables that are there. -/
structure UnknownTables where
  available : List String
deriving DecidableEq, Repr

/-- The wording of the problem. -/
def UnknownTables.message (problem : UnknownTables) : String :=
  "No valid tables found. Available: " ++ Text.joined ", " problem.available

namespace Intent

/-- The known tables among the names, in the spelling of the schema, each once. -/
def knownTables (schema : Schema) (names : List String) : List String :=
  names.foldl
    (fun known name =>
      match schema.table? name with
      | some table => if known.contains table.name then known else known ++ [table.name]
      | none => known)
    []

/-- The intent with the tables that the schema knows. -/
def validate (schema : Schema) (intent : Intent) : Except UnknownTables Intent :=
  match knownTables schema intent.tables with
  | [] => .error ⟨schema.tableNames⟩
  | known => .ok { intent with tables := known }

end Intent

end PlainQuery

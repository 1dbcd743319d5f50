import PlainQuery.Calendar.Instant
import PlainQuery.Text.CaseMap

/-!
# Database schemas

A `Schema` is a snapshot of the tables of a database: their columns with types and keys, how many
rows they have and some values of the columns that hold text.  Tables and columns are looked up by
name without regard to the case of the letters A–Z.
-/

namespace PlainQuery

/-- A column of a table. -/
structure Column where
  name : String
  dataType : String
  nullable : Bool := true
  primaryKey : Bool := false
  foreignKey : Bool := false
  foreignTable : Option String := none
  foreignColumn : Option String := none
  /-- Distinct values of the column, for columns that hold text. -/
  samples : List String := []
deriving DecidableEq, Repr, Inhabited

namespace Column

/-- The column as part of the primary key; such a column is never null. -/
def asPrimaryKey (column : Column) : Column :=
  { column with primaryKey := true, nullable := false }

/-- The column as a reference to `target` of `table`. -/
def referencing (table target : String) (column : Column) : Column :=
  { column with foreignKey := true, foreignTable := some table, foreignColumn := some target }

/-- The table and column that the column refers to, if it is a complete foreign key. -/
def reference? (column : Column) : Option (String × String) :=
  if column.foreignKey then
    match column.foreignTable, column.foreignColumn with
    | some table, some target => some (table, target)
    | _, _ => none
  else none

/-- The words in the name of a type that mark it as a type of texts. -/
def textMarkers : List String := ["CHAR", "TEXT", "STRING", "ENUM"]

/-- The column holds text, judged by the name of its type. -/
def isTextLike (column : Column) : Bool :=
  let upper := (Text.upper column.dataType).toList
  textMarkers.any fun marker => Text.occursIn marker.toList upper

end Column

/-- A table with its columns in their order. -/
structure Table where
  name : String
  columns : List Column := []
  /-- How many rows the table has, if they could be counted. -/
  rowCount : Option Nat := none
  description : Option String := none
deriving DecidableEq, Repr, Inhabited

/-- The column of the given name. -/
def Table.column? (name : String) (table : Table) : Option Column :=
  table.columns.find? fun column => Text.equalIgnoringCase column.name name

/-- A snapshot of the tables of a database. -/
structure Schema where
  tables : List Table
  discoveredAt : Calendar.Instant
deriving DecidableEq, Repr, Inhabited

namespace Schema

/-- The table of the given name. -/
def table? (name : String) (schema : Schema) : Option Table :=
  schema.tables.find? fun table => Text.equalIgnoringCase table.name name

/-- The names of the tables in order. -/
def tableNames (schema : Schema) : List String := schema.tables.map Table.name

/-- The spelling that the schema has for a name, or the name itself. -/
def canonicalName (schema : Schema) (name : String) : String :=
  match schema.table? name with
  | some table => table.name
  | none => name

end Schema

end PlainQuery

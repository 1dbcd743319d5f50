import PlainQuery.Catalog.Keys
import PlainQuery.Database.Conversion

/-!
# Databases in memory

A `Database` is a list of tables with typed columns.  Its tables are found by name without regard to
the case of the letters A–Z, as statements find them.
-/

namespace PlainQuery

/-- A column of a table. -/
structure StoredColumn where
  name : String
  type : ColumnType
  nullable : Bool := true
deriving Repr, Inhabited

/-- A foreign key of a table. -/
structure StoredReference where
  columns : List String
  table : String
  targets : List String
deriving DecidableEq, Repr

/-- A table with its rows in the order in which they were inserted. -/
structure StoredTable where
  /-- The part of the database that the table belongs to. -/
  schema : String := "main"
  name : String
  columns : List StoredColumn
  rows : List (List Cell) := []
  primaryKey : List String := []
  references : List StoredReference := []
deriving Repr, Inhabited

/-- Tables in memory. -/
structure Database where
  tables : List StoredTable := []
deriving Repr, Inhabited

namespace Database

/-- The part of a database that statements speak about. -/
def mainSchema : String := "main"

/-- The table has this name. -/
def isNamed (schema name : String) (table : StoredTable) : Bool :=
  Text.equalIgnoringCase table.schema schema && Text.equalIgnoringCase table.name name

/-- The table of the given name. -/
def table? (database : Database) (schema name : String) : Option StoredTable :=
  database.tables.find? (isNamed schema name)

/-- The database with one table more. -/
def create (database : Database) (table : StoredTable) : Database :=
  { database with tables := database.tables ++ [table] }

/-- The database without a table. -/
def drop (database : Database) (name : String) : Database :=
  { database with tables := database.tables.filter fun table => !isNamed mainSchema name table }

/-- The database with further rows in a table. -/
def insert (database : Database) (name : String) (rows : List (List Cell)) : Database :=
  { database with
    tables := database.tables.map fun table =>
      if isNamed mainSchema name table then { table with rows := table.rows ++ rows } else table }

end Database

/-- The cells of a row of texts, each by the type of its column. -/
def StoredTable.cells? (columns : List StoredColumn) (row : List (Option String)) :
    Option (List Cell) :=
  (columns.zip row).mapM fun (column, text) => column.type.cell? text

end PlainQuery

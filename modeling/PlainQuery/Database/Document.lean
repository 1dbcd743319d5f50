import PlainQuery.Database.Basic
import PlainQuery.Json.Writer

/-!
# Databases as documents

A database is written as the list of its tables.  A table has a name, columns with the names of
their types, and rows of texts and numbers, which are read by the types of their columns.
-/

namespace PlainQuery

namespace StoredTable

/-- A member that is a text. -/
def textMember? (name : String) (value : Json) : Option String :=
  (value.member? name).bind Json.string?

/-- A member that is a list, empty if it is left out. -/
def listMember (name : String) (value : Json) : List Json :=
  ((value.member? name).bind Json.items?).getD []

/-- A member that is a list of texts. -/
def textsMember (name : String) (value : Json) : List String :=
  (listMember name value).filterMap Json.string?

/-- A member that is set to true. -/
def isMarked (name : String) (value : Json) : Bool :=
  ((value.member? name).bind Json.bool?).getD false

/-- The text of a value in a row. -/
def cellText? : Json → Option String
  | .null => none
  | .string text => some text
  | value => some value.render

/-- Reads a column. -/
def readColumn? (value : Json) : Option StoredColumn := do
  pure
    { name := ← textMember? "name" value
      type := ColumnType.ofText ((textMember? "type" value).getD "VARCHAR")
      nullable := !isMarked "not_null" value }

/-- Reads a foreign key. -/
def readReference? (value : Json) : Option StoredReference := do
  pure
    { columns := textsMember "columns" value
      table := ← textMember? "table" value
      targets := textsMember "ref" value }

/-- Reads a row of cells, each by the type of its column. -/
def readRow? (columns : List StoredColumn) (value : Json) : Option (List Cell) := do
  cells? columns ((← value.items?).map cellText?)

/-- The names of the columns that are marked as keys. -/
def markedKeys (columns : List Json) : List String :=
  (columns.filter (isMarked "pk")).filterMap (textMember? "name")

/-- Reads a table. -/
def ofJson? (value : Json) : Option StoredTable := do
  let columns ← (listMember "columns" value).mapM readColumn?
  pure
    { schema := (textMember? "schema" value).getD Database.mainSchema
      name := ← textMember? "name" value
      columns
      rows := ← (listMember "rows" value).mapM (readRow? columns)
      primaryKey := markedKeys (listMember "columns" value) ++ textsMember "pk" value
      references := ← (listMember "fks" value).mapM readReference? }

end StoredTable

/-- Reads a database from the list of its tables. -/
def Database.ofJson? (value : Json) : Option Database := do
  pure { tables := ← (← value.items?).mapM StoredTable.ofJson? }

end PlainQuery

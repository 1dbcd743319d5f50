import PlainQuery.Database.Basic
import PlainQuery.Sql.Identifier

/-!
# What a database says about itself

The columns of the tables of one schema, with the keys that its constraints tell, the number of rows
of a table and the distinct texts of a column.
-/

namespace PlainQuery

namespace StoredTable

/-- A name as it stands in a constraint, between quotes unless it is a plain word. -/
def constraintName (name : String) : String :=
  let startsPlain := match name.toList with
    | [] => false
    | c :: _ => c.isAlpha || c == '_'
  if startsPlain && name.toList.all Sql.isWordChar then name else Sql.quoteName name

/-- The names of columns in a constraint. -/
def constraintNames (names : List String) : String :=
  "(" ++ Text.joined ", " (names.map constraintName) ++ ")"

/-- The constraints of a table as the database tells them. -/
def constraints (table : StoredTable) : List KeyConstraint :=
  let primary : List KeyConstraint :=
    if table.primaryKey.isEmpty then []
    else
      [{ table := table.name
         kind := "PRIMARY KEY"
         text := "PRIMARY KEY" ++ constraintNames table.primaryKey }]
  let foreign := table.references.map fun reference : StoredReference =>
    ({ table := table.name
       kind := "FOREIGN KEY"
       text :=
         "FOREIGN KEY " ++ constraintNames reference.columns ++ " REFERENCES " ++
           reference.table ++ constraintNames reference.targets } : KeyConstraint)
  primary ++ foreign

/-- The columns of a table as the catalog lists them. -/
def listedColumns (table : StoredTable) : List CatalogColumn :=
  table.columns.map fun column =>
    { table := table.name
      column := column.name
      dataType := column.type.name
      nullable := column.nullable &&
        !table.primaryKey.any fun key => Text.equalIgnoringCase key column.name }

/-- The distinct texts of a column in their order, as many as there are at most. -/
def distinctTexts (table : StoredTable) (position limit : Nat) : List String :=
  let texts := table.rows.filterMap fun row => (row[position]?).bind Cell.plainText?
  (texts.mergeSort fun left right => !(right < left)).eraseDups.take limit

end StoredTable

namespace Database

/-- The columns of the tables of a schema, the tables in the order of their names. -/
def listedColumns (database : Database) (schema : String) : List CatalogColumn :=
  let tables := (database.tables.filter fun table => table.schema == schema).mergeSort
    fun left right => !(right.name < left.name)
  (KeyIndex.ofConstraints (tables.flatMap StoredTable.constraints)).apply
    (tables.flatMap StoredTable.listedColumns)

end Database

end PlainQuery

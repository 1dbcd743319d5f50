import PlainQuery.Database.Evaluation
import PlainQuery.Database.Listing

/-!
# Connections to a database

Through a `Connection` a database answers as a catalog and runs statements as an engine.  A
connection that is busy does neither: whoever asks waits in vain.
-/

namespace PlainQuery

/-- A way to a database. -/
inductive Connection where
  | opened (database : Database)
  /-- All others keep the database busy. -/
  | busy
deriving Inhabited

namespace Connection

/-- What comes of waiting for a busy database. -/
def waitedInVain : String := "timed out waiting for connection"

/-- An answer of the catalog of an open database. -/
def consult {α : Type} (connection : Connection) (answer : Database → Except CatalogError α) :
    Except CatalogError α :=
  match connection with
  | opened database => answer database
  | busy => .error (.pool waitedInVain)

/-- An answer about a table of a schema. -/
def consultTable {α : Type} (connection : Connection) (schema name : String)
    (answer : StoredTable → Except DatabaseFault α) : Except CatalogError α :=
  connection.consult fun database =>
    let answered := match database.table? schema name with
      | some table => answer table
      | none => .error (.unknownTable name)
    answered.mapError fun fault => .query fault.message

/-- The distinct texts of a column of a table. -/
def distinctTexts (column : String) (limit : Nat) (table : StoredTable) :
    Except DatabaseFault (List String) :=
  match table.columns.findIdx? fun stored => Text.equalIgnoringCase stored.name column with
  | some position => .ok (table.distinctTexts position limit)
  | none => .error (.unknownColumn column)

section Access

variable {m : Type → Type} [Monad m]

/-- The catalog of a schema, asked over the connection that there is at the time. -/
def catalog (current : m Connection) (schema : String) : Catalog m where
  columns := do
    return (← current).consult fun database => .ok (database.listedColumns schema)
  rowCount := fun table => do
    return (← current).consultTable schema table fun stored => .ok stored.rows.length
  sampleValues := fun table column limit => do
    return (← current).consultTable schema table (distinctTexts column limit)

/-- The engine that runs statements over the connection that there is at the time. -/
def engine (current : m Connection) : Engine m := fun sql arguments => do
  match ← current with
  | opened database =>
    return (database.run sql arguments).mapError fun fault => .database fault.message
  | busy => return .error (.connection waitedInVain)

end Access

end Connection

end PlainQuery

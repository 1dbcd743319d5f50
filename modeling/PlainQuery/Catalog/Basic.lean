import PlainQuery.Failure

/-!
# Catalogs

A `Catalog` answers what a database says about itself: its columns, how many rows a table has and
some values of a column.  Each answer can fail.
-/

namespace PlainQuery

/-- Why a catalog gives no answer. -/
inductive CatalogError where
  /-- No connection was to be had. -/
  | pool (detail : String)
  /-- The database refused the query. -/
  | query (detail : String)
  /-- The work was not brought to its end. -/
  | task (detail : String)
deriving DecidableEq, Repr

namespace CatalogError

/-- The wording of the problem. -/
def message : CatalogError → String
  | pool detail => "Connection pool error: " ++ detail
  | query detail => "Catalog query failed: " ++ detail
  | task detail => "Catalog task failed: " ++ detail

end CatalogError

/-- The schema is not known because the catalog gave no answer. -/
def Failure.ofCatalogError (problem : CatalogError) : Failure :=
  inStage .schemaDiscovery problem.message

/-- A column as a catalog lists it. -/
structure CatalogColumn where
  table : String
  column : String
  dataType : String := "INTEGER"
  nullable : Bool := true
  primaryKey : Bool := false
  foreignTable : Option String := none
  foreignColumn : Option String := none
deriving DecidableEq, Repr

/-- What a database says about itself. -/
structure Catalog (m : Type → Type) where
  /-- All columns, those of a table together and in their order. -/
  columns : m (Except CatalogError (List CatalogColumn))
  rowCount : (table : String) → m (Except CatalogError Nat)
  sampleValues : (table column : String) → (limit : Nat) → m (Except CatalogError (List String))

end PlainQuery

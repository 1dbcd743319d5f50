import PlainQuery.Catalog.Filter
import PlainQuery.Model.Endpoint
import PlainQuery.Result.Execution
import PlainQuery.Result.Table

/-!
# Settings

Everything about the program that can be set, by section, with the values that hold when nothing is
set.
-/

namespace PlainQuery

/-- The database that is asked. -/
structure DatabaseSettings where
  location : String := "nl-query.db"
  poolSize : Nat := 4
  /-- Files are opened without the right to write. -/
  readOnly : Bool := true
  /-- The part of the database whose tables are discovered. -/
  schema : String := "main"
deriving DecidableEq, Repr, Inhabited

/-- How the schema is discovered and kept. -/
structure DiscoverySettings where
  includeInternal : Bool := false
  internalTables : List String := TableFilter.standardInternal
  /-- How long a snapshot is used, in seconds. -/
  timeToLive : Nat := 3600
  sampleSize : Nat := 20
deriving DecidableEq, Repr, Inhabited

/-- How queries are run. -/
structure ExecutionSettings where
  maxRows : Nat := 1000
  /-- How long a query may take, in seconds. -/
  timeout : Nat := 30
deriving DecidableEq, Repr, Inhabited

/-- The limits that the settings put on a query. -/
def ExecutionSettings.limits (settings : ExecutionSettings) : ExecutionLimits where
  maxRows := settings.maxRows
  timeout := settings.timeout * 1000

/-- The settings of the program. -/
structure Settings where
  database : DatabaseSettings := {}
  discovery : DiscoverySettings := {}
  execution : ExecutionSettings := {}
  display : DisplayLimits := {}
  defaultDateColumn : String := "fecha"
  model : ModelSettings := {}
  /-- Log lines are written as documents. -/
  logAsDocuments : Bool := false
deriving DecidableEq, Repr, Inhabited

end PlainQuery

import PlainQuery.Text.CaseMap

/-!
# Which tables are seen

Tables that belong to the database or to tools around it are never seen, internal tables of the
application only on demand.  Names are compared in lower case.
-/

namespace PlainQuery

/-- Decides which tables are seen. -/
structure TableFilter where
  includeInternal : Bool
  /-- The internal tables, in lower case. -/
  internal : List String
deriving DecidableEq, Repr

namespace TableFilter

/-- Tables of migrations, statistics and spatial data. -/
def infrastructure : List String :=
  ["alembic_version", "schema_migrations", "__diesel_schema_migrations", "_sqlx_migrations",
   "refinery_schema_history", "flyway_schema_history", "pg_stat_statements", "spatial_ref_sys",
   "geometry_columns", "geography_columns", "raster_columns", "raster_overviews"]

/-- What the names of a database's own tables begin with. -/
def systemStart : String := "sqlite_"

/-- The internal tables of an application that names none. -/
def standardInternal : List String := ["users", "conversations", "messages", "reports"]

/-- The filter with the given internal tables. -/
def ofTables (includeInternal : Bool) (internal : List String) : TableFilter where
  includeInternal := includeInternal
  internal := internal.map Text.lower

/-- The table belongs to the database or to a tool. -/
def isInfrastructure (lowerName : String) : Bool :=
  infrastructure.contains lowerName || systemStart.toList.isPrefixOf lowerName.toList

/-- The table is seen. -/
def allows (filter : TableFilter) (table : String) : Bool :=
  let name := Text.lower table
  !isInfrastructure name && (filter.includeInternal || !filter.internal.contains name)

end TableFilter

end PlainQuery

import PlainQuery.Cache.Refresh
import PlainQuery.Catalog.Basic
import PlainQuery.Catalog.Filter

/-!
# Discovering a schema

`Discovery.introspect` asks a catalog for its columns, groups them into the tables that its filter
lets pass and adds to each table the number of its rows and samples of its texts.  Only the list of
columns is indispensable: a table that cannot be counted or sampled just lacks this.
`Discovery.discover` keeps snapshots in a cache.
-/

namespace PlainQuery

/-- The column of a table that a catalog lists. -/
def CatalogColumn.toColumn (row : CatalogColumn) : Column :=
  let column : Column :=
    { name := row.column
      dataType := row.dataType
      nullable := row.nullable
      primaryKey := row.primaryKey }
  match row.foreignTable, row.foreignColumn with
  | some table, some target => column.referencing table target
  | _, _ => column

/-- How schemas are discovered. -/
structure Discovery where
  filter : TableFilter
  /-- How many samples of a column are taken. -/
  sampleSize : Nat := 20
deriving DecidableEq, Repr

namespace Discovery

/-! ## Grouping -/

/-- The table with a column more, unless it has a column of this name. -/
def addColumn (table : Table) (column : Column) : Table :=
  if table.columns.all fun other => other.name != column.name then
    { table with columns := table.columns ++ [column] }
  else table

/-- The tables, latest first, with the column of a row more: it belongs to the latest table or
begins a new one. -/
def addRow (tables : List Table) (row : CatalogColumn) : List Table :=
  match tables with
  | table :: earlier =>
    if table.name == row.table then addColumn table row.toColumn :: earlier
    else { name := row.table, columns := [row.toColumn] } :: table :: earlier
  | [] => [{ name := row.table, columns := [row.toColumn] }]

/-- The tables that the rows describe, as far as the filter lets them pass. -/
def groupTables (filter : TableFilter) (rows : List CatalogColumn) : List Table :=
  ((rows.filter fun row => filter.allows row.table).foldl addRow []).reverse

/-! ## Counts and samples -/

section Introspection

variable {m : Type → Type} [Monad m]

/-- The column with its samples, if it holds texts. -/
def sampleColumn (catalog : Catalog m) (sampleSize : Nat) (table : String) (column : Column) :
    m Column := do
  if sampleSize == 0 || !column.isTextLike then pure column
  else
    let samples ← catalog.sampleValues table column.name sampleSize
    pure { column with samples := samples.toOption.getD [] }

/-- The table with its number of rows and the samples of its columns. -/
def enrichTable (catalog : Catalog m) (sampleSize : Nat) (table : Table) : m Table := do
  let count ← catalog.rowCount table.name
  let columns ← table.columns.mapM (sampleColumn catalog sampleSize table.name)
  pure { table with rowCount := count.toOption, columns := columns }

/-- The tables of a catalog. -/
def introspect (discovery : Discovery) (catalog : Catalog m) :
    m (Except Failure (List Table)) := do
  match ← catalog.columns with
  | .error problem => pure (.error (.ofCatalogError problem))
  | .ok rows =>
    let tables ←
      (groupTables discovery.filter rows).mapM (enrichTable catalog discovery.sampleSize)
    pure (.ok tables)

/-! ## Snapshots -/

/-- The key under which snapshots are kept; those with internal tables are kept apart. -/
def cacheKey (discovery : Discovery) : String :=
  if discovery.filter.includeInternal then "database_schema:internal" else "database_schema"

/-- A new snapshot of the schema. -/
def snapshot (discovery : Discovery) (catalog : Catalog m) (today : m Calendar.Instant) :
    m (Except Failure Schema) := do
  match ← discovery.introspect catalog with
  | .error problem => pure (.error problem)
  | .ok tables => pure (.ok { tables, discoveredAt := ← today })

/-- The schema from the cache, or a new snapshot of it. -/
def discover (discovery : Discovery) (catalog : Catalog m) (clock : m Time)
    (today : m Calendar.Instant) (force : Bool) :
    StateT (SnapshotCache Schema) m (Except Failure Schema) :=
  SnapshotCache.getOrRefresh clock discovery.cacheKey force (discovery.snapshot catalog today)

/-- The cache is emptied, of the snapshots of other discoveries too. -/
def clearCache : StateT (SnapshotCache Schema) m Unit := modify SnapshotCache.clear

end Introspection

end Discovery

end PlainQuery

import PlainQuery.Database.Basic
import PlainQuery.Database.Order
import PlainQuery.Sql.Statement

/-!
# Rowsets

A `Rowset` is what a statement works on: the columns of its tables side by side and rows of cells.
Columns are found by name without regard to the case of the letters A–Z; a name that several columns
have is refused unless their table is named with it.
-/

namespace PlainQuery

/-- A column of a rowset. -/
structure ScopeColumn where
  table : String
  column : StoredColumn
deriving Repr, Inhabited

/-- Columns with rows of cells. -/
structure Rowset where
  columns : List ScopeColumn
  rows : List (List Cell)
deriving Repr, Inhabited

/-- The cell at a position of a row. -/
def cellAt (row : List Cell) (position : Nat) : Cell := (row[position]?).getD .null

namespace Rowset

/-- The rowset of a table. -/
def ofTable (table : StoredTable) : Rowset where
  columns := table.columns.map fun column => ⟨table.name, column⟩
  rows := table.rows

/-! ## Columns -/

/-- The column has the name, and its table the other one if that is given. -/
def isCalled (table : Option String) (name : String) (column : ScopeColumn) : Bool :=
  Text.equalIgnoringCase column.column.name name &&
    table.all fun table => Text.equalIgnoringCase column.table table

/-- The positions and types of the columns with a name. -/
def candidates (rowset : Rowset) (table : Option String) (name : String) :
    List (Nat × StoredColumn) :=
  rowset.columns.zipIdx.filterMap fun (column, position) =>
    if isCalled table name column then some (position, column.column) else none

/-- The one column with a name. -/
def resolve (rowset : Rowset) (table : Option String) (name : Sql.Identifier) :
    Except DatabaseFault (Nat × StoredColumn) :=
  match rowset.candidates table name.name with
  | [] => .error (.unknownColumn name.name)
  | [found] => .ok found
  | _ => .error (.ambiguousColumn name.name)

/-! ## Joins -/

/-- The values are there and equal. -/
def areEqual (left right : Cell) : Except DatabaseFault Bool :=
  (left.compare? right).map fun order => order == some .eq

/-- The row joined with each of the rows that it fits; with an empty one if it fits none. -/
def joinRow (left right : Nat) (width : Nat) (others : List (List Cell)) (row : List Cell) :
    Except DatabaseFault (List (List Cell)) := do
  let fitting ← others.filterM fun other => areEqual (cellAt row left) (cellAt other right)
  if fitting.isEmpty then pure [row ++ List.replicate width .null]
  else pure (fitting.map fun other => row ++ other)

/-- The rowset with a table joined to it. -/
def leftJoin (rowset : Rowset) (table : StoredTable) (join : Sql.Join) :
    Except DatabaseFault Rowset := do
  let other := ofTable table
  let (left, _) ← rowset.resolve (some join.source.name) join.sourceColumn
  let (right, _) ← other.resolve (some join.target.name) join.targetColumn
  let rows ← rowset.rows.mapM (joinRow left right other.columns.length other.rows)
  pure { columns := rowset.columns ++ other.columns, rows := rows.flatten }

/-! ## Conditions -/

/-- The cell that an argument of a statement is. -/
def argumentCell : Sql.Argument → Cell
  | .null => .null
  | .boolean value => .boolean value
  | .bigint value => .integer value
  | .ubigint value => .integer value
  | .double value => .double value
  | .text value => .text value

/-- The order of two values is one that the comparison asks for. -/
def Comparison.holds : Sql.Comparison → Ordering → Bool
  | .equal, order => order == .eq
  | .notEqual, order => order != .eq
  | .unequal, order => order != .eq
  | .greater, order => order == .gt
  | .less, order => order == .lt
  | .greaterOrEqual, order => order != .lt
  | .lessOrEqual, order => order != .gt

/-- A text fits a pattern: `%` stands for any text, `_` for any character. -/
def fitsPattern : List Char → List Char → Bool
  | [], text => text.isEmpty
  | '%' :: pattern, [] => fitsPattern pattern []
  | '%' :: pattern, c :: text =>
    fitsPattern pattern (c :: text) || fitsPattern ('%' :: pattern) text
  | _ :: _, [] => false
  | p :: pattern, c :: text => (p == '_' || p == c) && fitsPattern pattern text
termination_by pattern text => pattern.length + text.length

/-- The value fits a pattern; nothing fits none. -/
def cellFits (ignoresCase : Bool) (value pattern : Cell) : Bool :=
  match value.plainText?, pattern.plainText? with
  | some text, some pattern =>
    let fold (written : String) : List Char :=
      (if ignoresCase then Text.lower written else written).toList
    fitsPattern (fold pattern) (fold text)
  | _, _ => false

/-- A value for which a condition on its column holds. -/
def conditionHolds (condition : Sql.Condition Sql.Argument) (value : Cell) :
    Except DatabaseFault Bool :=
  match condition with
  | .nullTest _ negated => .ok ((value matches .null) != negated)
  | .membership _ negated members => do
    let orders ← members.mapM fun member => value.compare? (argumentCell member)
    if negated then pure (orders.all fun order => order.any (· != .eq))
    else pure (orders.any fun order => order == some .eq)
  | .like _ ignoresCase pattern => .ok (cellFits ignoresCase value (argumentCell pattern))
  | .between _ low high => do
    let low ← value.compare? (argumentCell low)
    let high ← value.compare? (argumentCell high)
    pure (low.any (· != .lt) && high.any (· != .gt))
  | .compare _ comparison other => do
    let order ← value.compare? (argumentCell other)
    pure (order.any (Comparison.holds comparison))

/-- The rows for which a condition holds. -/
def restrict (rowset : Rowset) (condition : Sql.Condition Sql.Argument) :
    Except DatabaseFault Rowset := do
  let (position, _) ← rowset.resolve none condition.column
  let rows ← rowset.rows.filterM fun row => conditionHolds condition (cellAt row position)
  pure { rowset with rows := rows }

end Rowset

end PlainQuery

import PlainQuery.Database.Rowset
import PlainQuery.Sql.Filling
import PlainQuery.Sql.Reader

/-!
# Running statements

`Database.evaluate` gives the rows of a statement: the rows of its tables for which its conditions
hold, in groups if the statement calculates or groups, each group reduced to a row, sorted and
limited. Without an order rows stay in the order in which they were inserted.
-/

namespace PlainQuery

/-- Rows that are reduced to one row of the result. -/
abbrev RowGroup := List (List Cell)

/-- A column of the result. -/
structure ResultColumn where
  name : String
  /-- What the column shows of a group. -/
  value : RowGroup → Cell

namespace Rowset

/-! ## Calculations -/

/-- The values that a group has in a column. -/
def presentValues (position : Nat) (group : RowGroup) : List Cell :=
  group.filterMap fun row =>
    match cellAt row position with
    | .null => none
    | cell => some cell

/-- The count of the smallest units of an exact number. -/
def exactUnits : Cell → Int
  | .boolean value => if value then 1 else 0
  | .integer value => value
  | .decimal units _ => units
  | _ => 0

/-- The value of an inexact number. -/
def inexactValue : Cell → Number.Double
  | .single value => value.convert
  | .double value => value
  | _ => .zero false

/-- How many places the numbers of a type have, if they are exact. -/
def exactScale? : ColumnType → Option Nat
  | .integer _ _ => some 0
  | .boolean => some 0
  | .decimal _ scale => some scale
  | _ => none

/-- The type has inexact numbers. -/
def isInexact : ColumnType → Bool
  | .single => true
  | .double => true
  | _ => false

/-- The sum of exact numbers. -/
def exactSum (values : List Cell) : Int := (values.map exactUnits).foldl (· + ·) 0

/-- The sum of inexact numbers, from the first on. -/
def inexactSum (values : List Cell) : Number.Double :=
  (values.map inexactValue).foldl Number.Floating.add (.zero false)

/-- The first of the values in an order, nothing if there are none. -/
def firstBy (descending : Bool) (values : List Cell) : Cell :=
  match values with
  | [] => .null
  | value :: others =>
    others.foldl (fun first other => if Cell.sortOrder descending other first == .lt then other
      else first) value

/-- What a calculation gives for the values of a group; only counting gives something for none. -/
def calculate (function : Sql.AggregateFunction) (type : ColumnType) :
    Except DatabaseFault (List Cell → Cell) :=
  let unlessEmpty (reduce : List Cell → Cell) (values : List Cell) : Cell :=
    if values.isEmpty then .null else reduce values
  let wrong := .error (.wrongOperand function.word type.name)
  match function with
  | .count => .ok fun values => .integer values.length
  | .countDistinct => .ok fun values => .integer (values.map Cell.plainText?).eraseDups.length
  | .min => .ok (firstBy false)
  | .max => .ok (firstBy true)
  | .sum =>
    match exactScale? type with
    | some scale => .ok (unlessEmpty fun values => .decimal (exactSum values) scale)
    | none =>
      if isInexact type then .ok (unlessEmpty fun values => .double (inexactSum values)) else wrong
  | .avg =>
    match exactScale? type with
    | some scale =>
      .ok (unlessEmpty fun values =>
        let sum := exactSum values
        .double (.ofRatio (sum < 0) sum.natAbs (Nat.pow 10 scale * values.length)))
    | none =>
      if isInexact type then
        .ok (unlessEmpty fun values => .double ((inexactSum values).div (.ofNat values.length)))
      else wrong

/-! ## Groups -/

/-- How the rows of a statement are grouped. -/
inductive Grouping where
  /-- Every row stays on its own. -/
  | single
  /-- The rows that agree in the columns at these positions form a group. -/
  | keys (positions : List Nat)

/-- The groups of rows in the order of their first rows; without positions all rows form one group.
-/
def Grouping.apply (rows : List (List Cell)) : Grouping → List RowGroup
  | single => rows.map fun row => [row]
  | keys [] => [rows]
  | keys positions =>
    let keyOf (row : List Cell) : List (Option String) :=
      positions.map fun position => (cellAt row position).plainText?
    (rows.map keyOf).eraseDups.map fun key => rows.filter fun row => keyOf row == key

/-- How a statement groups its rows. -/
def grouping (rowset : Rowset) {σ : Type} (statement : Sql.Statement σ) :
    Except DatabaseFault Grouping := do
  let positions ← statement.groupBy.mapM (rowset.resolve none ·)
  let calculates := statement.items.any fun item =>
    match item with
    | .aggregate _ _ => true
    | .column _ => false
  pure (if positions.isEmpty && !calculates then .single else .keys (positions.map Prod.fst))

/-! ## Columns of the result -/

/-- What a column at a position shows of a group: it must have one value there. -/
def groupValue (grouping : Grouping) (position : Nat) (column : StoredColumn) :
    Except DatabaseFault (RowGroup → Cell) :=
  let value (group : RowGroup) : Cell := (group.head?.map fun row => cellAt row position).getD .null
  match grouping with
  | .single => .ok value
  | .keys positions =>
    if positions.contains position then .ok value else .error (.ungroupedColumn column.name)

/-- The column of the result for an item. -/
def resultColumn (rowset : Rowset) (grouping : Grouping) :
    Sql.SelectItem → Except DatabaseFault ResultColumn
  | .column name => do
    let (position, column) ← rowset.resolve none name
    pure ⟨column.name, ← groupValue grouping position column⟩
  | .aggregate .countAll label => .ok ⟨label.name, fun group => .integer group.length⟩
  | .aggregate (.apply function name) label => do
    let (position, column) ← rowset.resolve none name
    let reduce ← calculate function column.type
    pure ⟨label.name, fun group => reduce (presentValues position group)⟩

/-- The columns of the result; no items stand for all columns. -/
def resultColumns (rowset : Rowset) (grouping : Grouping) (items : List Sql.SelectItem) :
    Except DatabaseFault (List ResultColumn) :=
  if items.isEmpty then
    rowset.columns.zipIdx.mapM fun (column, position) => do
      pure ⟨column.column.name, ← groupValue grouping position column.column⟩
  else items.mapM (rowset.resultColumn grouping)

/-! ## Order -/

/-- What the result is ordered by: a value of each group, and whether downwards. -/
abbrev SortKey := Bool × (RowGroup → Cell)

/-- The label of an item that calculates. -/
def label? : Sql.SelectItem → Option Sql.Identifier
  | .aggregate _ label => some label
  | .column _ => none

/-- What a column to order by stands for: a labelled column of the result, or a column of the
tables. -/
def sortKey (rowset : Rowset) (grouping : Grouping) (items : List Sql.SelectItem)
    (order : Sql.OrderItem) : Except DatabaseFault SortKey := do
  let descending := order.direction == .descending
  let labelled := items.find? fun item =>
    (label? item).any fun label => Text.equalIgnoringCase label.name order.column.name
  match labelled with
  | some item => pure (descending, (← rowset.resultColumn grouping item).value)
  | none =>
    let (position, column) ← rowset.resolve none order.column
    pure (descending, ← groupValue grouping position column)

/-- The left group is not behind the right one. -/
def notBehind (left right : RowGroup) : List SortKey → Bool
  | [] => true
  | (descending, value) :: keys =>
    match Cell.sortOrder descending (value left) (value right) with
    | .lt => true
    | .gt => false
    | .eq => notBehind left right keys

/-! ## Limit -/

/-- The first rows, as many as an argument says. -/
def limited {α : Type} (rows : List α) : Option Sql.Argument → Except DatabaseFault (List α)
  | none => .ok rows
  | some .null => .ok rows
  | some (.bigint count) => if count < 0 then .error .wrongLimit else .ok (rows.take count.toNat)
  | some (.ubigint count) => .ok (rows.take count.toNat)
  | some _ => .error .wrongLimit

end Rowset

namespace Database

open PlainQuery.Rowset

/-- The table of a statement. -/
def lookup (database : Database) (name : Sql.Identifier) : Except DatabaseFault StoredTable :=
  (database.table? mainSchema name.name).elim (.error (.unknownTable name.name)) .ok

/-- The tables of a statement side by side. -/
def source {σ : Type} (database : Database) (statement : Sql.Statement σ) :
    Except DatabaseFault Rowset := do
  let anchor ← database.lookup statement.anchor
  statement.joins.foldlM
    (fun rowset join => do rowset.leftJoin (← database.lookup join.target) join)
    (ofTable anchor)

/-- The rows of a statement. -/
def evaluate (database : Database) (statement : Sql.Statement Sql.Argument) :
    Except DatabaseFault Delivery := do
  let rowset ← database.source statement
  let grouping ← rowset.grouping statement
  let columns ← rowset.resultColumns grouping statement.items
  let keys ← statement.orderBy.mapM (rowset.sortKey grouping statement.items)
  -- the names of columns and orders have been resolved, whether or not a row is left
  let restricted ← statement.conditions.foldlM restrict rowset
  let sorted := (grouping.apply restricted.rows).mergeSort fun left right =>
    notBehind left right keys
  let rows ← limited (sorted.map fun group => columns.map fun column => column.value group)
    statement.limit
  pure { columnNames := columns.map ResultColumn.name, batches := [rows] }

/-- Runs the text of a statement with its arguments. -/
def run (database : Database) (sql : String) (arguments : List Sql.Argument) :
    Except DatabaseFault Delivery :=
  match (Sql.Statement.read? Sql.takeMark sql.toList).bind (Sql.Statement.fill? arguments) with
  | none => .error .unreadable
  | some statement => database.evaluate statement

end Database

end PlainQuery

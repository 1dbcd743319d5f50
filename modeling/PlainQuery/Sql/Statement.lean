import PlainQuery.Sql.Identifier
import PlainQuery.Sql.Keyword

/-!
# Statements

A `Statement σ` is a query over quoted identifiers in which every value is a *slot* of type `σ`: a
placeholder while the query is planned, a value when it is run.  The text of a statement is given by
`Statement.write`, which leaves the writing of slots to its caller; so the text holds no value.
`Statement.slots` lists the slots in the order in which they are written.
-/

namespace PlainQuery.Sql

/-- A call of a calculation. -/
inductive AggregateCall where
  /-- The number of all rows. -/
  | countAll
  | apply (function : AggregateFunction) (column : Identifier)
deriving DecidableEq

/-- The text of a call. -/
def AggregateCall.write : AggregateCall → List Char
  | countAll => "COUNT(*)".toList
  | apply .countDistinct column => "COUNT(DISTINCT ".toList ++ column.quoted ++ [')']
  | apply function column => function.word.toList ++ '(' :: (column.quoted ++ [')'])

/-- A column of the result. -/
inductive SelectItem where
  | column (name : Identifier)
  | aggregate (call : AggregateCall) (label : Identifier)
deriving DecidableEq

/-- The text of a column of the result. -/
def SelectItem.write : SelectItem → List Char
  | column name => name.quoted
  | aggregate call label => call.write ++ " AS ".toList ++ label.quoted

/-- A table joined to an earlier one on one column of each. -/
structure Join where
  target : Identifier
  source : Identifier
  sourceColumn : Identifier
  targetColumn : Identifier
deriving DecidableEq

/-- The text of a join. -/
def Join.write (join : Join) : List Char :=
  "LEFT JOIN ".toList ++ join.target.quoted ++ " ON ".toList ++
    join.source.quoted ++ '.' :: (join.sourceColumn.quoted ++ " = ".toList ++
      join.target.quoted ++ '.' :: join.targetColumn.quoted)

/-- A condition on a column. -/
inductive Condition (σ : Type) where
  | nullTest (column : Identifier) (negated : Bool)
  | membership (column : Identifier) (negated : Bool) (members : List σ)
  | like (column : Identifier) (ignoresCase : Bool) (pattern : σ)
  | between (column : Identifier) (low high : σ)
  | compare (column : Identifier) (comparison : Comparison) (value : σ)
deriving DecidableEq

namespace Condition

variable {σ τ : Type}

/-- The slots of a condition in the order of its text. -/
def slots : Condition σ → List σ
  | nullTest _ _ => []
  | membership _ _ members => members
  | like _ _ pattern => [pattern]
  | between _ low high => [low, high]
  | compare _ _ value => [value]

/-- The condition with other slots. -/
def map (change : σ → τ) : Condition σ → Condition τ
  | nullTest column negated => .nullTest column negated
  | membership column negated members => .membership column negated (members.map change)
  | like column ignoresCase pattern => .like column ignoresCase (change pattern)
  | between column low high => .between column (change low) (change high)
  | compare column comparison value => .compare column comparison (change value)

/-- The column that the condition is about. -/
def column : Condition σ → Identifier
  | nullTest column _ => column
  | membership column _ _ => column
  | like column _ _ => column
  | between column _ _ => column
  | compare column _ _ => column

/-- The operator of the condition. -/
def operator : Condition σ → Operator
  | nullTest _ negated => .nullTest negated
  | membership _ negated _ => .membership negated
  | like _ ignoresCase _ => .like ignoresCase
  | between _ _ _ => .between
  | compare _ comparison _ => .compare comparison

/-- The text after the operator. -/
def writeOperands (writeSlot : σ → List Char) : Condition σ → List Char
  | nullTest _ _ => []
  | membership _ _ members =>
    " (".toList ++ ", ".toList.intercalate (members.map writeSlot) ++ [')']
  | like _ _ pattern => ' ' :: writeSlot pattern
  | between _ low high => ' ' :: (writeSlot low ++ " AND ".toList ++ writeSlot high)
  | compare _ _ value => ' ' :: writeSlot value

/-- The text of a condition. -/
def write (writeSlot : σ → List Char) (condition : Condition σ) : List Char :=
  condition.column.quoted ++ ' ' :: (condition.operator.word.toList ++
    condition.writeOperands writeSlot)

end Condition

/-- A column to order by. -/
structure OrderItem where
  column : Identifier
  direction : Direction
deriving DecidableEq

/-- The text of a column to order by. -/
def OrderItem.write (item : OrderItem) : List Char :=
  item.column.quoted ++ ' ' :: item.direction.word.toList

/-- A query. -/
structure Statement (σ : Type) where
  /-- The columns of the result; none of them stands for all columns. -/
  items : List SelectItem
  anchor : Identifier
  joins : List Join
  conditions : List (Condition σ)
  groupBy : List Identifier
  orderBy : List OrderItem
  limit : Option σ
deriving DecidableEq

namespace Statement

variable {σ τ : Type}

/-- The slots of a statement in the order of its text. -/
def slots (statement : Statement σ) : List σ :=
  statement.conditions.flatMap Condition.slots ++ statement.limit.toList

/-- The statement with other slots. -/
def map (change : σ → τ) (statement : Statement σ) : Statement τ where
  items := statement.items
  anchor := statement.anchor
  joins := statement.joins
  conditions := statement.conditions.map (Condition.map change)
  groupBy := statement.groupBy
  orderBy := statement.orderBy
  limit := statement.limit.map change

/-- A clause that is left out when it has no parts. -/
def writeClause (word separator : String) (parts : List (List Char)) : List (List Char) :=
  if parts.isEmpty then [] else [word.toList ++ ' ' :: separator.toList.intercalate parts]

/-- The clauses of a statement, a line each. -/
def writeLines (writeSlot : σ → List Char) (statement : Statement σ) : List (List Char) :=
  let selected :=
    if statement.items.isEmpty then ['*']
    else ", ".toList.intercalate (statement.items.map SelectItem.write)
  let tables := [' '].intercalate (statement.anchor.quoted :: statement.joins.map Join.write)
  ["SELECT ".toList ++ selected, "FROM ".toList ++ tables] ++
    writeClause "WHERE" " AND " (statement.conditions.map (Condition.write writeSlot)) ++
    writeClause "GROUP BY" ", " (statement.groupBy.map Identifier.quoted) ++
    writeClause "ORDER BY" ", " (statement.orderBy.map OrderItem.write) ++
    (match statement.limit with
      | some slot => ["LIMIT ".toList ++ writeSlot slot]
      | none => [])

/-- The text of a statement. -/
def write (writeSlot : σ → List Char) (statement : Statement σ) : List Char :=
  ['\n'].intercalate (statement.writeLines writeSlot)

end Statement

end PlainQuery.Sql

import PlainQuery.Sql.Statement

/-!
# Reading statements

`Statement.read?` reads the text of a statement back, and nothing else: clauses in their order, a
line each, names between quotes and the words and signs of `PlainQuery.Sql.Keyword`.  How a slot is
read is left to the caller, just as `Statement.write` leaves the writing of slots.  Every reader
here takes what it reads off the front of a text and gives the rest.
-/

namespace PlainQuery.Sql

/-- Takes something off the front of a text and gives the rest. -/
abbrev Taker (α : Type) := List Char → Option (α × List Char)

/-! ## Marks and lists -/

/-- The text behind the mark in front of it. -/
def afterMark? (mark text : List Char) : Option (List Char) :=
  if mark.isPrefixOf text then some (text.drop mark.length) else none

/-- Takes as many items as follow, each behind a mark, at most `rounds` of them. -/
def takeMarked {α : Type} (mark : List Char) (item : Taker α) : Nat → Taker (List α)
  | 0, text => some ([], text)
  | rounds + 1, text =>
    match afterMark? mark text with
    | none => some ([], text)
    | some text => do
      let (first, text) ← item text
      let (others, text) ← takeMarked mark item rounds text
      some (first :: others, text)

/-- Takes one item and all that follow it behind a separator. -/
def takeSeparated {α : Type} (separator : List Char) (item : Taker α) : Taker (List α) :=
  fun text => do
    let (first, text) ← item text
    let (others, text) ← takeMarked separator item text.length text
    some (first :: others, text)

/-- Takes the items of a clause, none if the clause is left out. -/
def takeClause {α : Type} (mark separator : List Char) (item : Taker α) : Taker (List α) :=
  fun text =>
    match afterMark? mark text with
    | none => some ([], text)
    | some text => takeSeparated separator item text

/-- What the first of the marks in front of a text stands for, and the text behind it. -/
def takeWord {α : Type} (marks : List (List Char × α)) : Taker α :=
  fun text => marks.findSome? fun (mark, value) =>
    (afterMark? mark text).map fun rest => (value, rest)

/-! ## Names and columns -/

/-- Takes a name between quotes. -/
def Identifier.take : Taker Identifier
  | '"' :: text =>
    let name := text.takeWhile isWordChar
    (afterMark? ['"'] (text.drop name.length)).map fun rest => (ofName (String.ofList name), rest)
  | _ => none

/-- What calls the calculations of a column. -/
def callMarks : List (List Char × AggregateFunction) :=
  -- the first mark that fits is taken, so the longer of two calls of `COUNT` comes first
  [("COUNT(DISTINCT ".toList, .countDistinct), ("COUNT(".toList, .count), ("SUM(".toList, .sum),
   ("AVG(".toList, .avg), ("MAX(".toList, .max), ("MIN(".toList, .min)]

/-- Takes a call of a calculation. -/
def AggregateCall.take : Taker AggregateCall := fun text =>
  match afterMark? "COUNT(*)".toList text with
  | some rest => some (.countAll, rest)
  | none => do
    let (function, text) ← takeWord callMarks text
    let (column, text) ← Identifier.take text
    let text ← afterMark? [')'] text
    some (.apply function column, text)

/-- Takes a column of the result. -/
def SelectItem.take : Taker SelectItem := fun text =>
  match Identifier.take text with
  | some (name, rest) => some (.column name, rest)
  | none => do
    let (call, text) ← AggregateCall.take text
    let text ← afterMark? " AS ".toList text
    let (label, text) ← Identifier.take text
    some (.aggregate call label, text)

/-- Takes the columns of the result; a star stands for all. -/
def takeItems : Taker (List SelectItem)
  | '*' :: rest => some ([], rest)
  | text => takeSeparated ", ".toList SelectItem.take text

/-- Takes a column with its table. -/
def takeQualified : Taker (Identifier × Identifier) := fun text => do
  let (table, text) ← Identifier.take text
  let text ← afterMark? ['.'] text
  let (column, text) ← Identifier.take text
  some ((table, column), text)

/-- Takes a join behind its first words. -/
def Join.take : Taker Join := fun text => do
  let (target, text) ← Identifier.take text
  let text ← afterMark? " ON ".toList text
  let ((source, sourceColumn), text) ← takeQualified text
  let text ← afterMark? " = ".toList text
  let ((again, targetColumn), text) ← takeQualified text
  -- the right side of the condition is about the table that is joined
  if again = target then some ({ target, source, sourceColumn, targetColumn }, text) else none

/-! ## Conditions -/

/-- What stands between a column and the values it is compared with. -/
def operatorMarks : List (List Char × Operator) :=
  [(" IS NULL".toList, .nullTest false), (" IS NOT NULL".toList, .nullTest true),
   (" IN (".toList, .membership false), (" NOT IN (".toList, .membership true),
   (" LIKE ".toList, .like false), (" ILIKE ".toList, .like true), (" BETWEEN ".toList, .between),
   (" = ".toList, .compare .equal), (" != ".toList, .compare .notEqual),
   (" <> ".toList, .compare .unequal), (" > ".toList, .compare .greater),
   (" < ".toList, .compare .less), (" >= ".toList, .compare .greaterOrEqual),
   (" <= ".toList, .compare .lessOrEqual)]

section Slots

variable {σ : Type}

/-- Takes the values in the parentheses of a membership. -/
def takeMembers (slot : Taker σ) : Taker (List σ)
  | ')' :: rest => some ([], rest)
  | text => do
    let (members, text) ← takeSeparated ", ".toList slot text
    let text ← afterMark? [')'] text
    some (members, text)

/-- Takes what follows the operator of a condition on a column. -/
def takeOperands (slot : Taker σ) (column : Identifier) : Operator → Taker (Condition σ)
  | .nullTest negated => fun text => some (.nullTest column negated, text)
  | .membership negated => fun text => do
    let (members, text) ← takeMembers slot text
    some (.membership column negated members, text)
  | .like ignoresCase => fun text => do
    let (pattern, text) ← slot text
    some (.like column ignoresCase pattern, text)
  | .between => fun text => do
    let (low, text) ← slot text
    let text ← afterMark? " AND ".toList text
    let (high, text) ← slot text
    some (.between column low high, text)
  | .compare comparison => fun text => do
    let (value, text) ← slot text
    some (.compare column comparison value, text)

/-- Takes a condition. -/
def Condition.take (slot : Taker σ) : Taker (Condition σ) := fun text => do
  let (column, text) ← Identifier.take text
  let (operator, text) ← takeWord operatorMarks text
  takeOperands slot column operator text

/-! ## Statements -/

/-- Takes a column to order by. -/
def OrderItem.take : Taker OrderItem := fun text => do
  let (column, text) ← Identifier.take text
  let (direction, text) ←
    takeWord [(" ASC".toList, .ascending), (" DESC".toList, .descending)] text
  some ({ column, direction }, text)

/-- Takes the limit, if there is one. -/
def takeLimit (slot : Taker σ) : Taker (Option σ) := fun text =>
  match afterMark? "\nLIMIT ".toList text with
  | none => some (none, text)
  | some text => (slot text).map fun (limit, rest) => (some limit, rest)

/-- Takes a statement. -/
def Statement.take (slot : Taker σ) : Taker (Statement σ) := fun text => do
  let text ← afterMark? "SELECT ".toList text
  let (items, text) ← takeItems text
  let text ← afterMark? "\nFROM ".toList text
  let (anchor, text) ← Identifier.take text
  let (joins, text) ← takeMarked " LEFT JOIN ".toList Join.take text.length text
  let (conditions, text) ←
    takeClause "\nWHERE ".toList " AND ".toList (Condition.take slot) text
  let (groupBy, text) ← takeClause "\nGROUP BY ".toList ", ".toList Identifier.take text
  let (orderBy, text) ← takeClause "\nORDER BY ".toList ", ".toList OrderItem.take text
  let (limit, text) ← takeLimit slot text
  some ({ items, anchor, joins, conditions, groupBy, orderBy, limit }, text)

/-- Reads a statement that takes the whole text. -/
def Statement.read? (slot : Taker σ) (text : List Char) : Option (Statement σ) :=
  match Statement.take slot text with
  | some (statement, []) => some statement
  | _ => none

end Slots

/-- Takes a question mark, which stands for the next argument. -/
def takeMark : Taker Unit := fun text => (afterMark? ['?'] text).map fun rest => ((), rest)

end PlainQuery.Sql

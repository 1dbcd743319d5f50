import PlainQuery.Catalog.Basic
import PlainQuery.Sql.Identifier
import PlainQuery.Text.CaseMap
import PlainQuery.Text.Quoted

/-!
# Key constraints

A database tells its keys as texts, such as `PRIMARY KEY(id)` or
`FOREIGN KEY (owner) REFERENCES main.people(id)`.  A `KeyIndex` holds what such texts say, and
`KeyIndex.apply` marks the columns of a catalog with it.  Names are compared in lower case.
-/

namespace PlainQuery

namespace KeyText

/-! ## Names -/

/-- A name without the quotes around it; blanks at its ends do not count. -/
def unquote (name : List Char) : List Char :=
  let trimmed := Text.strip name
  (Text.unquoted? '"' trimmed).getD trimmed

/-- The names between commas; empty ones are left out. -/
def splitNames (list : List Char) : List String :=
  (((Text.pieces (· == ',') list).map unquote).filter fun name => !name.isEmpty).map String.ofList

/-- The name after the last point. -/
def lastSegment (qualified : List Char) : String :=
  String.ofList (unquote ((Text.pieces (· == '.') qualified).getLastD []))

/-! ## Patterns -/

/-- The lower case of a letter of a keyword; two letters outside ASCII count as `k` and `s`. -/
def foldLetter (c : Char) : Char :=
  if c == '\u212a' then 'k' else if c == 'ſ' then 's' else c.toLower

/-- The text after a keyword, which is given in lower case. -/
def dropWord? : List Char → List Char → Option (List Char)
  | [], text => some text
  | _ :: _, [] => none
  | letter :: word, c :: text => if foldLetter c == letter then dropWord? word text else none

/-- The text after blanks, of which there must be one. -/
def dropBlanks? (text : List Char) : Option (List Char) :=
  if (text.takeWhile Text.isBlank).isEmpty then none else some (Text.stripStart text)

/-- The text after two keywords with blanks between them, blanks and an opening parenthesis. -/
def dropKeyHead? (first second : String) (text : List Char) : Option (List Char) := do
  let text ← dropWord? first.toList text
  let text ← dropBlanks? text
  let text ← dropWord? second.toList text
  match Text.stripStart text with
  | '(' :: rest => some rest
  | _ => none

/-- The text before its closing parenthesis, after which only blanks may follow. -/
def beforeClosing? (text : List Char) : Option (List Char) :=
  Text.dropEnding? [')'] (Text.stripEnd text)

/-- The columns of a primary key. -/
def primaryKey? (text : List Char) : Option (List String) := do
  let text ← dropKeyHead? "primary" "key" (Text.stripStart text)
  pure (splitNames (← beforeClosing? text))

/-- The shortest beginning, at least one character, before blanks and an opening parenthesis, and
the text after the parenthesis. -/
def untilOpening? : List Char → Option (List Char × List Char)
  | [] => none
  | c :: rest =>
    match Text.stripStart rest with
    | '(' :: after => some ([c], after)
    | _ => (untilOpening? rest).map fun (taken, after) => (c :: taken, after)

/-- The table and the columns that `REFERENCES` names.  As many of the blanks after the word belong
to it as possible. -/
def reference? (text : List Char) : Option (List Char × List Char) := do
  let text ← dropWord? "references".toList (Text.stripStart text)
  let blanks := (text.takeWhile Text.isBlank).length
  -- the keyword gives blanks back one by one until the table matches
  (List.range blanks).findSome? fun fewer => untilOpening? (text.drop (blanks - fewer))

/-- The shortest list before a closing parenthesis after which a reference follows. -/
def listBeforeReference? : List Char → Option (List Char × List Char × List Char)
  | [] => none
  | c :: rest =>
    match if c == ')' then reference? rest else none with
    | some (table, columns) => some ([], table, columns)
    | none =>
      (listBeforeReference? rest).map fun (list, table, columns) => (c :: list, table, columns)

/-- What a foreign key says: the columns, the table referred to and its columns. -/
structure ForeignKey where
  columns : List String
  table : String
  targets : List String
deriving DecidableEq, Repr

/-- The foreign key that begins in front of the text or later, the text being without its closing
parenthesis. -/
def foreignKeyFrom? : List Char → Option ForeignKey
  | [] => none
  | c :: rest =>
    match (dropKeyHead? "foreign" "key" (c :: rest)).bind listBeforeReference? with
    | some (list, table, targets) =>
      some ⟨splitNames list, lastSegment table, splitNames targets⟩
    | none => foreignKeyFrom? rest

/-- The foreign key that a text tells. -/
def foreignKey? (text : List Char) : Option ForeignKey :=
  (beforeClosing? text).bind foreignKeyFrom?

end KeyText

/-- A constraint as a database tells it. -/
structure KeyConstraint where
  table : String
  kind : String
  text : String
deriving DecidableEq, Repr

/-- A column by the lower-case names of its table and itself. -/
abbrev ColumnKey := String × String

/-- The key of a column. -/
def columnKey (table column : String) : ColumnKey := (Text.lower table, Text.lower column)

/-- What the constraints of a database say about its columns. -/
structure KeyIndex where
  /-- The columns of primary keys. -/
  primary : List ColumnKey
  /-- The columns of foreign keys with the table and column that each refers to; the first entry of
  a column counts. -/
  foreign : List (ColumnKey × (String × String))
deriving DecidableEq, Repr

namespace KeyIndex

/-- The constraint is a primary key by its kind. -/
def isPrimary (constraint : KeyConstraint) : Bool :=
  Text.equalIgnoringCase constraint.kind "PRIMARY KEY"

/-- The columns that a constraint makes part of a primary key. -/
def primaryColumns (constraint : KeyConstraint) : List ColumnKey :=
  if isPrimary constraint then
    ((KeyText.primaryKey? constraint.text.toList).getD []).map (columnKey constraint.table)
  else []

/-- The columns that a constraint makes foreign keys, with what they refer to. -/
def foreignColumns (constraint : KeyConstraint) : List (ColumnKey × (String × String)) :=
  if isPrimary constraint then []
  else
    match KeyText.foreignKey? constraint.text.toList with
    | none => []
    | some key =>
      -- columns and targets beyond the shorter of the two lists say nothing
      (key.columns.zip key.targets).map fun (column, target) =>
        (columnKey constraint.table column, (key.table, target))

/-- The index of a list of constraints. -/
def ofConstraints (constraints : List KeyConstraint) : KeyIndex where
  primary := constraints.flatMap primaryColumns
  foreign := constraints.flatMap foreignColumns

/-- Marks a column with its keys. -/
def mark (index : KeyIndex) (column : CatalogColumn) : CatalogColumn :=
  let key := columnKey column.table column.column
  let marked := { column with primaryKey := index.primary.contains key }
  match index.foreign.lookup key with
  | none => marked
  | some (table, target) => { marked with foreignTable := some table, foreignColumn := some target }

/-- Marks all columns with their keys. -/
def apply (index : KeyIndex) (columns : List CatalogColumn) : List CatalogColumn :=
  columns.map index.mark

end KeyIndex

end PlainQuery

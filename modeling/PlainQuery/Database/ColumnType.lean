import PlainQuery.Number.Decimal
import PlainQuery.Text.Bracketed
import PlainQuery.Text.CaseMap
import PlainQuery.Text.Quoted

/-!
# Types of columns

A `ColumnType` is what a column of a table holds.  `ColumnType.ofText` reads the name of a type, in
any case and with its other spellings, and `ColumnType.name` writes it the way the catalog lists it.
-/

namespace PlainQuery

/-- What a column of a table holds. -/
inductive ColumnType where
  /-- Integers of a number of bits, with or without sign. -/
  | integer (signed : Bool) (bits : Nat)
  /-- Decimal numbers of a number of digits, `scale` of them behind the point. -/
  | decimal (width scale : Nat)
  | single
  | double
  | boolean
  | text
  | uuid
  /-- One of a few texts. -/
  | choice (values : List String)
  | date
  | timestamp
  /-- A point in time with its zone. -/
  | zonedTimestamp
  | clock
  | bytes
  | list (item : ColumnType)
  | record (fields : List (String × ColumnType))
  /-- A type without a reading of its own; its values stay texts. -/
  | other (name : String)
deriving Repr, Inhabited

namespace ColumnType

/-! ## Names -/

/-- The name of a type of integers. -/
def integerName (signed : Bool) (bits : Nat) : String :=
  let size :=
    if bits ≤ 8 then "TINYINT"
    else if bits ≤ 16 then "SMALLINT"
    else if bits ≤ 32 then "INTEGER"
    else if bits ≤ 64 then "BIGINT"
    else "HUGEINT"
  if signed then size else "U" ++ size

/-- The name of a field of a record, between quotes unless it is a plain word. -/
def fieldName (name : String) : String :=
  let isPlain := name.toList.all fun c => c.isAlphanum || c == '_'
  if isPlain && !name.isEmpty then name else String.ofList (Text.quoted '"' name.toList)

/-- One of the values of a type, between quotes. -/
def choiceName (value : String) : String := String.ofList (Text.quoted '\'' value.toList)

mutual

/-- The name of a type in the catalog. -/
def name : ColumnType → String
  | integer signed bits => integerName signed bits
  | decimal width scale => "DECIMAL(" ++ toString width ++ "," ++ toString scale ++ ")"
  | single => "FLOAT"
  | double => "DOUBLE"
  | boolean => "BOOLEAN"
  | text => "VARCHAR"
  | uuid => "UUID"
  | choice values => "ENUM(" ++ Text.joined ", " (values.map choiceName) ++ ")"
  | date => "DATE"
  | timestamp => "TIMESTAMP"
  | zonedTimestamp => "TIMESTAMP WITH TIME ZONE"
  | clock => "TIME"
  | bytes => "BLOB"
  | list item => item.name ++ "[]"
  | record fields => "STRUCT(" ++ Text.joined ", " (fieldsWithTypes fields) ++ ")"
  | other name => name

/-- A field of a record with its type. -/
def fieldWithType : String × ColumnType → String
  | (field, type) => fieldName field ++ " " ++ type.name

/-- The fields of a record with their types. -/
def fieldsWithTypes : List (String × ColumnType) → List String
  | [] => []
  | field :: fields => fieldWithType field :: fieldsWithTypes fields

end

/-! ## Reading -/

/-- The types whose names are plain words. -/
def ofWord? (word : String) : Option ColumnType :=
  match word with
  | "TINYINT" => some (integer true 8)
  | "INT1" => some (integer true 8)
  | "SMALLINT" => some (integer true 16)
  | "INT2" => some (integer true 16)
  | "SHORT" => some (integer true 16)
  | "INTEGER" => some (integer true 32)
  | "INT" => some (integer true 32)
  | "INT4" => some (integer true 32)
  | "SIGNED" => some (integer true 32)
  | "BIGINT" => some (integer true 64)
  | "INT8" => some (integer true 64)
  | "LONG" => some (integer true 64)
  | "HUGEINT" => some (integer true 128)
  | "INT128" => some (integer true 128)
  | "UTINYINT" => some (integer false 8)
  | "USMALLINT" => some (integer false 16)
  | "UINTEGER" => some (integer false 32)
  | "UBIGINT" => some (integer false 64)
  | "UHUGEINT" => some (integer false 128)
  | "DECIMAL" => some (decimal 18 3)
  | "NUMERIC" => some (decimal 18 3)
  | "DEC" => some (decimal 18 3)
  | "FLOAT" => some single
  | "FLOAT4" => some single
  | "REAL" => some single
  | "DOUBLE" => some double
  | "FLOAT8" => some double
  | "BOOLEAN" => some boolean
  | "BOOL" => some boolean
  | "LOGICAL" => some boolean
  | "VARCHAR" => some text
  | "CHAR" => some text
  | "BPCHAR" => some text
  | "NVARCHAR" => some text
  | "TEXT" => some text
  | "STRING" => some text
  | "UUID" => some uuid
  | "GUID" => some uuid
  | "DATE" => some date
  | "TIMESTAMP" => some timestamp
  | "DATETIME" => some timestamp
  | "TIMESTAMPTZ" => some zonedTimestamp
  | "TIMESTAMP WITH TIME ZONE" => some zonedTimestamp
  | "TIME" => some clock
  | "BLOB" => some bytes
  | "BYTEA" => some bytes
  | "BINARY" => some bytes
  | "VARBINARY" => some bytes
  | _ => none

/-- The decimal type with the written width and scale. -/
def ofDecimalArguments? (arguments : List (List Char)) : Option ColumnType :=
  match arguments with
  | [width] => (Number.ofDigits? width).map fun width => decimal width 0
  | [width, scale] => do
    pure (decimal (← Number.ofDigits? width) (← Number.ofDigits? scale))
  | _ => none

/-- The type that a name with arguments in parentheses has; `inner` reads the types of fields. -/
def ofCall? (inner : List Char → ColumnType) (word : String) (arguments : List (List Char)) :
    Option ColumnType :=
  match word with
  | "DECIMAL" => ofDecimalArguments? arguments
  | "NUMERIC" => ofDecimalArguments? arguments
  | "VARCHAR" => some text
  | "CHAR" => some text
  | "ENUM" =>
    some (choice (arguments.map fun value =>
      String.ofList ((Text.unquoted? '\'' value).getD value)))
  | "STRUCT" =>
    some (record (arguments.map fun argument =>
      let (field, type) := Text.outerCut ' ' argument
      (String.ofList ((Text.unquoted? '"' field).getD field), inner type)))
  | _ => none

/-- The type with a name, which is nested at most `depth` times. -/
def ofChars (depth : Nat) (name : List Char) : ColumnType :=
  match depth with
  | 0 => other (String.ofList name)
  | depth + 1 =>
    let name := Text.strip name
    if "[]".toList.isSuffixOf name then list (ofChars depth (name.take (name.length - 2)))
    else
      let start := name.takeWhile (· != '(')
      let word := Text.upper (String.ofList (Text.strip start))
      let found := match Text.between? '(' ')' (name.drop start.length) with
        | some inside => ofCall? (ofChars depth) word (Text.outerPieces ',' inside)
        | none => ofWord? word
      found.getD (other (String.ofList name))

/-- The type with a name. -/
def ofText (name : String) : ColumnType := ofChars (name.length + 1) name.toList

end ColumnType

end PlainQuery

import PlainQuery.Database.ColumnType
import PlainQuery.Result.Cell

/-!
# Texts as values of a type

`ColumnType.read?` reads a text as a value of a type, `Cell.plainText?` writes a value as the
database does when it is asked for text.  Numbers may be written with point and exponent wherever a
number is needed; one with more places than the type has is rounded, halves away from zero.
-/

namespace PlainQuery

namespace ColumnType

/-! ## Numbers and words -/

/-- The sign of a numeral, and the numeral without it. -/
def splitSign : List Char → Bool × List Char
  | '-' :: rest => (true, rest)
  | '+' :: rest => (false, rest)
  | rest => (false, rest)

/-- The largest power of ten that a numeral with a place in any type has. -/
def maxExponent : Int := 400

/-- Reads a numeral as a count of units of the last of `scale` places. -/
def readUnits? (scale : Nat) (text : List Char) : Option Int := do
  let (negative, text) := splitSign text
  let (significand, exponent) ← Number.decimalParts? text
  let shift := exponent + scale
  if maxExponent < shift || shift < -maxExponent then none
  else
    let denominator := Nat.pow 10 (-shift).toNat
    -- rounded as a magnitude, so that halves go away from zero on both sides
    let units := (2 * significand * Nat.pow 10 shift.toNat + denominator) / (2 * denominator)
    some (if negative then -(units : Int) else units)

/-- The integer is one of the type with this number of bits. -/
def inRange (signed : Bool) (bits : Nat) (value : Int) : Bool :=
  if signed then -(Nat.pow 2 (bits - 1) : Int) ≤ value && value < Nat.pow 2 (bits - 1)
  else 0 ≤ value && value < Nat.pow 2 bits

/-- Reads a truth value. -/
def readFlag? (text : List Char) : Option Bool :=
  match Text.lower (String.ofList text) with
  | "true" => some true
  | "t" => some true
  | "1" => some true
  | "yes" => some true
  | "y" => some true
  | "false" => some false
  | "f" => some false
  | "0" => some false
  | "no" => some false
  | "n" => some false
  | _ => none

/-- The value of a hexadecimal digit. -/
def hexDigit? (c : Char) : Option Nat :=
  if c.isDigit then some (c.toNat - '0'.toNat)
  else if 'a' ≤ c && c ≤ 'f' then some (c.toNat - 'a'.toNat + 10)
  else if 'A' ≤ c && c ≤ 'F' then some (c.toNat - 'A'.toNat + 10)
  else none

/-- Reads bytes: a character stands for those of its encoding, `\xAA` for a byte by its digits. -/
def readBytes? : List Char → Option (List Nat)
  | [] => some []
  | '\\' :: 'x' :: high :: low :: rest => do
    let high ← hexDigit? high
    let low ← hexDigit? low
    pure ((16 * high + low) :: (← readBytes? rest))
  | '\\' :: _ => none
  | c :: rest => do
    pure ((String.singleton c).toUTF8.toList.map UInt8.toNat ++ (← readBytes? rest))

/-- The character belongs to a written identifier but is no digit of it. -/
def isUuidMark (c : Char) : Bool := c == '-' || Text.opensBracket c || Text.closesBracket c

/-- Reads an identifier of 32 hexadecimal digits and writes it in groups. -/
def readUuid? (text : List Char) : Option String :=
  let digits := (text.filter fun c => !isUuidMark c).map Char.toLower
  let group (start size : Nat) : List Char := (digits.drop start).take size
  if digits.length == 32 && digits.all fun c => (hexDigit? c).isSome then
    some (String.ofList
      (['-'].intercalate [group 0 8, group 8 4, group 12 4, group 16 4, group 20 12]))
  else none

/-! ## Dates and times -/

/-- Reads a date, in days. -/
def readDate? (text : List Char) : Option Int :=
  match Calendar.Instant.scanDate? text with
  | some (day, []) => some day.toDays
  | _ => none

/-- Reads a time of the day, in microseconds. -/
def readClock? (text : List Char) : Option Nat :=
  match Calendar.Instant.scanClock? text with
  | some ((second, nanoseconds), []) => some (second * 1000000 + nanoseconds / 1000)
  | _ => none

/-- Reads a date with or without a time of the day, in microseconds. -/
def readTimestamp? (text : List Char) : Option Int := do
  let (day, rest) ← Calendar.Instant.scanDate? text
  let start := day.toDays * 86400000000
  match rest with
  | [] => some start
  | c :: rest =>
    if c == ' ' || c == 'T' then (readClock? rest).map fun clock => start + clock else none

/-! ## Values -/

mutual

/-- Values of the type have a text; those that hold a point in time with its zone have none. -/
def isShowable : ColumnType → Bool
  | zonedTimestamp => false
  | list item => item.isShowable
  | record fields => areShowable fields
  | _ => true

/-- Values of the field have a text. -/
def fieldIsShowable : String × ColumnType → Bool
  | (_, type) => type.isShowable

/-- Values of all fields have a text. -/
def areShowable : List (String × ColumnType) → Bool
  | [] => true
  | field :: fields => fieldIsShowable field && areShowable fields

end

/-- A part of a written list or record without the quotes around it. -/
def bareText (text : List Char) : List Char :=
  ((Text.unquoted? '\'' text).or (Text.unquoted? '"' text)).getD text

/-- Reads a part of a list or record, the word `NULL` standing for nothing. -/
def readPart? (read : List Char → Option Cell) (text : List Char) : Option Cell :=
  if text == "NULL".toList then some .null else read (bareText text)

/-- The written value of a field, among the fields with their names. -/
def writtenField? (name : String) (entries : List (List Char × List Char)) : Option (List Char) :=
  (entries.find? fun (key, _) =>
    Text.equalIgnoringCase (String.ofList (bareText key)) name).map Prod.snd

mutual

/-- Reads a value of the type. -/
def read? : ColumnType → List Char → Option Cell
  | integer signed bits, written => do
    let value ← readUnits? 0 (Text.strip written)
    if !inRange signed bits value then none
    else if bits ≤ 64 then some (.integer value)
    else some (.decimal value 0)
  | decimal width scale, written => do
    let units ← readUnits? scale (Text.strip written)
    if units.natAbs < Nat.pow 10 width then some (.decimal units scale) else none
  | single, written => (Number.Floating.ofText? (Text.trim (String.ofList written))).map .single
  | double, written => (Number.Floating.ofText? (Text.trim (String.ofList written))).map .double
  | boolean, written => (readFlag? (Text.strip written)).map .boolean
  | text, written => some (.text (String.ofList written))
  | uuid, written => (readUuid? (Text.strip written)).map .text
  | choice values, written =>
    if values.contains (String.ofList written) then some (.text (String.ofList written)) else none
  | date, written => (readDate? (Text.strip written)).map .date
  | timestamp, written => (readTimestamp? (Text.strip written)).map .timestamp
  | zonedTimestamp, _ => some .unshowable
  | clock, written => (readClock? (Text.strip written)).map .clock
  | bytes, written => (readBytes? written).map .bytes
  | list item, written => do
    let inside ← Text.between? '[' ']' (Text.strip written)
    pure (.list (← (Text.outerPieces ',' inside).mapM (readPart? item.read?)))
  | record fields, written => do
    let inside ← Text.between? '\x7b' '\x7d' (Text.strip written)
    pure (.record (← readFields? fields ((Text.outerPieces ',' inside).map (Text.outerCut ':'))))
  | other _, written => some (.text (String.ofList written))

/-- Reads the value of a field; a field that is not written is empty. -/
def readField? : String × ColumnType → List (List Char × List Char) → Option (String × Cell)
  | (name, type), entries =>
    match writtenField? name entries with
    | none => some (name, .null)
    | some value => (readPart? type.read? value).map fun cell => (name, cell)

/-- Reads the values of the fields. -/
def readFields? :
    List (String × ColumnType) → List (List Char × List Char) → Option (List (String × Cell))
  | [], _ => some []
  | field :: fields, entries => do
    pure ((← readField? field entries) :: (← readFields? fields entries))

end

/-- The cell of a column that a text, or nothing, makes. -/
def cell? (type : ColumnType) (text : Option String) : Option Cell :=
  match text with
  | none => some .null
  | some written => if type.isShowable then type.read? written.toList else some .unshowable

end ColumnType

namespace Cell

/-! ## Values as texts -/

/-- A point in time as the database writes it: a blank between date and time, and a fraction without
zeros at its end. -/
def plainTimestamp (microseconds : Int) : List Char :=
  let written := (timestampText microseconds).map fun c => if c == 'T' then ' ' else c
  if written.contains '.' then (written.reverse.dropWhile (· == '0')).reverse else written

mutual

/-- The text of a value as the database writes it. -/
def plainChars : Cell → List Char
  | null => "NULL".toList
  | timestamp microseconds => plainTimestamp microseconds
  | list items => '[' :: (", ".toList.intercalate (plainItems items) ++ [']'])
  | record fields => '\x7b' :: (", ".toList.intercalate (plainFields fields) ++ ['\x7d'])
  | cell => cell.textChars

/-- The texts of the items of a list. -/
def plainItems : List Cell → List (List Char)
  | [] => []
  | item :: items => plainChars item :: plainItems items

/-- The text of a field of a record. -/
def plainField : String × Cell → List Char
  | (name, value) => '\'' :: (name.toList ++ "': ".toList ++ plainChars value)

/-- The texts of the fields of a record. -/
def plainFields : List (String × Cell) → List (List Char)
  | [] => []
  | field :: fields => plainField field :: plainFields fields

end

/-- The text of a value as the database writes it, if there is a value. -/
def plainText? : Cell → Option String
  | null => none
  | cell => some (String.ofList cell.plainChars)

end Cell

end PlainQuery

import PlainQuery.Calendar.Instant
import PlainQuery.Json.Basic
import PlainQuery.Number.Layout

/-!
# Cells

A `Cell` is one value that the database delivers, by the type of its column.  `Cell.toJson` reduces
it to what a result can hold: nothing, a truth value, a number or a text.
-/

namespace PlainQuery

/-- A value of a column, by the type of the column. -/
inductive Cell where
  | null
  | boolean (value : Bool)
  /-- An integer type of up to 64 bits, signed or not. -/
  | integer (value : Int)
  /-- A decimal number of `scale` places, as the count of its smallest unit. -/
  | decimal (units : Int) (scale : Nat)
  | single (value : Number.Single)
  | double (value : Number.Double)
  | text (value : String)
  /-- A date, as days from 1970-01-01. -/
  | date (days : Int)
  /-- A point in time without zone, in microseconds from 1970-01-01. -/
  | timestamp (microseconds : Int)
  /-- A time of the day, in microseconds. -/
  | clock (microseconds : Nat)
  | bytes (content : List Nat)
  | list (items : List Cell)
  | record (fields : List (String × Cell))
  /-- A value of a type that has no text. -/
  | unshowable
deriving Repr, Inhabited

namespace Cell

/-- The text of a decimal number with its places. -/
def decimalText (units : Int) (scale : Nat) : List Char :=
  (if units < 0 then ['-'] else []) ++ Number.pointed scale units.natAbs

/-- Two hexadecimal digits. -/
def byteDigits (byte : Nat) : List Char :=
  let digits := Nat.toDigits 16 byte
  List.replicate (2 - digits.length) '0' ++ digits

/-- The text of a point in time. -/
def timestampText (microseconds : Int) : List Char :=
  let days := Int.fdiv microseconds 86400000000
  let rest := (microseconds - days * 86400000000).toNat
  (Calendar.Date.ofDays days).render ++
    'T' :: Calendar.renderClock (rest / 1000000) (rest % 1000000 * 1000)

/-- Doubles inside lists and records: as in documents, but without a plus sign. -/
def innerDouble : Number.Layout := { Number.Layout.document with plusSign := false }

/-- Numbers of single precision inside lists and records. -/
def innerSingle : Number.Layout := { Number.Layout.documentSingle with plusSign := false }

mutual

/-- The text of a cell; nothing has no text. -/
def textChars : Cell → List Char
  | null => []
  | boolean value => (if value then "true" else "false").toList
  | integer value => (toString value).toList
  | decimal units scale => decimalText units scale
  | single value => (innerSingle.write value).toList
  | double value => (innerDouble.write value).toList
  | text value => value.toList
  | date days => (Calendar.Date.ofDays days).render
  | timestamp microseconds => timestampText microseconds
  | clock microseconds =>
    Calendar.renderClock (microseconds / 1000000) (microseconds % 1000000 * 1000)
  | bytes content => content.flatMap byteDigits
  | list items => '[' :: (", ".toList.intercalate (itemTexts items) ++ [']'])
  | record fields => '\x7b' :: (", ".toList.intercalate (fieldTexts fields) ++ ['\x7d'])
  | unshowable => []

/-- The texts of the items of a list. -/
def itemTexts : List Cell → List (List Char)
  | [] => []
  | item :: items => textChars item :: itemTexts items

/-- The text of a field of a record. -/
def fieldText : String × Cell → List Char
  | (name, value) => name.toList ++ ':' :: ' ' :: textChars value

/-- The texts of the fields of a record. -/
def fieldTexts : List (String × Cell) → List (List Char)
  | [] => []
  | field :: fields => fieldText field :: fieldTexts fields

end

/-- A double as a value of a result; what is no finite number becomes its text. -/
def doubleValue (value : Number.Double) : Json :=
  if value.isFinite then .number (.double value)
  else .string (Number.Layout.plain.write value)

/-- A wide integer as a value of a result; what is too large becomes its digits. -/
def integerValue (value : Int) : Json :=
  if Json.minInteger ≤ value && value ≤ Json.maxInteger then .number (.integer value)
  else .string (toString value)

/-- The value of a result that a cell becomes. -/
def toJson : Cell → Json
  | null => .null
  | boolean value => .bool value
  | integer value => .number (.integer value)
  | decimal units 0 => integerValue units
  | single value => doubleValue value.convert
  | double value => doubleValue value
  | text value => .string value
  | unshowable => .null
  | cell => .string (String.ofList cell.textChars)

end Cell

end PlainQuery

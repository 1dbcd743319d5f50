import PlainQuery.Database.Conversion
import PlainQuery.Database.Fault

/-!
# Comparing values

Numbers are compared by their exact values, dates and times as points in time, texts by their
characters.  A text beside a value of another kind is first read as a value of that kind.  Nothing
is not comparable, not even with itself.
-/

namespace PlainQuery

/-- What a value that is no text is compared by. -/
inductive Measure where
  | finite (numerator : Int) (denominator : Nat)
  | infinite (negative : Bool)
  /-- No number; it comes behind all others. -/
  | undefined
deriving DecidableEq, Repr

namespace Measure

/-- The place of a measure among those of other kinds. -/
def place : Measure → Nat
  | infinite true => 0
  | finite _ _ => 1
  | infinite false => 2
  | undefined => 3

/-- The order of two measures. -/
def compare : Measure → Measure → Ordering
  | finite a b, finite c d => Ord.compare (a * d) (c * b)
  | left, right => Ord.compare left.place right.place

/-- The measure of a number. -/
def ofFloating {f : Number.BinaryFormat} (value : Number.Floating f) : Measure :=
  if value.isNaN then undefined
  else if !value.isFinite then infinite value.negative
  else
    finite (if value.negative then -(value.numerator : Int) else value.numerator)
      value.denominator

end Measure

namespace Cell

/-- The measure of a value; texts and composed values have none. -/
def measure? : Cell → Option Measure
  | boolean value => some (.finite (if value then 1 else 0) 1)
  | integer value => some (.finite value 1)
  | decimal units scale => some (.finite units (Nat.pow 10 scale))
  | single value => some (.ofFloating value)
  | double value => some (.ofFloating value)
  | date days => some (.finite (days * 86400000000) 1)
  | timestamp microseconds => some (.finite microseconds 1)
  | clock microseconds => some (.finite microseconds 1)
  | _ => none

/-- The measure of a text that stands beside another value. -/
def measureBeside? (other : Cell) (text : String) : Option Measure :=
  let written := Text.strip text.toList
  match other with
  | date _ => (ColumnType.readTimestamp? written).map fun moment => .finite moment 1
  | timestamp _ => (ColumnType.readTimestamp? written).map fun moment => .finite moment 1
  | clock _ => (ColumnType.readClock? written).map fun moment => .finite moment 1
  | boolean _ => (ColumnType.readFlag? written).map fun value => .finite (if value then 1 else 0) 1
  | _ => (Number.Floating.ofText? (String.ofList written) : Option Number.Double).map .ofFloating

/-- The order of a value and a text. -/
def compareWithText (value : Cell) (text : String) : Except DatabaseFault Ordering :=
  match value.measure? with
  | none => .ok (compare (String.ofList value.plainChars) text)
  | some measure =>
    match value.measureBeside? text with
    | none => .error (.notConvertible text)
    | some other => .ok (measure.compare other)

/-- The order of two values, if both are there. -/
def compare? (left right : Cell) : Except DatabaseFault (Option Ordering) :=
  match left, right with
  | null, _ => .ok none
  | _, null => .ok none
  | text left, text right => .ok (some (compare left right))
  | text left, right => (right.compareWithText left).map fun order => some order.swap
  | left, text right => (left.compareWithText right).map some
  | left, right =>
    match left.measure?, right.measure? with
    | some left, some right => .ok (some (left.compare right))
    | _, _ =>
      .ok (some (compare (String.ofList left.plainChars) (String.ofList right.plainChars)))

/-- The order in which values are sorted: values before nothing, in either direction. -/
def sortOrder (descending : Bool) (left right : Cell) : Ordering :=
  match left, right with
  | null, null => .eq
  | null, _ => .gt
  | _, null => .lt
  | left, right =>
    match left.compare? right with
    | .ok (some order) => if descending then order.swap else order
    | _ => .eq

end Cell

end PlainQuery

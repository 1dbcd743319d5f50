import PlainQuery.Number.Layout

/-!
# Reading numbers

`Floating.ofText?` reads a decimal numeral, with or without point and exponent, and rounds it once
to the nearest number of the format.  `Number.ofDigits?` reads a plain run of digits.
-/

namespace PlainQuery.Number

/-- The natural number written by a list of decimal digits. -/
def ofDigits (digits : List Char) : Nat :=
  digits.foldl (fun n d => 10 * n + (d.toNat - '0'.toNat)) 0

/-- The natural number that a text of decimal digits denotes; none for an empty or other text. -/
def ofDigits? (text : List Char) : Option Nat :=
  if text.isEmpty || text.any (fun c => !c.isDigit) then none else some (ofDigits text)

/-- An unsigned decimal numeral, a plus sign in front being allowed. -/
def natural? (text : List Char) : Option Nat :=
  match text with
  | '+' :: digits => ofDigits? digits
  | digits => ofDigits? digits

/-- A decimal numeral with an optional sign of either kind. -/
def integer? (text : List Char) : Option Int :=
  match text with
  | '-' :: digits => (ofDigits? digits).map fun n => -(n : Int)
  | digits => (natural? digits).map fun n => (n : Int)

/-- The exponent part of a numeral: nothing, or the letter with an integer. -/
def exponentPart? (text : List Char) : Option Int :=
  match text with
  | [] => some 0
  | c :: rest => if c == 'e' || c == 'E' then integer? rest else none

/-- Reads an unsigned numeral as a significand and a power of ten: digits, an optional point with
digits, at least one digit in all, and an optional exponent. -/
def decimalParts? (text : List Char) : Option (Nat × Int) :=
  let whole := text.takeWhile Char.isDigit
  let rest := text.dropWhile Char.isDigit
  let (fraction, rest) := match rest with
    | '.' :: rest => (rest.takeWhile Char.isDigit, rest.dropWhile Char.isDigit)
    | rest => ([], rest)
  if whole.isEmpty && fraction.isEmpty then none
  else (exponentPart? rest).map fun exponent =>
    (ofDigits (whole ++ fraction), exponent - (fraction.length : Nat))

namespace Floating

variable {f : BinaryFormat}

/-- The number nearest to `± significand * 10 ^ exponent`.  Magnitudes far outside the format are
decided by the position of their first digit. -/
def ofDecimal (negative : Bool) (significand : Nat) (exponent : Int) : Floating f :=
  let position := exponent + ((Nat.toDigits 10 significand).length : Nat)
  let reach : Int := Nat.pow 2 f.exponentWidth
  if significand == 0 || position < -reach then zero negative
  else if reach < position then infinity negative
  else ofRatio negative (significand * Nat.pow 10 exponent.toNat) (Nat.pow 10 (-exponent).toNat)

/-- Reads an unsigned numeral, or one of the words for the values that have no digits. -/
def unsigned? (negative : Bool) (text : List Char) : Option (Floating f) :=
  let word := String.ofList (text.map Char.toLower)
  if word == "inf" || word == "infinity" then some (infinity negative)
  else if word == "nan" then some { (nan : Floating f) with negative := negative }
  else (decimalParts? text).map fun (significand, exponent) =>
    ofDecimal negative significand exponent

/-- Reads a numeral, correctly rounded. -/
def ofText? (text : String) : Option (Floating f) :=
  match text.toList with
  | '-' :: rest => unsigned? true rest
  | '+' :: rest => unsigned? false rest
  | rest => unsigned? false rest

end Floating

end PlainQuery.Number

import PlainQuery.Number.Floating

/-!
# The shortest decimal that reads back

`Floating.shortest x` is the decimal with the fewest digits among those that round to `x`, and of
those the one nearest to `x`.  A decimal rounds to `x` when it lies between the two points halfway
to the neighbours of `x`, these points included exactly when the mantissa of `x` is even.

For each number of digits `1, 2, …` the two neighbours of `x` on the grid of decimals with that
many digits are tested.  If any decimal of a grid lies in the interval then so does one of these
neighbours, so the first grid with a hit is the coarsest.
-/

namespace PlainQuery.Number

/-- A positive decimal in scientific form: its digits, first digit not zero, and the power of ten
that the first digit counts. -/
structure Scientific where
  digits : List Char
  exponent : Int
deriving DecidableEq, Repr, Inhabited

namespace Scientific

/-- The decimal `significand * 10 ^ exponent` without the zeros at its end. -/
def ofSignificand (significand : Nat) (exponent : Int) : Scientific :=
  let digits := Nat.toDigits 10 significand
  { digits := (digits.reverse.dropWhile (· == '0')).reverse
    exponent := exponent + (digits.length : Nat) - 1 }

end Scientific

/-- The interval of rationals that round to one number.  The bounds and the number itself are given
as numerators over a common denominator. -/
structure RoundingInterval where
  low : Nat
  value : Nat
  high : Nat
  denominator : Nat
  /-- Whether the two bounds belong to the interval. -/
  closed : Bool

namespace RoundingInterval

/-- The interval of a positive finite number, in quarters of its unit. -/
def ofFloating {f : BinaryFormat} (x : Floating f) : RoundingInterval :=
  let quarters := 4 * x.mantissa
  let exponent := x.exponent - 2
  let scale := Nat.pow 2 exponent.toNat
  -- below a power of two the magnitudes lie twice as close
  let belowIsFiner := x.mantissa == f.binade && f.minExponent < x.exponent
  { low := (quarters - if belowIsFiner then 1 else 2) * scale
    value := quarters * scale
    high := (quarters + 2) * scale
    denominator := Nat.pow 2 (-exponent).toNat
    closed := x.mantissa % 2 == 0 }

/-- The power of ten counted by the first digit of `value / denominator`. -/
def leadingExponent (i : RoundingInterval) : Int :=
  if i.denominator ≤ i.value then
    ((Nat.toDigits 10 (i.value / i.denominator)).length : Int) - 1
  else
    -((Nat.toDigits 10 ((i.denominator - 1) / i.value)).length : Int)

/-- The multiple `count` of `10 ^ exponent` lies in the interval. -/
def contains (i : RoundingInterval) (count : Nat) (exponent : Int) : Bool :=
  let point := count * Nat.pow 10 exponent.toNat * i.denominator
  let down := Nat.pow 10 (-exponent).toNat
  if i.closed then i.low * down ≤ point && point ≤ i.high * down
  else i.low * down < point && point < i.high * down

/-- The decimal with `count` digits nearest to the value, if one of that many digits lies in the
interval; of two equally near ones the even. -/
def withDigits (i : RoundingInterval) (count : Nat) : Option Scientific :=
  let exponent := i.leadingExponent + 1 - (count : Int)
  let num := i.value * Nat.pow 10 (-exponent).toNat
  let den := i.denominator * Nat.pow 10 exponent.toNat
  let below := num / den
  let nearest := roundDiv num den
  -- the nearest one can fall outside of an interval that is shorter below the value
  let other := if nearest == below then below + 1 else below
  if i.contains nearest exponent then some (.ofSignificand nearest exponent)
  else if i.contains other exponent then some (.ofSignificand other exponent)
  else none

end RoundingInterval

/-- The shortest decimal that rounds to a positive finite number. -/
def Floating.shortest {f : BinaryFormat} (x : Floating f) : Scientific :=
  let interval := RoundingInterval.ofFloating x
  ((List.range' 1 17).findSome? interval.withDigits).getD default

end PlainQuery.Number

import PlainQuery.Number.Rounding

/-!
# Binary floating numbers, exactly

A `Floating f` is a number of the binary format `f`, kept as its sign and the place of its
magnitude in the format's order.  Place `0` is zero, the next places are the subnormal and normal
magnitudes in increasing order, `f.infinity` is infinity and everything above it stands for "not a
number".  Decoding, ordering and arithmetic are therefore plain arithmetic on natural numbers:
`mantissa` and `exponent` give the exact value `mantissa * 2 ^ exponent`, and `ofRatio` rounds a
quotient to the nearest member of the format.
-/

namespace PlainQuery.Number

/-- A binary format: the number of significant bits and the width of the exponent field. -/
structure BinaryFormat where
  precision : Nat
  exponentWidth : Nat

namespace BinaryFormat

/-- The format of double precision. -/
def binary64 : BinaryFormat := ⟨53, 11⟩

/-- The format of single precision. -/
def binary32 : BinaryFormat := ⟨24, 8⟩

/-- How many magnitudes share one exponent. -/
def binade (f : BinaryFormat) : Nat := Nat.pow 2 (f.precision - 1)

/-- The exponent of the smallest positive magnitude. -/
def minExponent (f : BinaryFormat) : Int := 3 - Nat.pow 2 (f.exponentWidth - 1) - f.precision

/-- The place of infinity in the order of magnitudes. -/
def infinity (f : BinaryFormat) : Nat := (Nat.pow 2 f.exponentWidth - 1) * f.binade

end BinaryFormat

/-- A number of the format `f`: a sign and the place of its magnitude. -/
structure Floating (f : BinaryFormat) where
  negative : Bool
  magnitude : Nat
deriving DecidableEq, Repr, Inhabited

/-- Numbers of double precision. -/
abbrev Double := Floating .binary64

/-- Numbers of single precision. -/
abbrev Single := Floating .binary32

namespace Floating

variable {f g : BinaryFormat}

/-- Zero with the given sign. -/
def zero (negative : Bool) : Floating f := ⟨negative, 0⟩

/-- Infinity with the given sign. -/
def infinity (negative : Bool) : Floating f := ⟨negative, f.infinity⟩

/-- Not a number. -/
def nan : Floating f := ⟨false, f.infinity + 1⟩

/-- The number is not a number. -/
def isNaN (x : Floating f) : Bool := f.infinity < x.magnitude

/-- The number is neither infinite nor "not a number". -/
def isFinite (x : Floating f) : Bool := x.magnitude < f.infinity

/-- The number is a zero of either sign. -/
def isZero (x : Floating f) : Bool := x.magnitude == 0

/-! ## The exact value -/

/-- The whole number of units that a finite magnitude consists of. -/
def mantissa (x : Floating f) : Nat :=
  if x.magnitude < f.binade then x.magnitude else f.binade + x.magnitude % f.binade

/-- The binary exponent of the unit of a finite magnitude. -/
def exponent (x : Floating f) : Int :=
  if x.magnitude < f.binade then f.minExponent
  else f.minExponent + (x.magnitude / f.binade : Nat) - 1

/-- The numerator of the exact magnitude. -/
def numerator (x : Floating f) : Nat := x.mantissa * Nat.pow 2 x.exponent.toNat

/-- The denominator of the exact magnitude, a power of two. -/
def denominator (x : Floating f) : Nat := Nat.pow 2 (-x.exponent).toNat

theorem denominator_pos (x : Floating f) : 0 < x.denominator := Nat.two_pow_pos _

/-- The whole part of a finite magnitude. -/
def wholePart (x : Floating f) : Nat := x.numerator / x.denominator

/-- The number is finite and has no fractional part. -/
def isIntegral (x : Floating f) : Bool := x.isFinite && x.numerator % x.denominator == 0

/-! ## Order -/

/-- The place of the number in the order of all numbers that are no "not a number". -/
def place (x : Floating f) : Int := if x.negative then -(x.magnitude : Int) else x.magnitude

/-- The order of numbers: false as soon as one side is no number, and equal for the two zeros. -/
def le (x y : Floating f) : Bool := !x.isNaN && !y.isNaN && decide (x.place ≤ y.place)

/-- The strict order of numbers. -/
def lt (x y : Floating f) : Bool := !x.isNaN && !y.isNaN && decide (x.place < y.place)

/-- The number moved into the range from `low` to `high`; no "not a number" is moved. -/
def clamp (low high x : Floating f) : Floating f :=
  if x.lt low then low else if high.lt x then high else x

/-- The smaller of two numbers. -/
def min (x y : Floating f) : Floating f := if y.lt x then y else x

/-! ## Rounding into the format -/

/-- The exponent of the unit in which `num / den` has as many bits as the format keeps, or the
smallest exponent of the format when that is larger. -/
def unitExponent (f : BinaryFormat) (num den : Nat) : Int :=
  let exponent : Int := (num.log2 : Int) - den.log2 - f.precision
  -- the logarithms are rounded down, so the exponent may be too small by one
  let fits : Bool :=
    num * Nat.pow 2 (-exponent).toNat <
      Nat.pow 2 f.precision * (den * Nat.pow 2 exponent.toNat)
  max f.minExponent (if fits then exponent else exponent + 1)

/-- The member of the format nearest to `± num / den`, a tie going to the even magnitude. -/
def ofRatio (negative : Bool) (num den : Nat) : Floating f :=
  if num == 0 then zero negative
  else
    let unit := unitExponent f num den
    let units := roundDiv (num * Nat.pow 2 (-unit).toNat) (den * Nat.pow 2 unit.toNat)
    -- units that were rounded up to a power of two carry over to the next exponent
    let magnitude := (unit - f.minExponent).toNat * f.binade + units
    ⟨negative, Nat.min magnitude f.infinity⟩

/-- The member of the format nearest to a natural number. -/
def ofNat (n : Nat) : Floating f := ofRatio false n 1

/-- The member of the format nearest to an integer. -/
def ofInt (n : Int) : Floating f := ofRatio (n < 0) n.natAbs 1

/-- The member of the format `g` nearest to a number of the format `f`. -/
def convert (x : Floating f) : Floating g :=
  if x.isNaN then nan
  else if x.isFinite then ofRatio x.negative x.numerator x.denominator
  else infinity x.negative

/-! ## Arithmetic

The operands are finite; each result is the exact result, rounded once. -/

/-- The rounded sum. -/
def add (x y : Floating f) : Floating f :=
  let signed (z : Floating f) : Int := if z.negative then -(z.numerator : Int) else z.numerator
  let sum := signed x * y.denominator + signed y * x.denominator
  -- an exact zero is negative only as the sum of two negative zeros
  let negative := if sum = 0 then x.negative && y.negative else decide (sum < 0)
  ofRatio negative sum.natAbs (x.denominator * y.denominator)

/-- The rounded product. -/
def mul (x y : Floating f) : Floating f :=
  ofRatio (x.negative != y.negative) (x.numerator * y.numerator) (x.denominator * y.denominator)

/-- The rounded quotient; the divisor is not zero. -/
def div (x y : Floating f) : Floating f :=
  ofRatio (x.negative != y.negative) (x.numerator * y.denominator) (x.denominator * y.numerator)

end Floating

end PlainQuery.Number

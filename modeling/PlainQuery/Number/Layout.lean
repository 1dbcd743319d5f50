import PlainQuery.Number.Shortest

/-!
# Writing numbers

A `Layout` holds the decisions of a number format: which magnitudes are written positionally,
whether a whole number keeps `.0` and whether a positive exponent carries its sign.  `Layout.write`
writes any number of a binary format in it; the digits are always the shortest that read back.
`Floating.fixed` writes a number with a fixed count of decimal places instead.
-/

namespace PlainQuery.Number

/-- The decisions of a format for numbers. -/
structure Layout where
  /-- Whether a number whose first digit counts this power of ten is written positionally. -/
  positional : Int → Bool
  /-- Whether a whole number that is written positionally ends in `.0`. -/
  keepsPoint : Bool
  /-- Whether a positive exponent is written with its sign. -/
  plusSign : Bool

namespace Layout

/-- Doubles in documents: positional from `1e-5` to below `1e16`. -/
def document : Layout := ⟨fun k => -5 ≤ k && k < 16, true, true⟩

/-- Singles in documents: positional from `1e-6` to below `1e13`. -/
def documentSingle : Layout := ⟨fun k => -6 ≤ k && k < 13, true, true⟩

/-- Doubles handed to the database: positional from `1e-4` to below `1e16`, no plus sign. -/
def argument : Layout := ⟨fun k => -4 ≤ k && k < 16, true, false⟩

/-- Plain digits: always positional, whole numbers without a point. -/
def plain : Layout := ⟨fun _ => true, false, false⟩

/-- The text of a decimal without exponent. -/
def writePositional (layout : Layout) (d : Scientific) : List Char :=
  let tail := if layout.keepsPoint then ['.', '0'] else []
  if d.exponent < 0 then
    '0' :: '.' :: (List.replicate (-d.exponent - 1).toNat '0' ++ d.digits)
  else
    let whole := d.exponent.toNat + 1
    let fraction := d.digits.drop whole
    d.digits.take whole ++ List.replicate (whole - d.digits.length) '0' ++
      (if fraction.isEmpty then tail else '.' :: fraction)

/-- The text of a decimal with an exponent. -/
def writeExponent (layout : Layout) (d : Scientific) : List Char :=
  let fraction := d.digits.drop 1
  let sign := if d.exponent < 0 then ['-'] else if layout.plusSign then ['+'] else []
  d.digits.take 1 ++ (if fraction.isEmpty then [] else '.' :: fraction) ++
    'e' :: (sign ++ Nat.toDigits 10 d.exponent.natAbs)

/-- The text of a positive decimal. -/
def writeScientific (layout : Layout) (d : Scientific) : List Char :=
  if layout.positional d.exponent then layout.writePositional d else layout.writeExponent d

/-- The text of a number. -/
def write {f : BinaryFormat} (layout : Layout) (x : Floating f) : String :=
  let sign := if x.negative then ['-'] else []
  if x.isNaN then "NaN"
  else if !x.isFinite then String.ofList (sign ++ "inf".toList)
  else if x.isZero then String.ofList (sign ++ layout.writeScientific ⟨['0'], 0⟩)
  else String.ofList (sign ++ layout.writeScientific x.shortest)

end Layout

/-! ## Fixed places -/

/-- The digits of a natural number with at least `width` of them, zeros in front. -/
def paddedDigits (width n : Nat) : List Char :=
  let digits := Nat.toDigits 10 n
  List.replicate (width - digits.length) '0' ++ digits

/-- The text of a natural number of hundredths, tenths, … : `places` digits stand after the point.
-/
def pointed (places n : Nat) : List Char :=
  let digits := paddedDigits (places + 1) n
  let whole := digits.length - places
  digits.take whole ++ (if places == 0 then [] else '.' :: digits.drop whole)

/-- The text of a finite number with exactly `places` decimal places, rounded to nearest with ties
to even.  The sign of the number is kept even when every digit is zero. -/
def Floating.fixed {f : BinaryFormat} (places : Nat) (x : Floating f) : List Char :=
  (if x.negative then ['-'] else []) ++
    pointed places (roundDiv (x.numerator * Nat.pow 10 places) x.denominator)

end PlainQuery.Number

import PlainQuery.Json.Basic
import PlainQuery.Json.Fault
import PlainQuery.Number.Decimal

/-!
# The tokens of a document

Each function here reads one token from the front of a text and gives it with the rest of the text,
or the first fault.  Every token has a strict reading, which yields its value, and the strings and
numbers also a lenient one, which only finds their end: it lets pass lone surrogates and numbers out
of range.
-/

namespace PlainQuery.Json

open Number (Double Floating)

/-- The white space of documents. -/
def isSpace (c : Char) : Bool := c == ' ' || c == '\t' || c == '\n' || c == '\r'

/-- The text from its first character that is no white space. -/
def skipSpace (text : List Char) : List Char := text.dropWhile isSpace

/-- Reads the rest of a word such as `null`. -/
def scanWord : List Char → List Char → Except Fault (List Char)
  | [], text => .ok text
  | _ :: _, [] => .error .endInValue
  | expected :: word, c :: text =>
    if c == expected then scanWord word text else .error .expectedWord

/-! ## Strings -/

/-- Where the reader stands inside a string. -/
inductive StringState where
  | plain
  /-- After a backslash. -/
  | escape
  /-- After `seen` digits of a code unit, `high` being the unit before it that awaits a partner. -/
  | unit (seen code : Nat) (high : Option Nat)
  /-- After a character that is no digit, with some bytes of the four still to come. -/
  | spoiled (bytes : Nat)
  /-- After a high surrogate, where a backslash is due. -/
  | pairSlash (high : Nat)
  /-- After a high surrogate and a backslash, where the letter of a code unit is due. -/
  | pairLetter (high : Nat)

/-- The value of a hexadecimal digit. -/
def hexDigit? (c : Char) : Option Nat :=
  if c.isDigit then some (c.toNat - '0'.toNat)
  else if 'a' ≤ c && c ≤ 'f' then some (c.toNat - 'a'.toNat + 10)
  else if 'A' ≤ c && c ≤ 'F' then some (c.toNat - 'A'.toNat + 10)
  else none

/-- The character that a letter after a backslash stands for. -/
def escapeLetter? (c : Char) : Option Char :=
  if c == '"' || c == '\\' || c == '/' then some c
  else if c == 'b' then some '\x08'
  else if c == 'f' then some '\x0c'
  else if c == 'n' then some '\n'
  else if c == 'r' then some '\r'
  else if c == 't' then some '\t'
  else none

/-- The code unit is the first half of a pair. -/
def isHighSurrogate (code : Nat) : Bool := 0xd800 ≤ code && code < 0xdc00

/-- The code unit is the second half of a pair. -/
def isLowSurrogate (code : Nat) : Bool := 0xdc00 ≤ code && code < 0xe000

/-- What a complete code unit gives: the characters it adds and the next state. -/
def closeUnit (lenient : Bool) (code : Nat) (high : Option Nat) :
    Except Fault (List Char × StringState) :=
  -- a string that is passed over may have halves of pairs
  if lenient then .ok ([], .plain)
  else
    match high with
    | some first =>
      if isLowSurrogate code then
        .ok ([Char.ofNat (0x10000 + (first - 0xd800) * 0x400 + (code - 0xdc00))], .plain)
      else .error .loneSurrogate
    | none =>
      if isLowSurrogate code then .error .loneSurrogate
      else if isHighSurrogate code then .ok ([], .pairSlash code)
      else .ok ([Char.ofNat code], .plain)

/-- One character inside a string that does not close it. -/
def stringStep (lenient : Bool) (state : StringState) (c : Char) :
    Except Fault (List Char × StringState) :=
  match state with
  | .plain =>
    if c == '\\' then .ok ([], .escape)
    else if c.toNat < 0x20 then .error .controlCharacter
    else .ok ([c], .plain)
  | .escape =>
    if c == 'u' then .ok ([], .unit 0 0 none)
    else
      match escapeLetter? c with
      | some meant => .ok ([meant], .plain)
      | none => .error .invalidEscape
  | .unit seen code high =>
    match hexDigit? c with
    | some digit =>
      if seen == 3 then closeUnit lenient (16 * code + digit) high
      else .ok ([], .unit (seen + 1) (16 * code + digit) high)
    | none =>
      -- four bytes are taken before they are looked at as digits, and the text may end first
      if 4 - seen ≤ c.utf8Size then .error .invalidEscape
      else .ok ([], .spoiled (4 - seen - c.utf8Size))
  | .spoiled bytes =>
    if bytes ≤ c.utf8Size then .error .invalidEscape else .ok ([], .spoiled (bytes - c.utf8Size))
  | .pairSlash high =>
    if c == '\\' then .ok ([], .pairLetter high) else .error .unfinishedSurrogate
  | .pairLetter high =>
    if c == 'u' then .ok ([], .unit 0 0 (some high)) else .error .unfinishedSurrogate

/-- Reads the rest of a string up to its closing quote. -/
def scanStringFrom (lenient : Bool) (state : StringState) :
    List Char → Except Fault (List Char × List Char)
  | [] => .error .endInString
  | c :: text =>
    match state, c == '"' with
    | .plain, true => .ok ([], text)
    | state, _ => do
      let (added, next) ← stringStep lenient state c
      let (later, rest) ← scanStringFrom lenient next text
      pure (added ++ later, rest)

/-- Reads a string after its opening quote. -/
def scanString (text : List Char) : Except Fault (String × List Char) := do
  let (content, rest) ← scanStringFrom false .plain text
  pure (String.ofList content, rest)

/-- Passes over a string after its opening quote. -/
def skipString (text : List Char) : Except Fault (List Char) := do
  let (_, rest) ← scanStringFrom true .plain text
  pure rest

/-! ## Numbers

A numeral is read in two roundings.  Its digits are collected into a significand as long as that
stays below `2 ^ 64`; further whole digits only raise the power of ten, further decimals are
dropped. The significand becomes a double and is then multiplied or divided once by a power of ten.
-/

/-- The bound below which significands stay. -/
def significandBound : Nat := Nat.pow 2 64

/-- Collects digits into the significand, and the digits for which there was no room. -/
def collectDigits (significand : Nat) : List Char → Nat × List Char
  | [] => (significand, [])
  | d :: digits =>
    let next := 10 * significand + (d.toNat - '0'.toNat)
    if next < significandBound then collectDigits next digits else (significand, d :: digits)

/-- The double of a power of ten. -/
def tenTo (exponent : Nat) : Double := Floating.ofNat (Nat.pow 10 exponent)

/-- The double nearest to `significand` times a power of ten.  Powers beyond `10 ^ 308` are divided
out in steps; two of them leave nothing of a significand. -/
def scaleSignificand (steps : Nat) (significand : Double) (exponent : Int) :
    Except Fault Double :=
  if 308 < exponent.natAbs then
    if significand.isZero then .ok significand
    else if 0 ≤ exponent then .error .numberOutOfRange
    else
      match steps with
      | 0 => .ok (.zero false)
      | steps + 1 => scaleSignificand steps (significand.div (tenTo 308)) (exponent + 308)
  else if 0 ≤ exponent then
    let scaled := significand.mul (tenTo exponent.toNat)
    if scaled.isFinite then .ok scaled else .error .numberOutOfRange
  else .ok (significand.div (tenTo (-exponent).toNat))

/-- The double with the given sign, significand and power of ten. -/
def doubleOf (negative : Bool) (significand : Nat) (exponent : Int) : Except Fault Numeral := do
  let magnitude ← scaleSignificand 3 (Floating.ofNat significand) exponent
  pure (.double { magnitude with negative := negative })

/-- The whole number with the given sign, or a double if there is no such whole number. -/
def integerOf (negative : Bool) (significand : Nat) : Numeral :=
  if !negative then .integer significand
  else if 0 < significand && (significand : Int) ≤ -minInteger then .integer (-(significand : Int))
  else .double { (Floating.ofNat significand : Double) with negative := true }

/-- The digits in front, and the rest. -/
def spanDigits (text : List Char) : List Char × List Char :=
  (text.takeWhile Char.isDigit, text.dropWhile Char.isDigit)

/-- The largest exponent that is read as a number. -/
def maxExponent : Nat := 2147483647

/-- Reads an exponent after its letter and gives the number it completes. -/
def scanExponent (negative : Bool) (significand : Nat) (exponent : Int) (text : List Char) :
    Except Fault (Numeral × List Char) :=
  let (down, text) := match text with
    | '+' :: rest => (false, rest)
    | '-' :: rest => (true, rest)
    | rest => (false, rest)
  let (digits, rest) := spanDigits text
  if digits.isEmpty then .error (if text.isEmpty then .endInValue else .invalidNumber)
  else
    let shift := Number.ofDigits digits
    if maxExponent < shift then
      if significand != 0 && !down then .error .numberOutOfRange
      else .ok (.double (.zero negative), rest)
    else do
      let shifted := if down then exponent - shift else exponent + shift
      let value ← doubleOf negative significand shifted
      pure (value, rest)

/-- Reads what follows the whole digits of a numeral. -/
def scanFraction (negative : Bool) (whole : List Char) (text : List Char) :
    Except Fault (Numeral × List Char) :=
  let (significand, surplus) := collectDigits 0 whole
  match text with
  | '.' :: text =>
    let (digits, rest) := spanDigits text
    if digits.isEmpty then .error (if text.isEmpty then .endInValue else .invalidNumber)
    else
      let (significand, dropped) := collectDigits significand digits
      let exponent : Int := (surplus.length : Int) + dropped.length - digits.length
      match rest with
      | 'e' :: rest => scanExponent negative significand exponent rest
      | 'E' :: rest => scanExponent negative significand exponent rest
      | rest => do pure (← doubleOf negative significand exponent, rest)
  | 'e' :: text => scanExponent negative significand surplus.length text
  | 'E' :: text => scanExponent negative significand surplus.length text
  | text =>
    if surplus.isEmpty then .ok (integerOf negative significand, text)
    else do pure (← doubleOf negative significand surplus.length, text)

/-- Reads a number after its sign. -/
def scanNumber (negative : Bool) (text : List Char) : Except Fault (Numeral × List Char) :=
  let (whole, rest) := spanDigits text
  match whole with
  | [] => .error (if rest.isEmpty then .endInValue else .invalidNumber)
  | '0' :: _ :: _ => .error .invalidNumber
  | whole => scanFraction negative whole rest

/-- Passes over the exponent of a number after its letter. -/
def skipExponent (text : List Char) : Except Fault (List Char) :=
  let text := match text with
    | '+' :: rest => rest
    | '-' :: rest => rest
    | rest => rest
  let (digits, rest) := spanDigits text
  if digits.isEmpty then .error .invalidNumber else .ok rest

/-- Passes over a number after its sign. -/
def skipNumber (text : List Char) : Except Fault (List Char) :=
  let (whole, rest) := spanDigits text
  let afterFraction (rest : List Char) : Except Fault (List Char) :=
    match rest with
    | 'e' :: rest => skipExponent rest
    | 'E' :: rest => skipExponent rest
    | rest => .ok rest
  match whole with
  | [] => .error .invalidNumber
  | '0' :: _ :: _ => .error .invalidNumber
  | _ =>
    match rest with
    | '.' :: rest =>
      let (digits, rest) := spanDigits rest
      if digits.isEmpty then .error .invalidNumber else afterFraction rest
    | rest => afterFraction rest

end PlainQuery.Json

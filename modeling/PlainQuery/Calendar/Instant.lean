import PlainQuery.Calendar.Date
import PlainQuery.Number.Decimal

/-!
# Instants

A point in time in universal time, read from and written as `2024-01-02T03:04:05Z`.  A fraction of a
second is written with three, six or nine digits, the fewest that suffice.
-/

namespace PlainQuery.Calendar

/-- A point in time: whole seconds since 1970-01-01T00:00:00Z and nanoseconds.  A leap second is the
second before it with a thousand million nanoseconds and more. -/
structure Instant where
  seconds : Int
  nanoseconds : Nat
deriving DecidableEq, Repr, Inhabited

/-- How the offset of universal time is written. -/
inductive OffsetStyle where
  | letter
  | digits

/-- The digits of a fraction of a second, with the point: none, milli-, micro- or nanoseconds. -/
def fractionDigits (nanoseconds : Nat) : List Char :=
  if nanoseconds == 0 then []
  else if nanoseconds % 1000000 == 0 then '.' :: Number.paddedDigits 3 (nanoseconds / 1000000)
  else if nanoseconds % 1000 == 0 then '.' :: Number.paddedDigits 6 (nanoseconds / 1000)
  else '.' :: Number.paddedDigits 9 nanoseconds

/-- The text `hh:mm:ss`, with a fraction if there is one. -/
def renderClock (secondOfDay nanoseconds : Nat) : List Char :=
  -- the sixtieth second is written where the nanoseconds go beyond a second
  let leap := nanoseconds / 1000000000
  Number.paddedDigits 2 (secondOfDay / 3600) ++
    ':' :: (Number.paddedDigits 2 (secondOfDay / 60 % 60) ++
      ':' :: (Number.paddedDigits 2 (secondOfDay % 60 + leap) ++
        fractionDigits (nanoseconds % 1000000000)))

namespace Instant

/-- The text of the instant in universal time. -/
def render (style : OffsetStyle) (instant : Instant) : String :=
  let days := Int.fdiv instant.seconds 86400
  let secondOfDay := (instant.seconds - days * 86400).toNat
  String.ofList ((Date.ofDays days).render ++
    'T' :: (renderClock secondOfDay instant.nanoseconds ++
      match style with
      | .letter => ['Z']
      | .digits => "+00:00".toList))

/-- Reads a number of at most `width` digits, at least one. -/
def scanDigits? (width : Nat) (text : List Char) : Option (Nat × List Char) :=
  let digits := (text.take width).takeWhile Char.isDigit
  if digits.isEmpty then none else some (Number.ofDigits digits, text.drop digits.length)

/-- Reads one given character. -/
def scanMark? (mark : Char) : List Char → Option (List Char)
  | [] => none
  | c :: rest => if c == mark then some rest else none

/-- Reads a date in front. -/
def scanDate? (text : List Char) : Option (Date × List Char) := do
  let (year, text) ← scanDigits? 4 text
  let text ← scanMark? '-' text
  let (month, text) ← scanDigits? 2 text
  let text ← scanMark? '-' text
  let (day, text) ← scanDigits? 2 text
  let date : Date := ⟨year, month, day⟩
  if date.isValid then some (date, text) else none

/-- Reads a fraction of a second in front, in nanoseconds; digits beyond the ninth are dropped. -/
def scanFraction? (text : List Char) : Option (Nat × List Char) :=
  match text with
  | '.' :: rest =>
    let digits := rest.takeWhile Char.isDigit
    let kept := digits.take 9
    if digits.isEmpty then none
    else some (Number.ofDigits kept * Nat.pow 10 (9 - kept.length), rest.drop digits.length)
  | rest => some (0, rest)

/-- Reads a time of the day in front: its second and the nanoseconds after it. -/
def scanClock? (text : List Char) : Option ((Nat × Nat) × List Char) := do
  let (hour, text) ← scanDigits? 2 text
  let text ← scanMark? ':' text
  let (minute, text) ← scanDigits? 2 text
  let text ← scanMark? ':' text
  let (second, text) ← scanDigits? 2 text
  let (nanoseconds, text) ← scanFraction? text
  if 24 ≤ hour || 60 ≤ minute || 61 ≤ second then none
  else if second == 60 then
    some ((hour * 3600 + minute * 60 + 59, nanoseconds + 1000000000), text)
  else some ((hour * 3600 + minute * 60 + second, nanoseconds), text)

/-- Reads an offset from universal time, in seconds, that takes the whole text. -/
def readOffset? (text : List Char) : Option Int :=
  let magnitude? (digits : List Char) : Option Int :=
    match digits with
    | [h₁, h₂, m₁, m₂] => do
      let hours ← Number.ofDigits? [h₁, h₂]
      let minutes ← Number.ofDigits? [m₁, m₂]
      if 24 ≤ hours || 60 ≤ minutes then none else some ((hours * 3600 + minutes * 60 : Nat) : Int)
    | _ => none
  match text with
  | ['Z'] => some 0
  | ['z'] => some 0
  | '+' :: rest => magnitude? (rest.filter (· != ':'))
  | '-' :: rest => (magnitude? (rest.filter (· != ':'))).map (- ·)
  | _ => none

/-- Reads an instant: date, time and offset. -/
def ofText? (text : String) : Option Instant := do
  let (date, rest) ← scanDate? text.toList
  match rest with
  | [] => none
  | c :: rest =>
    if c == 'T' || c == 't' || c == ' ' then do
      let ((second, nanoseconds), rest) ← scanClock? rest
      let offset ← readOffset? rest
      some ⟨date.toDays * 86400 + second - offset, nanoseconds⟩
    else none

end Instant

end PlainQuery.Calendar

import PlainQuery.Number.Layout

/-!
# Calendar dates

Dates of the Gregorian calendar, extended to all years, and their count of days from 1970-01-01.
Years are counted from March here, so that the day added in a leap year is the last of its year.
-/

namespace PlainQuery.Calendar

/-- A date by year, month and day of the month. -/
structure Date where
  year : Int
  month : Nat
  day : Nat
deriving DecidableEq, Repr, Inhabited

namespace Date

/-- The days of 400 years. -/
def daysPerEra : Int := 146097

/-- The days from 0000-03-01 to 1970-01-01. -/
def epochShift : Int := 719468

/-- The date that is `days` days after 1970-01-01. -/
def ofDays (days : Int) : Date :=
  let shifted := days + epochShift
  let era := Int.fdiv shifted daysPerEra
  let dayOfEra := (shifted - era * daysPerEra).toNat
  let yearOfEra := (dayOfEra - dayOfEra / 1460 + dayOfEra / 36524 - dayOfEra / 146096) / 365
  let dayOfYear := dayOfEra - (365 * yearOfEra + yearOfEra / 4 - yearOfEra / 100)
  let monthFromMarch := (5 * dayOfYear + 2) / 153
  let month := if monthFromMarch < 10 then monthFromMarch + 3 else monthFromMarch - 9
  { year := yearOfEra + era * 400 + (if month ≤ 2 then 1 else 0)
    month := month
    day := dayOfYear - (153 * monthFromMarch + 2) / 5 + 1 }

/-- The days from 1970-01-01 to the date. -/
def toDays (date : Date) : Int :=
  let year := if date.month ≤ 2 then date.year - 1 else date.year
  let era := Int.fdiv year 400
  let yearOfEra := (year - era * 400).toNat
  let monthFromMarch := if 2 < date.month then date.month - 3 else date.month + 9
  let dayOfYear := (153 * monthFromMarch + 2) / 5 + date.day - 1
  let dayOfEra := yearOfEra * 365 + yearOfEra / 4 - yearOfEra / 100 + dayOfYear
  era * daysPerEra + dayOfEra - epochShift

/-- Month and day exist in the calendar. -/
def isValid (date : Date) : Bool :=
  1 ≤ date.month && date.month ≤ 12 && 1 ≤ date.day && date.day ≤ 31 &&
    ofDays date.toDays == date

/-- The text `YYYY-MM-DD`; a year that does not have four digits has a sign. -/
def render (date : Date) : List Char :=
  let sign := if date.year < 0 then ['-'] else if 9999 < date.year then ['+'] else []
  sign ++ Number.paddedDigits 4 date.year.natAbs ++
    '-' :: (Number.paddedDigits 2 date.month ++ '-' :: Number.paddedDigits 2 date.day)

end Date

end PlainQuery.Calendar

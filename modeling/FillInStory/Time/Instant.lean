import FillInStory.Text.Basic

/-! # Instants and their written form

An instant is a number of seconds since the start of 1970 in universal time and a number of nanoseconds.
During a leap second, which can only follow the last second of a minute, the nanoseconds go on beyond one
second. Instants are written as dates of the Gregorian calendar, extended to all years, with six digits
for the fraction of the second.
-/

namespace FillInStory

/-- A date of the Gregorian calendar, with months and days counted from one. -/
structure Date where
  year : Int
  month : Nat
  day : Nat
  deriving DecidableEq, Repr

namespace Date

/-- The date so many days after the first of January 1970. Years are counted from March, so that a leap
day is the last day of a year, and 400 such years are an era of 146097 days. -/
def ofDays (days : Int) : Date :=
  let shifted := days + 719468
  let era := shifted / 146097
  let dayOfEra := (shifted % 146097).toNat
  let yearOfEra := (dayOfEra - dayOfEra / 1460 + dayOfEra / 36524 - dayOfEra / 146096) / 365
  let dayOfYear := dayOfEra - (365 * yearOfEra + yearOfEra / 4 - yearOfEra / 100)
  let monthFromMarch := (5 * dayOfYear + 2) / 153
  let day := dayOfYear - (153 * monthFromMarch + 2) / 5 + 1
  let month := if monthFromMarch < 10 then monthFromMarch + 3 else monthFromMarch - 9
  ⟨(yearOfEra : Int) + era * 400 + (if month ≤ 2 then 1 else 0), month, day⟩

/-- A year in four digits; years before 0 or after 9999 have a sign and may have more digits. -/
def yearText (year : Int) : Text :=
  if 0 ≤ year && year ≤ 9999 then Text.decimalPadded 4 year.toNat
  else (if year < 0 then '-' else '+') :: Text.decimalPadded 4 year.natAbs

/-- The date with hyphens between its parts. -/
def text (date : Date) : Text :=
  yearText date.year ++ "-" ++ Text.decimalPadded 2 date.month ++ "-" ++ Text.decimalPadded 2 date.day

end Date

/-- Whether a number of nanoseconds can stand beside a number of seconds. -/
def validNanos (seconds : Int) (nanos : Nat) : Bool :=
  nanos < 1000000000 || (nanos < 2000000000 && seconds % 60 == 59)

/-- The first second of the year -262143. -/
def firstSecond : Int := -8334601228800

/-- The last second of the year 262142. -/
def lastSecond : Int := 8210266876799

structure Instant where
  seconds : Int
  nanos : Nat
  inRange : firstSecond ≤ seconds ∧ seconds ≤ lastSecond
  valid : validNanos seconds nanos = true
  deriving DecidableEq

namespace Instant

/-- The instant with these seconds and nanoseconds, if there is one. -/
def ofUnix? (seconds : Int) (nanos : Nat) : Option Instant :=
  if h : (firstSecond ≤ seconds ∧ seconds ≤ lastSecond) ∧ validNanos seconds nanos then
    some ⟨seconds, nanos, h.1, h.2⟩
  else none

def epoch : Instant := ⟨0, 0, by decide, by decide⟩

/-- The instant as a date, the time of the day and the letter for universal time. The second is 60
during a leap second, and nanoseconds are cut to microseconds. -/
def text (instant : Instant) : Text :=
  let secondOfDay := (instant.seconds % 86400).toNat
  let leap := if instant.nanos < 1000000000 then 0 else 1
  (Date.ofDays (instant.seconds / 86400)).text
    ++ "T" ++ Text.decimalPadded 2 (secondOfDay / 3600)
    ++ ":" ++ Text.decimalPadded 2 (secondOfDay / 60 % 60)
    ++ ":" ++ Text.decimalPadded 2 (secondOfDay % 60 + leap)
    ++ "." ++ Text.decimalPadded 6 (instant.nanos % 1000000000 / 1000) ++ "Z"

end Instant

end FillInStory

/-!
# The calendar

Dates of the Gregorian calendar, extended to all years, and their distance in days from the first of
January 1970. Years are counted astronomically: year 0 comes before year 1. The arithmetic is done
on years that start in March, so that a leap day is the last day of its year.
-/

namespace StressBatch.Time

/-- A date, which need not exist. -/
structure Date where
  /-- The year. -/
  year : Int
  /-- The month, from 1. -/
  month : Nat
  /-- The day of the month, from 1. -/
  day : Nat
  deriving DecidableEq, Repr, Inhabited

namespace Date

/-- Whether a year has a leap day. -/
def isLeapYear (year : Int) : Bool :=
  year % 4 == 0 && (year % 100 != 0 || year % 400 == 0)

/-- The number of days of a month. -/
def daysOfMonth (year : Int) (month : Nat) : Nat :=
  if month = 2 then (if isLeapYear year then 29 else 28)
  else if month = 4 ∨ month = 6 ∨ month = 9 ∨ month = 11 then 30
  else 31

/-- Whether the calendar has the date. -/
def exists? (date : Date) : Bool :=
  1 ≤ date.month && date.month ≤ 12 && 1 ≤ date.day &&
    date.day ≤ daysOfMonth date.year date.month

/-- The days between the first of January 1970 and the date. -/
def toDays (date : Date) : Int :=
  let year := if date.month ≤ 2 then date.year - 1 else date.year
  let century := year / 400
  let yearOfCentury := year - century * 400
  let month : Int := if date.month ≤ 2 then (date.month : Int) + 9 else (date.month : Int) - 3
  let dayOfYear := (153 * month + 2) / 5 + (date.day : Int) - 1
  let dayOfCentury := yearOfCentury * 365 + yearOfCentury / 4 - yearOfCentury / 100 + dayOfYear
  century * 146097 + dayOfCentury - 719468

/-- The date that lies a number of days behind the first of January 1970. -/
def ofDays (days : Int) : Date :=
  let shifted := days + 719468
  let century := shifted / 146097
  let dayOfCentury := shifted - century * 146097
  let yearOfCentury :=
    (dayOfCentury - dayOfCentury / 1460 + dayOfCentury / 36524 - dayOfCentury / 146096) / 365
  let dayOfYear := dayOfCentury - (365 * yearOfCentury + yearOfCentury / 4 - yearOfCentury / 100)
  let month := (5 * dayOfYear + 2) / 153
  let day := dayOfYear - (153 * month + 2) / 5 + 1
  let year := yearOfCentury + century * 400
  if month < 10 then ⟨year, (month + 3).toNat, day.toNat⟩
  else ⟨year + 1, (month - 9).toNat, day.toNat⟩

/-- The first year that a timestamp can lie in. -/
def minYear : Int := -262143

/-- The last year that a timestamp can lie in. -/
def maxYear : Int := 262142

/-- Whether a timestamp can lie in the year. -/
def inRange (year : Int) : Bool := minYear ≤ year && year ≤ maxYear

end Date

end StressBatch.Time

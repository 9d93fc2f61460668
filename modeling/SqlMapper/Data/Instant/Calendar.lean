import SqlMapper.Data.Instant

/-!
# The proleptic Gregorian calendar

Days are counted from the first of January 1970. The Gregorian rule of leap years is applied to
all years, also those before 1582 and the years zero and below, so the calendar repeats every 400
years, which are 146097 days.
-/

namespace SqlMapper

/-- A date of the proleptic Gregorian calendar with a time of day. -/
structure CivilTime where
  /-- The year; the year before 1 is 0. -/
  year : Int
  /-- The month, from 1. -/
  month : Nat
  /-- The day of the month, from 1. -/
  day : Nat
  /-- The hour, from 0. -/
  hour : Nat
  /-- The minute, from 0. -/
  minute : Nat
  /-- The second, from 0; 60 is a leap second. -/
  second : Nat
  /-- Nanoseconds past the second, below `10 ^ 9`. -/
  nanosecond : Nat
deriving DecidableEq, Inhabited

namespace Calendar

/-- Every fourth year is a leap year, but of the centuries only every fourth. -/
def isLeap (year : Int) : Bool :=
  year % 4 == 0 && (year % 100 != 0 || year % 400 == 0)

/-- The number of days of a month. -/
def monthLength (year : Int) (month : Nat) : Nat :=
  if month = 2 then (if isLeap year then 29 else 28)
  else if month = 4 ∨ month = 6 ∨ month = 9 ∨ month = 11 then 30
  else 31

/-- Days from the start of the year 1 to the start of a year. -/
def daysBeforeYear (year : Int) : Int :=
  365 * (year - 1) + (year - 1) / 4 - (year - 1) / 100 + (year - 1) / 400

/-- Days from the start of a year to the start of a month. -/
def daysBeforeMonth (year : Int) (month : Nat) : Nat :=
  (List.range (month - 1)).foldl (fun days earlier => days + monthLength year (earlier + 1)) 0

/-- Days from the start of the year 1 to the start of 1970. -/
def epochDay : Int := 719162

/-- Days from the epoch to a date. -/
def dayNumber (year : Int) (month day : Nat) : Int :=
  daysBeforeYear year + daysBeforeMonth year month + (day - 1) - epochDay

/-- Whether a month has such a day, the time of day exists, and no field is out of its range. Second
60 is admitted in any minute. -/
def isValid (t : CivilTime) : Bool :=
  1 ≤ t.month && t.month ≤ 12 && 1 ≤ t.day && t.day ≤ monthLength t.year t.month &&
    t.hour ≤ 23 && t.minute ≤ 59 && t.second ≤ 60 && t.nanosecond < 1000000000

/-- The instant of a valid local time that is ahead of UTC by some seconds. -/
def instantOf (t : CivilTime) (ahead : Int) : Instant :=
  let leap := if t.second = 60 then 1000000000 else 0
  { seconds := dayNumber t.year t.month t.day * 86400 + t.hour * 3600 + t.minute * 60 +
      min t.second 59 - ahead
    nanoseconds := t.nanosecond + leap }

/-- The month and day of the month of a day of the year, both counted from 0 on the way in. The
months are gone through from the given one. -/
def monthOfDay (year : Int) : Nat → Nat → Nat → Nat × Nat
  | 0, month, rest => (month, rest + 1)
  | more + 1, month, rest =>
    if rest < monthLength year month then (month, rest + 1)
    else monthOfDay year more (month + 1) (rest - monthLength year month)

/-- The year, month and day of a count of days from the epoch. -/
def dateOfDay (dayCount : Int) : Int × Nat × Nat :=
  let fromYearOne := dayCount + epochDay
  let inCycle := (fromYearOne % 146097).toNat
  let century := min (inCycle / 36524) 3
  let inCentury := inCycle - century * 36524
  let olympiad := inCentury / 1461
  let inOlympiad := inCentury % 1461
  let yearOfFour := min (inOlympiad / 365) 3
  let year := fromYearOne / 146097 * 400 + (century * 100 + olympiad * 4 + yearOfFour + 1 : Nat)
  (year, monthOfDay year 11 1 (inOlympiad - yearOfFour * 365))

/-- The date and time of day of an instant in UTC. -/
def civilOf (t : Instant) : CivilTime :=
  let (year, month, day) := dateOfDay (t.seconds / 86400)
  let ofDay := (t.seconds % 86400).toNat
  let leap := 1000000000 ≤ t.nanoseconds
  { year, month, day
    hour := ofDay / 3600
    minute := ofDay / 60 % 60
    second := if leap then ofDay % 60 + 1 else ofDay % 60
    nanosecond := if leap then t.nanoseconds - 1000000000 else t.nanoseconds }

/-- The count starts at the epoch and follows the Gregorian rule across a century. -/
example : dayNumber 1970 1 1 = 0 ∧ dayNumber 2000 2 29 = 11016 ∧ dayNumber 0 1 1 = -719528 := by
  decide

/-- The last day of a leap year that ends a cycle of 400 years. -/
example : dateOfDay (dayNumber 2000 12 31) = (2000, 12, 31) ∧
    dateOfDay (dayNumber (-1) 3 1) = (-1, 3, 1) := by decide

end Calendar

end SqlMapper

-- SUMMARY: Calendar dates: the number of a day, and the year, month, weekday and week it lies in.

/-! # Dates

A day is a whole number, counted from the first day of 1970. Years follow the Gregorian rule without
bounds in both directions; year 0 comes before year 1.

The year of a day is estimated from the mean length of a year, and the estimate is at most one
off. -/

namespace Formula

/-- A date as year, month and day of the month. -/
structure CivilDate where
  year : Int
  month : Nat
  day : Nat
deriving DecidableEq

namespace CivilDate

/-! ## Years and months -/

def isLeapYear (year : Int) : Bool := year % 4 == 0 && (year % 100 != 0 || year % 400 == 0)

def daysInYear (year : Int) : Nat := if isLeapYear year then 366 else 365

/-- The days of each month in order. -/
def monthLengths (leap : Bool) : List Nat :=
  [31, if leap then 29 else 28, 31, 30, 31, 30, 31, 31, 30, 31, 30, 31]

/-- The days of a month, or none if there is no such month. -/
def daysInMonth (year : Int) (month : Nat) : Nat :=
  if month = 0 then 0 else (monthLengths (isLeapYear year)).getD (month - 1) 0

def isValid (date : CivilDate) : Bool :=
  decide (1 ≤ date.day) && decide (date.day ≤ daysInMonth date.year date.month)

/-! ## Day numbers -/

/-- The days from the first day of year 1 to the first day of a year. -/
def daysBeforeYear (year : Int) : Int :=
  365 * (year - 1) + (year - 1) / 4 - (year - 1) / 100 + (year - 1) / 400

/-- The days from the first day of year 1 to the first day of 1970. -/
def epochDays : Int := 719162

/-- The number of the first day of a year. -/
def yearStart (year : Int) : Int := daysBeforeYear year - epochDays

/-- The day of the year, counted from zero. -/
def ordinal (date : CivilDate) : Nat :=
  ((monthLengths (isLeapYear date.year)).take (date.month - 1)).foldr (· + ·) (date.day - 1)

/-- The number of the day. -/
def dayNumber (date : CivilDate) : Int := yearStart date.year + date.ordinal

/-- The year a day lies in. -/
def yearOf (day : Int) : Int :=
  let estimate := (day + epochDays) * 400 / 146097 + 1
  if day < yearStart estimate then estimate - 1
  else if yearStart (estimate + 1) ≤ day then estimate + 1
  else estimate

/-- Splits a day of the year into whole months and the days after them. -/
def splitMonths : List Nat → Nat → Nat × Nat
  | [], days => (0, days)
  | length :: rest, days =>
    if days < length then (0, days)
    else
      let (months, days) := splitMonths rest (days - length)
      (months + 1, days)

/-- The date of a day of the year, counted from zero. -/
def ofOrdinal (year : Int) (ordinal : Nat) : CivilDate :=
  let (months, days) := splitMonths (monthLengths (isLeapYear year)) ordinal
  ⟨year, months + 1, days + 1⟩

/-- The date of a day. -/
def ofDayNumber (day : Int) : CivilDate :=
  let year := yearOf day
  ofOrdinal year (day - yearStart year).toNat

end CivilDate

/-! ## Weeks -/

namespace Weekday

/-- The weekday of a day, counted from Monday as zero. The first day of 1970 was a Thursday. -/
def ofDayNumber (day : Int) : Nat := ((day + 3) % 7).toNat

/-- The weekday, counted from Sunday as zero. -/
def fromSunday (weekday : Nat) : Nat := (weekday + 1) % 7

/-- The week of the year, where the first one begins with the first `start` of the year and the
    days before it are in week zero. -/
def weekOfYear (start weekday ordinal : Nat) : Nat :=
  (ordinal + 7 - (weekday + 7 - start) % 7) / 7

end Weekday

/-- A week of the calendar that counts weeks from Monday and gives each to the year that holds its
    Thursday. -/
structure IsoWeek where
  year : Int
  week : Nat
deriving DecidableEq

namespace IsoWeek

/-- The week of a day. -/
def ofDayNumber (day : Int) : IsoWeek :=
  let thursday := day - Weekday.ofDayNumber day + 3
  let year := CivilDate.yearOf thursday
  ⟨year, ((thursday - CivilDate.yearStart year) / 7).toNat + 1⟩

/-- The number of the first day of a year's first week. -/
def yearStart (year : Int) : Int :=
  let fourth := CivilDate.yearStart year + 3
  fourth - Weekday.ofDayNumber fourth

/-- The weeks of a year. -/
def weeksInYear (year : Int) : Nat := ((yearStart (year + 1) - yearStart year) / 7).toNat

end IsoWeek
end Formula

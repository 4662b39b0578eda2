-- SUMMARY: The fields of a date and time that a text gives, and the date, time or instant they determine together.
import Formula.Calendar.DateFormat.Basic
import Formula.Calendar.Instant
import Formula.Powers

/-! # Fields of a date

A text can give the parts of a date in many ways: year, month and day, the day of the year, a week
and a weekday. Fields that are given twice have to agree. Some set of fields determines the date;
all the others have to agree with it. -/

namespace Formula

/-- Why fields do not determine a date or time. -/
inductive FieldFault where
  | missing
  | contradictory
deriving DecidableEq

structure DateFields where
  year : Option Int := none
  century : Option Int := none
  yearOfCentury : Option Int := none
  isoYear : Option Int := none
  isoYearOfCentury : Option Int := none
  quarter : Option Int := none
  month : Option Int := none
  day : Option Int := none
  weekFromSunday : Option Int := none
  weekFromMonday : Option Int := none
  isoWeek : Option Int := none
  weekday : Option Int := none
  ordinal : Option Int := none
  halfDay : Option Int := none
  hourOfHalf : Option Int := none
  minute : Option Int := none
  second : Option Int := none
  nanosecond : Option Int := none
  timestamp : Option Int := none
  offset : Option Int := none

namespace DateFields

def empty : DateFields := {}

/-! ## Giving a field -/

/-- A field with a value within bounds, unless it has another value already. -/
def agree (old : Option Int) (low high value : Int) : Option (Option Int) :=
  if value < low ∨ high < value then none
  else
    match old with
    | none => some (some value)
    | some given => if given = value then some (some value) else none

/-- The largest number of a year. -/
def maxYear : Int := 2147483647

/-- The half of the day: zero before noon and one after. -/
def setHalfDay (fields : DateFields) (half : Int) : Option DateFields := do
  return { fields with halfDay := ← agree fields.halfDay 0 1 half }

/-- The weekday, counted from Monday as zero. -/
def setWeekday (fields : DateFields) (weekday : Int) : Option DateFields := do
  return { fields with weekday := ← agree fields.weekday 0 6 weekday }

def setMonth (fields : DateFields) (month : Int) : Option DateFields := do
  return { fields with month := ← agree fields.month 1 12 month }

def setNanosecond (fields : DateFields) (nanos : Int) : Option DateFields := do
  return { fields with nanosecond := ← agree fields.nanosecond 0 999999999 nanos }

def setOffset (fields : DateFields) (offset : Int) : Option DateFields := do
  return { fields with offset := ← agree fields.offset (-maxYear) maxYear offset }

/-- Gives a numeric part. -/
def set (fields : DateFields) (part : DatePart) (n : Int) : Option DateFields :=
  match part with
  | .year => do return { fields with year := ← agree fields.year (-maxYear - 1) maxYear n }
  | .century => do return { fields with century := ← agree fields.century 0 maxYear n }
  | .yearOfCentury => do
    return { fields with yearOfCentury := ← agree fields.yearOfCentury 0 99 n }
  | .isoYear => do return { fields with isoYear := ← agree fields.isoYear (-maxYear - 1) maxYear n }
  | .isoYearOfCentury => do
    return { fields with isoYearOfCentury := ← agree fields.isoYearOfCentury 0 99 n }
  | .quarter => do return { fields with quarter := ← agree fields.quarter 1 4 n }
  | .month => fields.setMonth n
  | .day => do return { fields with day := ← agree fields.day 1 31 n }
  | .weekFromSunday => do
    return { fields with weekFromSunday := ← agree fields.weekFromSunday 0 53 n }
  | .weekFromMonday => do
    return { fields with weekFromMonday := ← agree fields.weekFromMonday 0 53 n }
  | .isoWeek => do return { fields with isoWeek := ← agree fields.isoWeek 1 53 n }
  | .weekdayFromSunday => if 0 ≤ n ∧ n ≤ 6 then fields.setWeekday ((n + 6) % 7) else none
  | .weekdayFromMonday => if 1 ≤ n ∧ n ≤ 7 then fields.setWeekday (n - 1) else none
  | .ordinal => do return { fields with ordinal := ← agree fields.ordinal 1 366 n }
  | .hour =>
    if 0 ≤ n ∧ n ≤ 23 then do
      return { ← fields.setHalfDay (n / 12) with
        hourOfHalf := ← agree fields.hourOfHalf 0 11 (n % 12) }
    else none
  | .hour12 =>
    if 1 ≤ n ∧ n ≤ 12 then do
      return { fields with hourOfHalf := ← agree fields.hourOfHalf 0 11 (n % 12) }
    else none
  | .minute => do return { fields with minute := ← agree fields.minute 0 59 n }
  | .second => do return { fields with second := ← agree fields.second 0 60 n }
  | .nanosecond => fields.setNanosecond n
  | .timestamp => do
    return { fields with timestamp := ← agree fields.timestamp (-(twoTo 63 : Int)) (twoTo 63) n }

/-! ## The year -/

/-- The year of a full year, a century and a year of the century. A year of two digits alone lies
    between 1970 and 2069. -/
def resolveYear (year century ofCentury : Option Int) : Except FieldFault (Option Int) :=
  match year, century, ofCentury with
  | year, none, none => .ok year
  | some year, century, ofCentury =>
    if year < 0 ∨ century.getD (year / 100) ≠ year / 100 ∨ ofCentury.getD (year % 100) ≠ year % 100
    then .error .contradictory
    else .ok (some year)
  | none, some century, some ofCentury =>
    if century * 100 + ofCentury ≤ maxYear then .ok (some (century * 100 + ofCentury))
    else .error .contradictory
  | none, none, some ofCentury => .ok (some (ofCentury + if ofCentury < 70 then 2000 else 1900))
  | none, some _, none => .error .missing

/-! ## The date -/

/-- The years of dates. -/
def inRange (year : Int) : Bool := decide (-262143 ≤ year) && decide (year ≤ 262142)

/-- Whether a field that is given has this value. -/
def agrees (field : Option Int) (value : Int) : Bool := field.getD value == value

/-- Whether the century and the year of the century, if given, are those of a year. -/
def agreesWithYear (century ofCentury : Option Int) (year : Int) : Bool :=
  if year < 0 then century.isNone && ofCentury.isNone
  else agrees century (year / 100) && agrees ofCentury (year % 100)

/-- Whether all the fields of a date agree with a day. -/
def agreesWithDay (fields : DateFields) (day : Int) : Bool :=
  let date := CivilDate.ofDayNumber day
  let weekday := Weekday.ofDayNumber day
  let week := IsoWeek.ofDayNumber day
  agrees fields.year date.year
    && agreesWithYear fields.century fields.yearOfCentury date.year
    && agrees fields.month date.month
    && agrees fields.day date.day
    && agrees fields.isoYear week.year
    && agreesWithYear none fields.isoYearOfCentury week.year
    && agrees fields.isoWeek week.week
    && agrees fields.weekday weekday
    && agrees fields.ordinal (date.ordinal + 1 : Nat)
    && agrees fields.weekFromSunday (Weekday.weekOfYear 6 weekday date.ordinal)
    && agrees fields.weekFromMonday (Weekday.weekOfYear 0 weekday date.ordinal)
    && agrees fields.quarter ((date.month + 2) / 3 : Nat)

/-- The day of a year, month and day. -/
def dayOfDate? (year month day : Int) : Option Int :=
  let date : CivilDate := ⟨year, month.toNat, day.toNat⟩
  if inRange year && date.isValid then some date.dayNumber else none

/-- The day of a day of the year, counted from one. -/
def dayOfOrdinal? (year ordinal : Int) : Option Int :=
  if inRange year && decide (1 ≤ ordinal) && decide (ordinal ≤ CivilDate.daysInYear year) then
    some (CivilDate.yearStart year + ordinal - 1)
  else none

/-- The day of a week of the year and a weekday, where weeks begin with `start`. -/
def dayOfWeek? (year week weekday start : Int) : Option Int :=
  let first : Int := Weekday.ofDayNumber (CivilDate.yearStart year)
  dayOfOrdinal? year (1 + (start - first) % 7 + (week - 1) * 7 + (weekday - start) % 7)

/-- The day of a week by its Thursday and a weekday. -/
def dayOfIsoWeek? (year week weekday : Int) : Option Int :=
  let day := IsoWeek.yearStart year + (week - 1) * 7 + weekday
  if inRange year && decide (week ≤ IsoWeek.weeksInYear year) && inRange (CivilDate.yearOf day) then
    some day
  else none

/-- The day that the first sufficient set of fields determines; `none` inside stands for fields
    that do not make a date. -/
def candidateDay (fields : DateFields) (year isoYear : Option Int) : Option (Option Int) :=
  match year, fields.month, fields.day with
  | some year, some month, some day => some (dayOfDate? year month day)
  | _, _, _ =>
    match year, fields.ordinal with
    | some year, some ordinal => some (dayOfOrdinal? year ordinal)
    | _, _ =>
      match year, fields.weekFromSunday, fields.weekday with
      | some year, some week, some weekday => some (dayOfWeek? year week weekday 6)
      | _, _, _ =>
        match year, fields.weekFromMonday, fields.weekday with
        | some year, some week, some weekday => some (dayOfWeek? year week weekday 0)
        | _, _, _ =>
          match isoYear, fields.isoWeek, fields.weekday with
          | some year, some week, some weekday => some (dayOfIsoWeek? year week weekday)
          | _, _, _ => none

/-- The day of the fields. -/
def toDay (fields : DateFields) : Except FieldFault Int := do
  let year ← resolveYear fields.year fields.century fields.yearOfCentury
  let isoYear ← resolveYear fields.isoYear none fields.isoYearOfCentury
  match fields.candidateDay year isoYear with
  | none => throw .missing
  | some none => throw .contradictory
  | some (some day) => if fields.agreesWithDay day then return day else throw .contradictory

/-! ## The time of day -/

/-- The second of the day and the nanoseconds. Seconds can be left out, and nanoseconds with or
    without them. The second 60 is a leap second. -/
def toTime (fields : DateFields) : Except FieldFault (Nat × Nat) :=
  match fields.halfDay, fields.hourOfHalf, fields.minute with
  | some half, some hour, some minute =>
    let second := fields.second.getD 0
    if fields.nanosecond.isSome && fields.second.isNone then .error .missing
    else
      let nanos := fields.nanosecond.getD 0 + if second = 60 then nanosPerSecond else 0
      .ok (((half * 12 + hour) * 3600 + minute * 60 + min second 59).toNat, nanos.toNat)
  | _, _, _ => .error .missing

/-! ## Together -/

/-- The local time of a day and a time of day. -/
def localTime (day : Int) (time : Nat × Nat) : LocalTime := ⟨day * secondsPerDay + time.1, time.2⟩

/-- The fields with those of a moment filled in. -/
def fillFrom (fields : DateFields) (moment : LocalTime) : Option DateFields := do
  let fields ← fields.set .year moment.date.year
  let fields ← fields.set .ordinal (moment.date.ordinal + 1 : Nat)
  let fields ← fields.set .hour moment.hour
  fields.set .minute moment.minute

/-- The local time that a timestamp determines, where the other fields have to agree with it. -/
def ofTimestamp (fields : DateFields) (timestamp offset : Int) : Option LocalTime := do
  let instant ← Instant.make? (timestamp + offset) 0
  let moment := instant.toLocal 0
  let (fields, moment) ←
    if fields.second = some 60 then
      match moment.second with
      | 59 => some (fields, moment)
      | 0 => some (fields, { moment with seconds := moment.seconds - 1 })
      | _ => none
    else do some (← fields.set .second moment.second, moment)
  let fields ← fields.fillFrom moment
  match fields.toDay, fields.toTime with
  | .ok day, .ok time => some (localTime day time)
  | _, _ => none

/-- The local time of the fields in a zone of the given offset. A timestamp has to agree with the
    date and time, but may be the second after a leap second; if one of them is missing the
    timestamp stands in. -/
def toLocal? (fields : DateFields) (offset : Int) : Option LocalTime :=
  match fields.toDay, fields.toTime with
  | .ok day, .ok time =>
    let moment := localTime day time
    match fields.timestamp with
    | none => some moment
    | some timestamp =>
      let expected := moment.seconds - offset
      if timestamp = expected ∨ (nanosPerSecond ≤ moment.nanos ∧ timestamp = expected + 1) then
        some moment
      else none
  | .error .contradictory, _ => none
  | _, .error .contradictory => none
  | _, _ =>
    match fields.timestamp with
    | some timestamp => fields.ofTimestamp timestamp offset
    | none => none

/-- The instant of the fields, if they give an offset or a timestamp. -/
def toInstant? (fields : DateFields) : Option Instant := do
  let offset ← match fields.offset, fields.timestamp with
    | some offset, _ => some offset
    | none, some _ => some 0
    | none, none => none
  let moment ← fields.toLocal? offset
  if offset.natAbs < secondsPerDay then moment.toInstant? offset else none

end DateFields
end Formula

-- SUMMARY: Writing a local time in a date format.
import Formula.Calendar.DateFormat.Basic
import Formula.Calendar.Rfc3339
import Formula.Powers

/-! # Writing dates

Most parts are two digits wide. Years have four digits, and a sign outside the years 0 to 9999. -/

namespace Formula
namespace DateFormat

/-! ## Names -/

def monthNames : List String := [
  "January", "February", "March", "April", "May", "June", "July", "August", "September",
  "October", "November", "December"]

/-- The names of the days from Monday on. -/
def weekdayNames : List String := [
  "Monday", "Tuesday", "Wednesday", "Thursday", "Friday", "Saturday", "Sunday"]

/-- The first three letters of a name. -/
def shortName (name : String) : List Char := name.toList.take 3

/-! ## Numbers -/

/-- The characters before a number that bring it to its width. -/
def pad (padding : Padding) (width : Nat) (digits : List Char) : List Char :=
  match padding with
  | .none => digits
  | .zeros => List.replicate (width - digits.length) '0' ++ digits
  | .blanks => List.replicate (width - digits.length) ' ' ++ digits

/-- A number with its sign. With zeros the sign comes before the padding. -/
def signedText (padding : Padding) (width : Nat) (n : Int) : List Char :=
  let sign := if n < 0 then '-' else '+'
  let digits := Nat.toDigits 10 n.natAbs
  match padding with
  | .zeros => sign :: pad .zeros (width - 1) digits
  | _ => pad padding width (sign :: digits)

/-- A number of at least `width` digits; only negative ones have a sign. -/
def numberText (padding : Padding) (width : Nat) (n : Int) : List Char :=
  if n < 0 then signedText padding width n else pad padding width (Nat.toDigits 10 n.natAbs)

/-- A byte as a digit for its tens and one for its ones. The tens of a byte from one hundred on are
    the characters that follow the digits. -/
def byteText (padding : Padding) (n : Int) : List Char :=
  let byte := (n % 256).toNat
  let ones := Nat.digitChar (byte % 10)
  if byte / 10 = 0 then pad padding 2 [ones] else [Char.ofNat ('0'.toNat + byte / 10), ones]

def yearText (padding : Padding) (year : Int) : List Char :=
  if 0 ≤ year ∧ year ≤ 9999 then numberText padding 4 year else signedText padding 5 year

/-! ## Parts -/

/-- The hour on a clock with twelve hours. -/
def hour12 (hour : Nat) : Nat := if hour % 12 = 0 then 12 else hour % 12

/-- A numeric part of a local time with its offset. -/
def partText (time : LocalTime) (offset : Int) (part : DatePart) (padding : Padding) : List Char :=
  let date := time.date
  let weekday := Weekday.ofDayNumber time.day
  let ordinal := date.ordinal
  let week := IsoWeek.ofDayNumber time.day
  match part with
  | .year => yearText padding date.year
  | .century => byteText padding (date.year / 100)
  | .yearOfCentury => byteText padding (date.year % 100)
  | .isoYear => yearText padding week.year
  | .isoYearOfCentury => byteText padding (week.year % 100)
  | .quarter => Nat.toDigits 10 ((date.month + 2) / 3)
  | .month => byteText padding date.month
  | .day => byteText padding date.day
  | .weekFromSunday => byteText padding (Weekday.weekOfYear 6 weekday ordinal)
  | .weekFromMonday => byteText padding (Weekday.weekOfYear 0 weekday ordinal)
  | .isoWeek => byteText padding week.week
  | .weekdayFromSunday => Nat.toDigits 10 (Weekday.fromSunday weekday)
  | .weekdayFromMonday => Nat.toDigits 10 (weekday + 1)
  | .ordinal => numberText padding 3 (ordinal + 1)
  | .hour => byteText padding time.hour
  | .hour12 => byteText padding (hour12 time.hour)
  | .minute => byteText padding time.minute
  | .second => byteText padding time.second
  | .nanosecond => numberText padding 9 time.fraction
  | .timestamp => numberText padding 9 (time.seconds - offset)

/-- An offset with its sign. Only the style with seconds is exact; others are rounded to the
    minute, or cut to the hour. -/
def offsetText (style : OffsetStyle) (offset : Int) : List Char :=
  let size := offset.natAbs
  let sign := if offset < 0 then '-' else '+'
  let two := Rfc3339.padded 2
  let minutes := (size + 30) / 60
  match style with
  | .plain | .lenient => sign :: two (minutes / 60) ++ two (minutes % 60)
  | .colon => sign :: two (minutes / 60) ++ ':' :: two (minutes % 60)
  | .seconds => sign :: two (size / 3600) ++ ':' :: two (size / 60 % 60) ++ ':' :: two (size % 60)
  | .hours => sign :: two (size / 3600)

/-- The name of a zone that has none but its offset. -/
def zoneText (offset : Int) : List Char :=
  let size := offset.natAbs
  let two := Rfc3339.padded 2
  let seconds := if size % 60 = 0 then [] else ':' :: two (size % 60)
  (if offset < 0 then '-' else '+') :: two (size / 3600) ++ ':' :: two (size / 60 % 60) ++ seconds

/-! ## Pieces -/

def pieceText (time : LocalTime) (offset : Int) (piece : DatePiece) : List Char :=
  let month := monthNames.getD (time.date.month - 1) ""
  let weekday := weekdayNames.getD (Weekday.ofDayNumber time.day) ""
  match piece with
  | .literal text => text
  | .blank text => text
  | .numeric part padding => partText time offset part padding
  | .shortMonth => shortName month
  | .longMonth => month.toList
  | .shortWeekday => shortName weekday
  | .longWeekday => weekday.toList
  | .lowerHalfDay => if time.hour < 12 then ['a', 'm'] else ['p', 'm']
  | .upperHalfDay => if time.hour < 12 then ['A', 'M'] else ['P', 'M']
  | .fraction => Rfc3339.fractionText time.fraction
  | .fixedFraction digits point =>
    (if point then ['.'] else []) ++ Rfc3339.padded digits (time.fraction / tenTo (9 - digits))
  | .zoneName => zoneText offset
  | .zoneOffset style => offsetText style offset
  | .rfc3339 => Rfc3339.write time offset false

/-- A local time with its offset in a format. -/
def write (pieces : List DatePiece) (time : LocalTime) (offset : Int) : List Char :=
  pieces.flatMap (pieceText time offset)

end DateFormat
end Formula

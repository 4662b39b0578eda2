-- SUMMARY: Instants in the format of RFC 3339: writing them in a time zone, and reading them.
import Formula.Calendar.Instant
import Formula.Powers

/-! # RFC 3339

The format is date, `T`, time of day with an optional fraction, and the offset of the zone, such as
`2024-02-29T12:30:00.5+01:00`. The writer uses no fraction or one of three, six or nine digits,
whichever is the shortest exact one. The reader accepts any number of digits, of which nine count,
a blank or a small letter in place of `T` and `Z`, and the second 60. -/

namespace Formula
namespace Rfc3339

/-! ## Writing -/

/-- A number with zeros in front, at least `width` digits long. -/
def padded (width n : Nat) : List Char :=
  let digits := Nat.toDigits 10 n
  List.replicate (width - digits.length) '0' ++ digits

/-- A year of four digits; outside of these with a sign and at least four digits. -/
def yearText (year : Int) : List Char :=
  if 0 ≤ year ∧ year ≤ 9999 then padded 4 year.toNat
  else (if year < 0 then '-' else '+') :: padded 4 year.natAbs

/-- A fraction of a second in the fewest of zero, three, six and nine digits. -/
def fractionText (nanos : Nat) : List Char :=
  if nanos = 0 then []
  else if nanos % 1000000 = 0 then '.' :: padded 3 (nanos / 1000000)
  else if nanos % 1000 = 0 then '.' :: padded 6 (nanos / 1000)
  else '.' :: padded 9 nanos

/-- An offset in hours and minutes, rounded to the minute. -/
def offsetText (offset : Int) : List Char :=
  let minutes := (offset.natAbs + 30) / 60
  (if offset < 0 then '-' else '+') :: padded 2 (minutes / 60) ++ ':' :: padded 2 (minutes % 60)

def dateText (date : CivilDate) : List Char :=
  yearText date.year ++ '-' :: padded 2 date.month ++ '-' :: padded 2 date.day

def timeText (time : LocalTime) : List Char :=
  padded 2 time.hour ++ ':' :: padded 2 time.minute ++ ':' :: padded 2 time.second ++
    fractionText time.fraction

/-- A local time with its offset, which is `Z` for universal time if `zulu` is set. -/
def write (time : LocalTime) (offset : Int) (zulu : Bool) : List Char :=
  dateText time.date ++ 'T' :: timeText time ++
    if zulu && offset == 0 then ['Z'] else offsetText offset

end Rfc3339

namespace Instant

/-- The instant in a zone. -/
def textIn (instant : Instant) (offset : Int) : String :=
  String.ofList (Rfc3339.write (instant.toLocal offset) offset true)

/-- The instant in universal time. -/
def text (instant : Instant) : String := instant.textIn 0

end Instant

namespace Rfc3339

/-! ## Reading -/

/-- The value of a list of digits. -/
def digitsValue (digits : List Char) : Nat :=
  digits.foldl (fun n c => 10 * n + (c.toNat - '0'.toNat)) 0

/-- Reads exactly `width` digits. -/
def readDigits (width : Nat) (text : List Char) : Option (Nat × List Char) :=
  let digits := text.take width
  if digits.length = width && digits.all Char.isDigit then
    some (digitsValue digits, text.drop width)
  else none

/-- Reads one of the given characters. -/
def readOneOf (allowed : List Char) (text : List Char) : Option (List Char) :=
  match text with
  | c :: rest => if allowed.contains c then some rest else none
  | [] => none

/-- Reads the digits of a fraction as nanoseconds. Digits after the ninth are passed over. -/
def readFraction (text : List Char) : Option (Nat × List Char) :=
  let digits := text.takeWhile Char.isDigit
  let counted := digits.take 9
  if digits.isEmpty then none
  else some (digitsValue counted * tenTo (9 - counted.length), text.drop digits.length)

/-- Reads a sign, which is also the minus sign of typography. -/
def readSign (text : List Char) : Option (Bool × List Char) :=
  match text with
  | '+' :: rest => some (false, rest)
  | '-' :: rest => some (true, rest)
  | '−' :: rest => some (true, rest)
  | _ => none

/-- Reads an offset: `Z`, or a sign, hours and minutes. -/
def readOffset (text : List Char) : Option (Int × List Char) := do
  match readOneOf ['Z', 'z'] text with
  | some rest => some (0, rest)
  | none =>
    let (negative, rest) ← readSign text
    let (hours, rest) ← readDigits 2 rest
    let rest ← readOneOf [':'] rest
    let (minutes, rest) ← readDigits 2 rest
    if 23 < hours ∨ 59 < minutes then none
    else
      let offset : Int := hours * 3600 + minutes * 60
      some (if negative then -offset else offset, rest)

/-- Reads a date. -/
def readDate (text : List Char) : Option (CivilDate × List Char) := do
  let (year, rest) ← readDigits 4 text
  let rest ← readOneOf ['-'] rest
  let (month, rest) ← readDigits 2 rest
  let rest ← readOneOf ['-'] rest
  let (day, rest) ← readDigits 2 rest
  let date : CivilDate := ⟨year, month, day⟩
  if date.isValid then some (date, rest) else none

/-- Reads a time of day as its second and nanoseconds. The second 60 is a leap second. -/
def readTime (text : List Char) : Option ((Nat × Nat) × List Char) := do
  let (hour, rest) ← readDigits 2 text
  let rest ← readOneOf [':'] rest
  let (minute, rest) ← readDigits 2 rest
  let rest ← readOneOf [':'] rest
  let (second, rest) ← readDigits 2 rest
  let (nanos, rest) ← match rest with
    | '.' :: fraction => readFraction fraction
    | _ => some (0, rest)
  if 23 < hour ∨ 59 < minute ∨ 60 < second then none
  else if second = 60 then
    some ((hour * 3600 + minute * 60 + 59, nanos + nanosPerSecond), rest)
  else some ((hour * 3600 + minute * 60 + second, nanos), rest)

/-- The instant of a text. -/
def read? (text : List Char) : Option Instant := do
  let (date, rest) ← readDate text
  let rest ← readOneOf ['T', 't', ' '] rest
  let ((secondOfDay, nanos), rest) ← readTime rest
  let (offset, rest) ← readOffset rest
  if rest.isEmpty then (LocalTime.ofDate date secondOfDay nanos).toInstant? offset else none

end Rfc3339
end Formula

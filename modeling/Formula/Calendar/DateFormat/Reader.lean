-- SUMMARY: Reading a date in a date format.
import Formula.Calendar.DateFields
import Formula.Calendar.DateFormat.Writer
import Formula.Powers

/-! # Reading dates

Each piece of a format reads something off the front of the text: literal text as it is, any blanks
for a blank, and digits up to the width of a part, after any blanks. Names are read in any letter
case, and long names also in their short form. -/

namespace Formula
namespace DateFormat

/-! ## Numbers -/

/-- Reads one to `width` digits. -/
def readNumber (width : Nat) (text : List Char) : Option (Int × List Char) :=
  let digits := (text.takeWhile Char.isDigit).take width
  let value := Rfc3339.digitsValue digits
  if digits.isEmpty || decide (twoTo 63 ≤ value) then none
  else some (value, text.drop digits.length)

/-- Reads a number that can have a sign; with a sign its width has no bound. -/
def readSigned (width : Nat) (text : List Char) : Option (Int × List Char) :=
  match text with
  | '-' :: rest => (readNumber rest.length rest).map fun (n, rest) => (-n, rest)
  | '+' :: rest => readNumber rest.length rest
  | _ => readNumber width text

/-- The most digits of a part. -/
def partWidth : DatePart → Nat
  | .year | .isoYear => 4
  | .ordinal => 3
  | .quarter | .weekdayFromSunday | .weekdayFromMonday => 1
  | .nanosecond => 9
  | .timestamp => 20000000
  | _ => 2

/-- Whether a part can have a sign. -/
def partSigned : DatePart → Bool
  | .year | .isoYear | .timestamp => true
  | _ => false

/-- Reads a numeric part. -/
def readPart (part : DatePart) (text : List Char) : Option (Int × List Char) :=
  let text := Text.trimStart text
  if partSigned part then readSigned (partWidth part) text else readNumber (partWidth part) text

/-- Reads exactly `width` digits of a fraction as nanoseconds. -/
def readFixedFraction (width : Nat) (text : List Char) : Option (Int × List Char) :=
  (Rfc3339.readDigits width text).map fun (n, rest) => ((n * tenTo (9 - width) : Nat), rest)

/-! ## Names -/

/-- Takes a word off the front of the text in any case of its ASCII letters. -/
def takeWord (word text : List Char) : Option (List Char) :=
  let front := text.take word.length
  if front.map Char.toLower == word.map Char.toLower then some (text.drop word.length) else none

/-- Reads one of the names: its first three letters, and the others if they follow and `long` is
    set. The result is the place of the name. -/
def readName (names : List String) (long : Bool) (text : List Char) : Option (Int × List Char) := do
  let index ← names.findIdx? fun name => (takeWord (shortName name) text).isSome
  let name := (names.getD index "").toList
  let rest := text.drop 3
  some (index, if long then (takeWord (name.drop 3) rest).getD rest else rest)

/-- Reads the half of the day: zero for `am` and one for `pm`. -/
def readHalfDay (text : List Char) : Option (Int × List Char) :=
  match takeWord ['a', 'm'] text with
  | some rest => some (0, rest)
  | none => (takeWord ['p', 'm'] text).map (1, ·)

/-! ## Offsets -/

/-- Passes over colons and blanks. -/
def skipColons (text : List Char) : List Char :=
  text.dropWhile fun c => c == ':' || Text.isBlank c

/-- Reads the minutes of an offset, which can be left out at the end of the text if `optional` is
    set. -/
def readOffsetMinutes (optional : Bool) (text : List Char) : Option (Nat × List Char) :=
  if optional && text.isEmpty then some (0, []) else Rfc3339.readDigits 2 text

/-- Reads an offset of hours and minutes, with anything between them that is a colon or blank. It
    can be a `Z` if `zulu` is set, and do without minutes if `optional` is set. -/
def readOffset (zulu optional : Bool) (text : List Char) : Option (Int × List Char) := do
  match if zulu then Rfc3339.readOneOf ['Z', 'z'] text else none with
  | some rest => some (0, rest)
  | none =>
    let (negative, rest) ← Rfc3339.readSign text
    let (hours, rest) ← Rfc3339.readDigits 2 rest
    let (minutes, rest) ← readOffsetMinutes optional (skipColons rest)
    if 59 < minutes then none
    else
      let offset : Int := hours * 3600 + minutes * 60
      some (if negative then -offset else offset, rest)

/-! ## Pieces -/

/-- Stores what a reader found. -/
def store (set : Int → Option DateFields) (found : Option (Int × List Char)) :
    Option (DateFields × List Char) := do
  let (n, rest) ← found
  return (← set n, rest)

/-- Reads a fraction behind a point, if there is one. -/
def readFractionPiece (fields : DateFields) (text : List Char)
    (read : List Char → Option (Int × List Char)) : Option (DateFields × List Char) :=
  match text with
  | '.' :: rest => store fields.setNanosecond (read rest)
  | _ => some (fields, text)

/-- Reads numeric parts with characters between them, which can follow blanks. -/
def readParts (parts : List (DatePart × Option Char)) (fields : DateFields) (text : List Char) :
    Option (DateFields × List Char) :=
  match parts with
  | [] => some (fields, text)
  | (part, between) :: others => do
    let (fields, rest) ← store (fields.set part) (readPart part text)
    let rest ← match between with
      | some c => Rfc3339.readOneOf [c] (Text.trimStart rest)
      | none => some rest
    readParts others fields rest

/-- The fraction of a second with any number of digits. -/
def readFraction (text : List Char) : Option (Int × List Char) :=
  (Rfc3339.readFraction text).map fun (n, rest) => ((n : Int), rest)

/-- Reads a date and time as RFC 3339 writes them, but with blanks and without fixed widths. -/
def readRfc3339 (fields : DateFields) (text : List Char) : Option (DateFields × List Char) := do
  let (fields, rest) ← readParts [(.year, some '-'), (.month, some '-'), (.day, none)] fields text
  let rest ← Rfc3339.readOneOf ['T', 't', ' '] rest
  let (fields, rest) ←
    readParts [(.hour, some ':'), (.minute, some ':'), (.second, none)] fields rest
  let (fields, rest) ← readFractionPiece fields rest readFraction
  let rest := Text.trimStart rest
  match takeWord ['U', 'T', 'C'] rest with
  | some rest => return (← fields.setOffset 0, rest)
  | none => store fields.setOffset (readOffset true false rest)

/-- Reads what a piece stands for. -/
def readPiece (piece : DatePiece) (fields : DateFields) (text : List Char) :
    Option (DateFields × List Char) :=
  match piece with
  | .literal word => if word.isPrefixOf text then some (fields, text.drop word.length) else none
  | .blank _ => some (fields, Text.trimStart text)
  | .numeric part _ => store (fields.set part) (readPart part text)
  | .shortMonth => store (fun n => fields.setMonth (n + 1)) (readName monthNames false text)
  | .longMonth => store (fun n => fields.setMonth (n + 1)) (readName monthNames true text)
  | .shortWeekday => store fields.setWeekday (readName weekdayNames false text)
  | .longWeekday => store fields.setWeekday (readName weekdayNames true text)
  | .lowerHalfDay => store fields.setHalfDay (readHalfDay text)
  | .upperHalfDay => store fields.setHalfDay (readHalfDay text)
  | .fraction => readFractionPiece fields text readFraction
  | .fixedFraction digits true => readFractionPiece fields text (readFixedFraction digits)
  | .fixedFraction digits false => store fields.setNanosecond (readFixedFraction digits text)
  | .zoneName => some (fields, text.dropWhile (!Text.isBlank ·))
  | .zoneOffset style =>
    let lenient := style == .lenient
    store fields.setOffset (readOffset lenient lenient (Text.trimStart text))
  | .rfc3339 => readRfc3339 fields text

/-- The fields that a text gives in a format, if all of it is read. -/
def read? (pieces : List DatePiece) (text : List Char) : Option DateFields := do
  let (fields, rest) ← pieces.foldlM (fun (fields, rest) piece => readPiece piece fields rest)
    (DateFields.empty, text)
  if rest.isEmpty then some fields else none

/-! ## Instants -/

/-- What a text in a format stands for: an instant if it says its zone, and otherwise a local time,
    which is midnight if only a date is given. -/
inductive Reading where
  | instant (value : Instant)
  | local (value : LocalTime)

/-- Reads a text in a format. -/
def reading? (pieces : List DatePiece) (text : List Char) : Option Reading := do
  let fields ← read? pieces text
  match fields.toInstant? with
  | some instant => some (.instant instant)
  | none =>
    match fields.toLocal? 0 with
    | some time => some (.local time)
    | none =>
      match fields.toDay with
      | .ok day => some (.local (DateFields.localTime day (0, 0)))
      | .error _ => none

end DateFormat
end Formula

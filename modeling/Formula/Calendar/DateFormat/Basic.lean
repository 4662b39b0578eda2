-- SUMMARY: Format patterns of dates and times, as lists of pieces.
import Formula.Text.Letter

/-! # Date formats

A format is text with directives, which begin with a percent sign: `%Y` stands for the year, `%H`
for the hour, and so on. Some directives stand for several pieces. A flag before a numeric
directive chooses how it is padded: `-` not at all, `_` with blanks, `0` with zeros. -/

namespace Formula

/-- A numeric part of a date and time. -/
inductive DatePart where
  | year
  | century
  | yearOfCentury
  | isoYear
  | isoYearOfCentury
  | quarter
  | month
  | day
  | weekFromSunday
  | weekFromMonday
  | isoWeek
  | weekdayFromSunday
  | weekdayFromMonday
  | ordinal
  | hour
  | hour12
  | minute
  | second
  | nanosecond
  | timestamp
deriving DecidableEq

/-- How a number is padded to its width. -/
inductive Padding where
  | none
  | zeros
  | blanks
deriving DecidableEq

/-- How an offset is written: `+0130`, `+01:30`, `+01:30:00` or `+01`. The lenient style is that of
    reading `+01` and `Z` as well. -/
inductive OffsetStyle where
  | plain
  | colon
  | seconds
  | hours
  | lenient
deriving DecidableEq

/-- A piece of a format. -/
inductive DatePiece where
  | literal (text : List Char)
  | blank (text : List Char)
  | numeric (part : DatePart) (padding : Padding)
  | shortMonth
  | longMonth
  | shortWeekday
  | longWeekday
  | lowerHalfDay
  | upperHalfDay
  | fraction
  | fixedFraction (digits : Nat) (point : Bool)
  | zoneName
  | zoneOffset (style : OffsetStyle)
  | rfc3339

namespace DateFormat

open DatePiece

/-! ## Directives -/

/-- Text between directives. -/
private def lit (c : Char) : DatePiece := literal [c]

/-- The pieces of hours, minutes and seconds. -/
def clock (hours : DatePart) : List DatePiece := [
  numeric hours .zeros, lit ':', numeric .minute .zeros, lit ':', numeric .second .zeros]

/-- The pieces of month, day and year with slashes. -/
def slashedDate : List DatePiece := [
  numeric .month .zeros, lit '/', numeric .day .zeros, lit '/', numeric .yearOfCentury .zeros]

/-- The pieces that a directive of one character stands for. -/
def directive (c : Char) : Option (List DatePiece) :=
  match c with
  | 'A' => some [longWeekday]
  | 'B' => some [longMonth]
  | 'C' => some [numeric .century .zeros]
  | 'D' => some slashedDate
  | 'F' => some [
      numeric .year .zeros, lit '-', numeric .month .zeros, lit '-', numeric .day .zeros]
  | 'G' => some [numeric .isoYear .zeros]
  | 'H' => some [numeric .hour .zeros]
  | 'I' => some [numeric .hour12 .zeros]
  | 'M' => some [numeric .minute .zeros]
  | 'P' => some [lowerHalfDay]
  | 'R' => some [numeric .hour .zeros, lit ':', numeric .minute .zeros]
  | 'S' => some [numeric .second .zeros]
  | 'T' => some (clock .hour)
  | 'U' => some [numeric .weekFromSunday .zeros]
  | 'V' => some [numeric .isoWeek .zeros]
  | 'W' => some [numeric .weekFromMonday .zeros]
  | 'X' => some (clock .hour)
  | 'Y' => some [numeric .year .zeros]
  | 'Z' => some [zoneName]
  | 'a' => some [shortWeekday]
  | 'b' => some [shortMonth]
  | 'c' => some ([
      shortWeekday, blank [' '], shortMonth, blank [' '], numeric .day .blanks, blank [' ']] ++
      clock .hour ++ [blank [' '], numeric .year .zeros])
  | 'd' => some [numeric .day .zeros]
  | 'e' => some [numeric .day .blanks]
  | 'f' => some [numeric .nanosecond .zeros]
  | 'g' => some [numeric .isoYearOfCentury .zeros]
  | 'h' => some [shortMonth]
  | 'j' => some [numeric .ordinal .zeros]
  | 'k' => some [numeric .hour .blanks]
  | 'l' => some [numeric .hour12 .blanks]
  | 'm' => some [numeric .month .zeros]
  | 'n' => some [blank ['\n']]
  | 'p' => some [upperHalfDay]
  | 'q' => some [numeric .quarter .none]
  | 'r' => some (clock .hour12 ++ [blank [' '], upperHalfDay])
  | 's' => some [numeric .timestamp .none]
  | 't' => some [blank ['\t']]
  | 'u' => some [numeric .weekdayFromMonday .none]
  | 'v' => some [
      numeric .day .blanks, lit '-', shortMonth, lit '-', numeric .year .zeros]
  | 'w' => some [numeric .weekdayFromSunday .none]
  | 'x' => some slashedDate
  | 'y' => some [numeric .yearOfCentury .zeros]
  | 'z' => some [zoneOffset .plain]
  | '+' => some [rfc3339]
  | '%' => some [lit '%']
  | _ => none

/-- The padding that a flag chooses. -/
def paddingFlag (c : Char) : Option Padding :=
  match c with
  | '-' => some .none
  | '0' => some .zeros
  | '_' => some .blanks
  | _ => none

/-- The number of digits of a fraction that is written out. -/
def fractionWidth (c : Char) : Option Nat :=
  match c with
  | '3' => some 3
  | '6' => some 6
  | '9' => some 9
  | _ => none

/-- The pieces of the directive after a percent sign, and the number of its characters. -/
def readDirective (text : List Char) : Option (List DatePiece × Nat) :=
  match text with
  | ':' :: ':' :: ':' :: 'z' :: _ => some ([zoneOffset .hours], 4)
  | ':' :: ':' :: 'z' :: _ => some ([zoneOffset .seconds], 3)
  | ':' :: 'z' :: _ => some ([zoneOffset .colon], 2)
  | '#' :: 'z' :: _ => some ([zoneOffset .lenient], 2)
  | '.' :: 'f' :: _ => some ([fraction], 2)
  | '.' :: c :: 'f' :: _ => (fractionWidth c).map fun digits => ([fixedFraction digits true], 3)
  | c :: rest =>
    match paddingFlag c, rest with
    | some padding, spec :: _ =>
      match directive spec with
      | some [numeric part _] => some ([numeric part padding], 2)
      | _ => none
    | some _, [] => none
    | none, _ =>
      match fractionWidth c, rest with
      | some digits, 'f' :: _ => some ([fixedFraction digits false], 2)
      | _, _ => (directive c).map (·, 1)
  | [] => none

/-! ## Formats -/

/-- Whether a character ends the literal text before it. -/
def endsLiteral (c : Char) : Bool := Text.isBlank c || c == '%'

/-- The pieces of a format, or none if a directive is not valid. -/
def parse (text : List Char) : Option (List DatePiece) :=
  match text with
  | [] => some []
  | c :: rest =>
    if c = '%' then
      match readDirective rest with
      | none => none
      | some (pieces, width) => (parse (rest.drop width)).map (pieces ++ ·)
    else if Text.isBlank c then
      let run := rest.takeWhile Text.isBlank
      (parse (rest.drop run.length)).map (blank (c :: run) :: ·)
    else
      let run := rest.takeWhile (!endsLiteral ·)
      (parse (rest.drop run.length)).map (literal (c :: run) :: ·)
termination_by text.length

end DateFormat
end Formula

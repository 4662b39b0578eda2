-- SUMMARY: The built-in functions on dates, times and spans.
import Formula.Calendar.DateFormat.Reader
import Formula.Call
import Formula.Powers

/-! # Functions on time

Dates are built, read and written in the zone of the settings; an instant itself has no zone. -/

namespace Formula
namespace BuiltIn

/-! ## Arguments and results -/

/-- The argument of an index, which has to be an instant. -/
def instantArgument (token : Token) (arguments : List Value) (index : Nat) :
    Except EvalError Instant :=
  match arguments[index]? with
  | some (.instant value) => .ok value
  | some other => .error (token.unsupported (.instantExpected other.type))
  | none => .error (token.unsupported (.missingArgument index))

/-- The argument of an index, which has to be a span. -/
def spanArgument (token : Token) (arguments : List Value) (index : Nat) : Except EvalError Span :=
  match arguments[index]? with
  | some (.span value) => .ok value
  | some other => .error (token.unsupported (.spanExpected other.type))
  | none => .error (token.unsupported (.missingArgument index))

/-- The part of a date or time at an index, which is zero if it is left out. -/
def partArgument (token : Token) (arguments : List Value) (index : Nat) (name : String) :
    Except EvalError Nat := do
  if arguments.length ≤ index then return 0
  let n ← token.integerArgument arguments index
  if 0 ≤ n ∧ n < twoTo 32 then return n.toNat
  throw (token.invalidParameter name .negative)

/-- The instant of a local time in the zone of the settings. -/
def inZone (context : CallContext) (token : Token) (time : LocalTime) : Except EvalError Value := do
  return .instant (← token.orFault .instantRange (time.toInstant? context.settings.zoneOffset))

/-! ## Instants -/

/-- The date of the first three arguments. -/
def dateArguments (token : Token) (arguments : List Value) : Except EvalError CivilDate := do
  let year ← token.integerArgument arguments 0
  if year < -(twoTo 31 : Int) ∨ twoTo 31 ≤ year then
    throw (token.invalidParameter "year" .outOfRange)
  let month ← partArgument token arguments 1 "month"
  let day ← partArgument token arguments 2 "day"
  let date : CivilDate := ⟨year, month, day⟩
  if DateFields.inRange year && date.isValid then return date
  throw (token.invalidParameter "day" .notDate)

/-- An instant of year, month and day, with hour, minute, second and nanoseconds if they are
    given. -/
def dateNew (context : CallContext) (token : Token) (arguments : List Value) :
    Except EvalError Value := do
  if 7 < arguments.length then throw (token.invalidParameter "time" .atMostFour)
  let date ← dateArguments token arguments
  let hour ← partArgument token arguments 3 "hour"
  let minute ← partArgument token arguments 4 "minute"
  let second ← partArgument token arguments 5 "second"
  let nanos ← partArgument token arguments 6 "nanos"
  match LocalTime.ofClock? date hour minute second nanos with
  | some time => inZone context token time
  | none => throw (token.invalidParameter "time" .notTime)

/-- The formats of dates that are read if no format is given. -/
def usualFormats : List String := [
  "%Y-%m-%dT%H:%M:%S%.f", "%Y-%m-%d %H:%M:%S%.f", "%Y-%m-%d"]

/-- Reads a text in a format. -/
def readInFormat (text : List Char) (format : String) : Option DateFormat.Reading := do
  DateFormat.reading? (← DateFormat.parse format.toList) text

/-- Reads a text in the first format that fits. A text that names no zone is local. -/
def readDate (context : CallContext) (token : Token) (text : List Char) (formats : List String) :
    Except EvalError Value :=
  match formats.findSome? (readInFormat text) with
  | some (.instant instant) => .ok (.instant instant)
  | some (.local time) => inZone context token time
  | none => .error (token.invalidParameter "value" .notParsed)

/-- Reads a text in the formats that are given, or else as RFC 3339 or in a usual format. -/
def dateParse (context : CallContext) (token : Token) (arguments : List Value) :
    Except EvalError Value := do
  let text := (← token.textArgument arguments 0).toList
  match arguments.drop 1 with
  | [] =>
    match Rfc3339.read? (Text.trim text) with
    | some instant => return .instant instant
    | none => readDate context token text usualFormats
  | formats => readDate context token text (formats.map Value.toText)

/-- Writes an instant in a format, or else as RFC 3339. -/
def dateFormat (context : CallContext) (token : Token) (arguments : List Value) :
    Except EvalError Value := do
  if 2 < arguments.length then throw (token.invalidParameter "format" .singleValue)
  let instant ← instantArgument token arguments 0
  let offset := context.settings.zoneOffset
  match arguments[1]? with
  | none => return .text (instant.textIn offset)
  | some format =>
    match DateFormat.parse format.toText.toList with
    | some pieces =>
      return .text (String.ofList (DateFormat.write pieces (instant.toLocal offset) offset))
    | none => throw (token.invalidParameter "format" .notFormat)

def dateToEpoch (token : Token) (arguments : List Value) : Except EvalError Value := do
  return .ofInt (← instantArgument token arguments 0).toMillis

/-- The beginning of the present day. -/
def today (context : CallContext) (token : Token) : Except EvalError Value :=
  inZone context token (context.ambient.now.toLocal context.settings.zoneOffset).midnight

/-! ## Spans -/

/-- The nanoseconds of a day, an hour, a minute, a second and a nanosecond. -/
def spanUnits : List Nat :=
  [86400 * nanosPerSecond, 3600 * nanosPerSecond, 60 * nanosPerSecond, nanosPerSecond, 1]

/-- Adds the arguments from an index on, one for each unit, as far as there are any. -/
def addUnits (token : Token) (arguments : List Value) :
    List Nat → Nat → Span → Except EvalError Span
  | [], _, total => .ok total
  | unit :: units, index, total =>
    if arguments.length ≤ index then .ok total
    else do
      let count ← token.integerArgument arguments index
      match (Span.ofUnits? count unit).bind total.add? with
      | some total => addUnits token arguments units (index + 1) total
      | none => throw (token.invalidParameter "time" .outOfRange)

/-- A span of days, with hours, minutes, seconds and nanoseconds if they are given. -/
def durationNew (token : Token) (arguments : List Value) : Except EvalError Value := do
  if 5 < arguments.length then throw (token.invalidParameter "time" .atMostFour)
  return .span (← addUnits token arguments spanUnits 0 .zero)

def durationOfMillis (token : Token) (arguments : List Value) : Except EvalError Value := do
  match Span.ofMillis? (← token.integerArgument arguments 0) with
  | some span => return .span span
  | none => throw (token.invalidParameter "millis" .outOfRange)

def durationToMillis (token : Token) (arguments : List Value) : Except EvalError Value := do
  return .ofInt (← spanArgument token arguments 0).toMillis

end BuiltIn
end Formula

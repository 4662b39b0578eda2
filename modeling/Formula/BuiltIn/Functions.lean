-- SUMMARY: The built-in functions: their names and parameters, and what each of them does.
import Formula.BuiltIn.Numeric
import Formula.BuiltIn.Operators
import Formula.BuiltIn.Strings
import Formula.BuiltIn.Time
import Formula.BuiltIn.Trigonometry

/-! # Built-in functions

Conditional functions get their branches as trees and evaluate only what they need. -/

namespace Formula
namespace BuiltIn

/-! ## Conditional functions -/

/-- One of two branches, by a condition. -/
def choose (context : CallContext) (arguments : List Value) : Except EvalError Value :=
  match arguments with
  | [condition, whenTrue, whenFalse] =>
    context.force (if condition.toBool then whenTrue else whenFalse)
  | _ => .ok .null

/-- The result of the first case that equals a value, or else the last argument if it has no
    result, or else nothing. -/
def switchCases (context : CallContext) (value : Value) : List Value → Except EvalError Value
  | candidate :: result :: rest => do
    if value.equal (← context.force candidate) then context.force result
    else switchCases context value rest
  | [otherwise] => context.force otherwise
  | [] => .ok .null

def switch (context : CallContext) (arguments : List Value) : Except EvalError Value :=
  match arguments with
  | [] => .ok .null
  | value :: cases => switchCases context value cases

/-- The first argument that is something. -/
def coalesce (arguments : List Value) : Value := (arguments.find? (!·.isNull)).getD .null

/-- A random number for the place of the call. -/
def random (context : CallContext) (token : Token) : Except EvalError Value := do
  return .number
    (← token.orFault .randomRange (Decimal.ofFloat? (context.ambient.random token.position)))

/-! ## What functions do -/

/-- What a function does; the actions of the host are looked up by their number. -/
def applyFunction (host : Array Behaviour) (context : CallContext) (token : Token)
    (action : FunctionAction) (arguments : List Value) : Except EvalError Value :=
  match action with
  | .abs => mapNumber token arguments Decimal.abs
  | .ceiling => mapNumber token arguments Decimal.ceil
  | .floor => mapNumber token arguments Decimal.floor
  | .round => round context token arguments
  | .sqrt => mapNumber? token arguments .rootFailed Decimal.sqrt?
  | .ln => mapNumber? token arguments .logarithmFailed Decimal.ln?
  | .log10 => mapNumber? token arguments .logarithmFailed Decimal.log10?
  | .factorial => factorial token arguments
  | .sum => sum token arguments
  | .average => average token arguments
  | .min => extreme token arguments Decimal.less
  | .max => extreme token arguments fun a b => b.less a
  | .random => random context token
  | .not => .ok (not arguments)
  | .coalesce => .ok (coalesce arguments)
  | .choose => choose context arguments
  | .switch => switch context arguments
  | .sin => mapFloat token arguments Float.sin
  | .cos => mapFloat token arguments Float.cos
  | .tan => mapFloat token arguments Float.tan
  | .asin => mapFloat token arguments Float.asin
  | .acos => mapFloat token arguments Float.acos
  | .atan => mapFloat token arguments Float.atan
  | .atan2 => angleOf token arguments
  | .sinh => mapFloat token arguments Float.sinh
  | .cosh => mapFloat token arguments Float.cosh
  | .tanh => mapFloat token arguments Float.tanh
  | .radians => mapFloat token arguments (· * radiansPerDegree)
  | .degrees => mapFloat token arguments (· * degreesPerRadian)
  | .contains => relateTexts token arguments fun text part => occursIn part text
  | .startsWith => relateTexts token arguments fun text part => part.isPrefixOf text
  | .endsWith => relateTexts token arguments fun text part => part.isSuffixOf text
  | .lower => mapText token arguments fun text => .text (Text.lower text)
  | .upper => mapText token arguments fun text => .text (Text.upper text)
  | .trim => mapText token arguments fun text => .text (String.ofList (Text.trim text.toList))
  | .length => mapText token arguments fun text => .ofInt text.length
  | .left => takePart token arguments leftPart
  | .right => takePart token arguments rightPart
  | .substring => substring token arguments
  | .split => split token arguments
  | .matchesPattern => matchesPattern token arguments
  | .dateNew => dateNew context token arguments
  | .dateParse => dateParse context token arguments
  | .dateFormat => dateFormat context token arguments
  | .dateToEpoch => dateToEpoch token arguments
  | .now => .ok (.instant context.ambient.now)
  | .today => today context token
  | .durationNew => durationNew token arguments
  | .durationOfMillis => durationOfMillis token arguments
  | .durationToMillis => durationToMillis token arguments
  | .host number =>
    match host[number]? with
    | some behaviour => behaviour context token arguments
    | none => .error token.unexpected

/-! ## All functions -/

/-- A signature of plain parameters, of which the last one is variadic. -/
def variadic (names : List String) (last : String) : Signature :=
  ⟨(Signature.plain names).parameters ++ [{ name := last, variadic := true }]⟩

/-- The parameter of functions of numbers that are not negative. -/
def natural (name : String) : Parameter := { name := name, nonNegative := true }

/-- The parameter of functions of positive numbers. -/
def positive (name : String) : Parameter := { natural name with nonZero := true }

/-- A parameter that gets a tree. -/
def onDemand (name : String) : Parameter := { name := name, lazy := true }

/-- The functions on numbers and conditions by name. -/
def basicFunctions : List (String × LibraryFunction) := [
  ("ABS", ⟨.plain ["value"], .abs⟩),
  ("CEILING", ⟨.plain ["value"], .ceiling⟩),
  ("FLOOR", ⟨.plain ["value"], .floor⟩),
  ("NOT", ⟨.plain ["value"], .not⟩),
  ("RANDOM", ⟨.plain [], .random⟩),
  ("ROUND", ⟨.plain ["value", "scale"], .round⟩),
  ("SUM", ⟨variadic [] "values", .sum⟩),
  ("AVERAGE", ⟨variadic ["first"] "values", .average⟩),
  ("MIN", ⟨variadic ["first"] "values", .min⟩),
  ("MAX", ⟨variadic ["first"] "values", .max⟩),
  ("COALESCE", ⟨variadic [] "values", .coalesce⟩),
  ("FACT", ⟨⟨[natural "base"]⟩, .factorial⟩),
  ("SQRT", ⟨⟨[natural "value"]⟩, .sqrt⟩),
  ("LOG", ⟨⟨[positive "value"]⟩, .ln⟩),
  ("LOG10", ⟨⟨[positive "value"]⟩, .log10⟩),
  ("IF", ⟨⟨[{ name := "condition" }, onDemand "resultIfTrue", onDemand "resultIfFalse"]⟩, .choose⟩),
  ("SWITCH", ⟨⟨[{ name := "expression" }, { onDemand "cases" with variadic := true }]⟩, .switch⟩)]

/-- The functions on angles by name. -/
def angleFunctions : List (String × LibraryFunction) := [
  ("SIN", ⟨.plain ["value"], .sin⟩),
  ("COS", ⟨.plain ["value"], .cos⟩),
  ("TAN", ⟨.plain ["value"], .tan⟩),
  ("ASIN", ⟨.plain ["value"], .asin⟩),
  ("ACOS", ⟨.plain ["value"], .acos⟩),
  ("ATAN", ⟨.plain ["value"], .atan⟩),
  ("SINH", ⟨.plain ["value"], .sinh⟩),
  ("COSH", ⟨.plain ["value"], .cosh⟩),
  ("TANH", ⟨.plain ["value"], .tanh⟩),
  ("RAD", ⟨.plain ["value"], .radians⟩),
  ("DEG", ⟨.plain ["value"], .degrees⟩),
  ("ATAN2", ⟨.plain ["y", "x"], .atan2⟩)]

/-- The functions on text by name. -/
def textFunctions : List (String × LibraryFunction) := [
  ("STR_CONTAINS", ⟨.plain ["string", "substring"], .contains⟩),
  ("STR_STARTS_WITH", ⟨.plain ["string", "prefix"], .startsWith⟩),
  ("STR_ENDS_WITH", ⟨.plain ["string", "suffix"], .endsWith⟩),
  ("STR_LOWER", ⟨.plain ["string"], .lower⟩),
  ("STR_UPPER", ⟨.plain ["string"], .upper⟩),
  ("STR_TRIM", ⟨.plain ["string"], .trim⟩),
  ("STR_LENGTH", ⟨.plain ["string"], .length⟩),
  ("STR_LEFT", ⟨.plain ["string", "length"], .left⟩),
  ("STR_RIGHT", ⟨.plain ["string", "length"], .right⟩),
  ("STR_SUBSTRING", ⟨variadic ["string", "start"] "end", .substring⟩),
  ("STR_SPLIT", ⟨.plain ["string", "separator"], .split⟩),
  ("STR_MATCHES", ⟨.plain ["string", "pattern"], .matchesPattern⟩)]

/-- The functions on time by name. -/
def timeFunctions : List (String × LibraryFunction) := [
  ("DT_DATE_NEW", ⟨variadic ["year", "month", "day"] "time", .dateNew⟩),
  ("DT_DATE_PARSE", ⟨variadic ["value"] "formats", .dateParse⟩),
  ("DT_DATE_FORMAT", ⟨variadic ["value"] "format", .dateFormat⟩),
  ("DT_DATE_TO_EPOCH", ⟨.plain ["value"], .dateToEpoch⟩),
  ("DT_NOW", ⟨.plain [], .now⟩),
  ("DT_TODAY", ⟨.plain [], .today⟩),
  ("DT_DURATION_NEW", ⟨variadic ["days"] "time", .durationNew⟩),
  ("DT_DURATION_FROM_MILLIS", ⟨.plain ["millis"], .durationOfMillis⟩),
  ("DT_DURATION_TO_MILLIS", ⟨.plain ["duration"], .durationToMillis⟩)]

/-- The built-in functions by name. -/
def functions : List (String × LibraryFunction) :=
  basicFunctions ++ angleFunctions ++ textFunctions ++ timeFunctions

def functionTable : FunctionTable := FunctionTable.empty.extend functions

end BuiltIn
end Formula

-- SUMMARY: The commands on formulas: evaluation with variables from JSON, a check of the syntax, and the tree.
import Formula.Session
import Formula.Value.Json

/-! # Commands

A command takes a formula as text and variables as JSON, and answers JSON. Its errors say which part
of the input they come from. -/

namespace Formula

inductive CommandError where
  | parse (error : ParseError)
  | evaluation (error : EvalError)
  | json
  | invalidVariable (text : String)
  | variablesNotObject
deriving DecidableEq

namespace CommandError

/-- The report of an error. -/
def message : CommandError → String
  | parse error => "Parse error: " ++ error.message
  | evaluation error => "Evaluation error: " ++ error.message
  | json => "Invalid JSON"
  | invalidVariable text => "Invalid variable '" ++ text ++ "', expected NAME=VALUE"
  | variablesNotObject => "Variables must be given as a JSON object"

end CommandError

namespace Command

/-- A value written as JSON, or else the text itself. -/
def readValue (text : String) : Value :=
  match Json.parse? text with
  | some json => .ofJson json
  | none => .text text

/-- A variable written as a name and a value with an equals sign between them. -/
def readVariable (text : String) : Except CommandError (String × Value) :=
  let chars := text.toList
  let name := chars.takeWhile (· != '=')
  let trimmed := Text.trim name
  match chars.drop name.length with
  | _ :: value =>
    if trimmed.isEmpty then .error (.invalidVariable text)
    else .ok (String.ofList trimmed, readValue (String.ofList value))
  | [] => .error (.invalidVariable text)

/-- What an evaluation is asked for. -/
structure Request where
  formula : String
  bindings : List (String × Value) := []
  input : Option String := none
  decimalPlaces : Option Nat := none

namespace Request

def configuration (request : Request) : Configuration :=
  let settings := { Settings.standard with decimalPlaces := request.decimalPlaces }
  Configuration.standard.withSettings settings

/-- The variables of the input, which has to be a JSON object. -/
def inputVariables (request : Request) : Except CommandError (List (String × Value)) :=
  match request.input with
  | none => .ok []
  | some text =>
    match Json.parse? text with
    | none => .error .json
    | some (.object fields) => .ok (fields.map fun field => (field.1, .ofJson field.2))
    | some _ => .error .variablesNotObject

/-- The session with the variables of the input, and then those given one by one. -/
def session (request : Request) : Except CommandError Session := do
  let start := Session.start request.formula request.configuration
  match start.setAll ((← request.inputVariables) ++ request.bindings) with
  | .ok session => return session
  | .error error => throw (.evaluation error)

/-- The value of the formula as JSON. -/
def evaluate (request : Request) (ambient : Ambient) : Except CommandError Json := do
  match (← request.session).evaluate ambient with
  | .ok value => return value.toJson
  | .error error => throw (.evaluation error)

/-- Checks the syntax of the formula only. -/
def checkSyntax (request : Request) : Except CommandError Unit :=
  match request.configuration.parse request.formula with
  | .ok _ => .ok ()
  | .error error => .error (.parse error)

end Request

/-- The tree of a formula as JSON. -/
def treeOf (formula : String) : Except CommandError Json :=
  match Configuration.standard.parse formula with
  | .ok tree => .ok tree.toJson
  | .error error => .error (.parse error)

end Command
end Formula

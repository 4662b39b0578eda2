-- SUMMARY: Command lines: which commands and options there are, and what a command prints.
import Formula.Command.Basic
import Formula.Powers

/-! # Command lines

The first argument names the command: `eval`, `check` or `ast`. Each takes one formula. Options can
stand anywhere behind the command, up to an argument of two hyphens. A command line that does not
follow these rules has exit code 2, and a command that fails has exit code 1. -/

namespace Formula
namespace Command

/-! ## Arguments -/

/-- The options of a command: those that take a value, and those that do not, with their letters. -/
structure OptionRules where
  valued : List String
  flags : List (String × Char)

/-- What the arguments of a command give: values and flags in their order. -/
structure Arguments where
  formulas : List String := []
  values : List (String × String) := []
  flags : List String := []

namespace Arguments

def addFormula (given : Arguments) (formula : String) : Arguments :=
  { given with formulas := given.formulas ++ [formula] }

def addValue (given : Arguments) (name value : String) : Arguments :=
  { given with values := given.values ++ [(name, value)] }

def addFlag (given : Arguments) (name : String) : Arguments :=
  { given with flags := given.flags ++ [name] }

/-- Adds the flags of a row of letters. -/
def addLetters (rules : OptionRules) : Arguments → List Char → Option Arguments
  | given, [] => some given
  | given, letter :: rest =>
    match rules.flags.find? (·.2 == letter) with
    | some (name, _) => addLetters rules (given.addFlag name) rest
    | none => none

/-- Whether an argument looks like an option. A single hyphen does not. -/
def looksLikeOption (argument : String) : Bool :=
  match argument.toList with
  | '-' :: _ :: _ => true
  | _ => false

/-- Splits an option at its first equals sign. -/
def splitOption (option : List Char) : String × Option String :=
  let name := option.takeWhile (· != '=')
  match option.drop name.length with
  | _ :: value => (String.ofList name, some (String.ofList value))
  | [] => (String.ofList name, none)

/-- Adds an option that is written out, with the arguments after it. -/
def addOption (rules : OptionRules) (given : Arguments) (option : List Char)
    (rest : List String) : Option (Arguments × List String) :=
  let (name, attached) := splitOption option
  if rules.valued.contains name then
    match attached, rest with
    | some value, rest => some (given.addValue name value, rest)
    | none, value :: rest =>
      if looksLikeOption value then none else some (given.addValue name value, rest)
    | none, [] => none
  else if attached.isNone && rules.flags.any (·.1 == name) then some (given.addFlag name, rest)
  else none

/-- Reads arguments one after the other. An option takes one of those after it at most. -/
def readFrom (rules : OptionRules) (given : Arguments) (arguments : List String) :
    Option Arguments :=
  match arguments with
  | [] => some given
  | argument :: rest =>
    match argument.toList with
    | ['-', '-'] => some { given with formulas := given.formulas ++ rest }
    | '-' :: '-' :: option =>
      match addOption rules given option rest with
      | some (given, others) =>
        if _ : others.length ≤ rest.length then readFrom rules given others else none
      | none => none
    | '-' :: letter :: letters =>
      match given.addLetters rules (letter :: letters) with
      | some given => readFrom rules given rest
      | none => none
    | _ => readFrom rules (given.addFormula argument) rest
termination_by arguments.length

/-- The formula, if there is just one. -/
def formula? (given : Arguments) : Option String :=
  match given.formulas with
  | [formula] => some formula
  | _ => none

/-- All values of an option. -/
def valuesOf (given : Arguments) (name : String) : List String :=
  (given.values.filter (·.1 == name)).map (·.2)

/-- The value of an option that can be given once; `none` inside if it is not given. -/
def value? (given : Arguments) (name : String) : Option (Option String) :=
  match given.valuesOf name with
  | [] => some none
  | [value] => some (some value)
  | _ => none

/-- Whether a flag is given, which it can be once. -/
def flag? (given : Arguments) (name : String) : Option Bool :=
  match given.flags.filter (· == name) with
  | [] => some false
  | [_] => some true
  | _ => none

end Arguments

/-! ## Lines -/

/-- A command with its arguments. `bindings` are the texts of variables. -/
inductive Line where
  | evaluate (formula : String) (bindings : List String) (input : Option String)
      (decimalPlaces : Option Nat) (pretty : Bool)
  | check (formula : String)
  | tree (formula : String) (pretty : Bool)

namespace Line

/-- The value of a whole number, with a sign or without, that fits 32 bits. -/
def readCount (text : String) : Option Nat :=
  let (negative, digits) := match text.toList with
    | '-' :: digits => (true, digits)
    | '+' :: digits => (false, digits)
    | digits => (false, digits)
  let value := digits.foldl (fun n c => 10 * n + (c.toNat - '0'.toNat)) 0
  if digits.isEmpty || !digits.all Char.isDigit || decide (twoTo 32 ≤ value) then none
  else if negative && value != 0 then none
  else some value

def prettyFlag : List (String × Char) := [("pretty", 'p')]

def evaluateRules : OptionRules := ⟨["var", "vars", "decimal-places"], prettyFlag⟩

/-- Reads the arguments of an evaluation. -/
def readEvaluate (arguments : List String) : Option Line := do
  let given ← Arguments.readFrom evaluateRules {} arguments
  let places ← match ← given.value? "decimal-places" with
    | some text => some <$> readCount text
    | none => some none
  return evaluate (← given.formula?) (given.valuesOf "var") (← given.value? "vars") places
    (← given.flag? "pretty")

/-- Reads a command line. -/
def read? (arguments : List String) : Option Line := do
  match arguments with
  | "eval" :: rest => readEvaluate rest
  | "check" :: rest => return check (← (← Arguments.readFrom ⟨[], []⟩ {} rest).formula?)
  | "ast" :: rest =>
    let given ← Arguments.readFrom ⟨[], prettyFlag⟩ {} rest
    return tree (← given.formula?) (← given.flag? "pretty")
  | _ => none

/-- Whether the command reads its input. -/
def readsInput : Line → Bool
  | evaluate _ _ input _ _ => input.isNone
  | _ => false

/-! ## Running -/

/-- What a command prints, and its exit code. -/
structure Outcome where
  exitCode : Nat
  output : String
  errors : String
deriving DecidableEq

def jsonText (pretty : Bool) (json : Json) : String :=
  if pretty then json.indented else json.compact

/-- The outcome of a command line that is not one. -/
def misuse : Outcome :=
  ⟨2, "", "Usage: eval FORMULA [OPTIONS] | check FORMULA | ast FORMULA [OPTIONS]\n"⟩

/-- The outcome of a command whose input is no text. -/
def unreadable : Outcome := ⟨1, "", "IO error: stream did not contain valid UTF-8\n"⟩

def outcome : Except CommandError String → Outcome
  | .ok text => ⟨0, text ++ "\n", ""⟩
  | .error error => ⟨1, "", error.message ++ "\n"⟩

/-- What a command prints if all goes well. Input that is blank counts as none. -/
def result (line : Line) (input : String) (ambient : Ambient) : Except CommandError String := do
  match line with
  | evaluate formula bindings given places pretty =>
    let piped := if (Text.trimStart input.toList).isEmpty then none else some input
    let bindings ← bindings.mapM readVariable
    let request : Request := ⟨formula, bindings, given.or piped, places⟩
    return jsonText pretty (← request.evaluate ambient)
  | check formula =>
    ({ formula := formula } : Request).checkSyntax
    return "Syntax is valid"
  | tree formula pretty => return jsonText pretty (← treeOf formula)

/-- Runs a command with its input. -/
def run (line : Line) (input : String) (ambient : Ambient) : Outcome :=
  outcome (line.result input ambient)

end Line
end Command
end Formula

-- SUMMARY: Functions: their parameters, how many arguments they accept, what they do, and tables of them by name.
import Formula.Dictionary
import Formula.Text.Case

/-! # Functions

A signature lists the parameters of a function. Only the last one may be variadic; it then stands
for any number of further arguments, including none.

As with operators, an action says what a function does, and the host can add actions of its
own. -/

namespace Formula

/-- A parameter and what is demanded of its arguments. The demands concern numbers only; a lazy
    parameter gets its argument as a tree. -/
structure Parameter where
  name : String
  variadic : Bool := false
  lazy : Bool := false
  nonZero : Bool := false
  nonNegative : Bool := false
deriving DecidableEq

/-- The parameters of a function in order. -/
structure Signature where
  parameters : List Parameter
deriving DecidableEq

namespace Signature

/-- A signature of plain parameters. -/
def plain (names : List String) : Signature := ⟨names.map fun name => { name := name }⟩

def isVariadic (s : Signature) : Bool :=
  match s.parameters.getLast? with
  | some parameter => parameter.variadic
  | none => false

/-- The fewest arguments of a call. -/
def minArguments (s : Signature) : Nat :=
  if s.isVariadic then s.parameters.length - 1 else s.parameters.length

/-- The most arguments of a call, if there is a bound. -/
def maxArguments? (s : Signature) : Option Nat :=
  if s.isVariadic then none else some s.parameters.length

/-- Whether a call may have this many arguments. -/
def accepts (s : Signature) (count : Nat) : Bool :=
  decide (s.minArguments ≤ count) &&
    match s.maxArguments? with
    | some most => decide (count ≤ most)
    | none => true

/-- The parameter that governs the argument at an index: the one in its place, or else a variadic
    last one. -/
def parameter? (s : Signature) (index : Nat) : Option Parameter :=
  match s.parameters[index]? with
  | some parameter => some parameter
  | none => s.parameters.getLast?.filter (·.variadic)

/-- The number of arguments in words. -/
def arityText (s : Signature) : String :=
  match s.maxArguments? with
  | some most => toString most
  | none => "at least " ++ toString s.minArguments

end Signature

/-! ## Functions -/

/-- What a function does. -/
inductive FunctionAction where
  | abs | ceiling | floor | round | sqrt | ln | log10 | factorial
  | sum | average | min | max
  | random | not | coalesce | choose | switch
  | sin | cos | tan | asin | acos | atan | atan2 | sinh | cosh | tanh | radians | degrees
  | contains | startsWith | endsWith | lower | upper | trim | length | left | right | substring
  | split | matchesPattern
  | dateNew | dateParse | dateFormat | dateToEpoch | now | today
  | durationNew | durationOfMillis | durationToMillis
  | host (number : Nat)
deriving DecidableEq

/-- A function that formulas can call. -/
structure LibraryFunction where
  signature : Signature
  action : FunctionAction
deriving DecidableEq

/-- Functions by upper-case name. -/
structure FunctionTable where
  entries : Dictionary LibraryFunction

namespace FunctionTable

def empty : FunctionTable := ⟨[]⟩

def insert (table : FunctionTable) (name : String) (function : LibraryFunction) : FunctionTable :=
  ⟨Dictionary.insert table.entries (Text.upper name) function⟩

/-- Adds functions one after the other. -/
def extend (table : FunctionTable) (functions : List (String × LibraryFunction)) : FunctionTable :=
  functions.foldl (fun t entry => t.insert entry.1 entry.2) table

def find? (table : FunctionTable) (name : String) : Option LibraryFunction :=
  Dictionary.find? table.entries (Text.upper name)

def has (table : FunctionTable) (name : String) : Bool := (table.find? name).isSome

/-- The names in order. -/
def names (table : FunctionTable) : List String := Dictionary.names table.entries

end FunctionTable
end Formula

-- SUMMARY: What an operator or function can use while it runs, and the host's own operators and functions.
import Formula.Decimal.Binary64
import Formula.EvalError
import Formula.Powers
import Formula.Settings

/-! # Calls

An operator or function gets its token, its operands, and a context: the settings, the surroundings
that are not determined by the formula, and a way to evaluate an operand that was passed as a
tree. -/

namespace Formula

/-- What an evaluation takes from outside: the present instant, and a random number for every
    position in the text, at least zero and below one. -/
structure Ambient where
  now : Instant
  random : Nat → Float

namespace Ambient

/-- An instant with random numbers that follow from a seed. -/
def ofSeed (now : Instant) (seed : Nat) : Ambient where
  now := now
  random position :=
    Binary64.ofNat ((seed + 6364136223846793005 * (position + 1)) % twoTo 53) /
      Binary64.ofNat (twoTo 53)

end Ambient

/-- The context of a call. `force` evaluates a tree, and leaves every other value as it is. -/
structure CallContext where
  settings : Settings
  ambient : Ambient
  force : Value → Except EvalError Value

/-- What an operator or function does. -/
abbrev Behaviour := CallContext → Token → List Value → Except EvalError Value

namespace Token

/-- The result of a computation, or an error at the token. -/
def orFault {α : Type} (token : Token) (fault : ArithmeticFault) : Option α → Except EvalError α
  | some value => .ok value
  | none => .error (token.arithmetic fault)

/-- The argument of an index as text. -/
def textArgument (token : Token) (arguments : List Value) (index : Nat) :
    Except EvalError String :=
  match arguments[index]? with
  | some value => .ok value.toText
  | none => .error (token.unsupported (.missingArgument index))

/-- The argument of an index, which has to be a number. -/
def numberArgument (token : Token) (arguments : List Value) (index : Nat) :
    Except EvalError Decimal :=
  match arguments[index]? with
  | some (.number value) => .ok value
  | some other => .error (token.unsupported (.argumentNotNumber index other.type))
  | none => .error (token.unsupported (.missingArgument index))

/-- The whole part of a numeric argument, which has to fit 64 bits. -/
def integerArgument (token : Token) (arguments : List Value) (index : Nat) :
    Except EvalError Int := do
  token.orFault (.argumentRange index) (← token.numberArgument arguments index).toInt64?

end Token

/-! ## Demands on arguments -/

namespace Parameter

/-- What an argument lacks that the parameter demands. -/
def faultOf (parameter : Parameter) : Value → Option ParameterFault
  | .number n =>
    if parameter.nonZero && n.isZero then some .zero
    else if parameter.nonNegative && n.negative && !n.isZero then some .negative
    else none
  | _ => none

end Parameter

namespace Signature

/-- Checks the arguments from an index on. -/
def checkFrom (signature : Signature) (token : Token) :
    Nat → List Value → Except EvalError Unit
  | _, [] => .ok ()
  | index, argument :: rest =>
    match signature.parameter? index with
    | none => checkFrom signature token (index + 1) rest
    | some parameter =>
      match parameter.faultOf argument with
      | some fault => .error (token.invalidParameter parameter.name fault)
      | none => checkFrom signature token (index + 1) rest

/-- Checks that every argument is what its parameter demands; the first one that is not is
    reported. -/
def check (signature : Signature) (token : Token) (arguments : List Value) :
    Except EvalError Unit :=
  signature.checkFrom token 0 arguments

end Signature

namespace Value

/-- A whole number of 64 bits as a value. -/
def ofInt (n : Int) : Value := .number ((Decimal.ofInt? n).getD .zero)

end Value
end Formula

-- SUMMARY: What can go wrong in an evaluation, and how it is reported.
import Formula.ParseError
import Formula.Value.Basic

/-! # Evaluation errors

An evaluation error names its cause and the position of the token that was evaluated. The causes
that concern types, arithmetic and parameters are types of their own; their messages are made in one
place each. -/

namespace Formula

/-- An operator or function met a value of a type it does not take. -/
inductive TypeFault where
  | operands (types : List ValueType)
  | cannotNegate (type : ValueType)
  | unaryPlus (type : ValueType)
  | oneOperandExpected
  | twoOperandsExpected
  | nullOrdered
  | argumentNotNumber (index : Nat) (type : ValueType)
  | missingArgument (index : Nat)
  | numbersExpected (type : ValueType)
  | instantExpected (type : ValueType)
  | spanExpected (type : ValueType)
  | indexNotNumber (type : ValueType)
  | notIndexable (type : ValueType)
  | noFields (type : ValueType)
deriving DecidableEq

namespace TypeFault

def message : TypeFault → String
  | operands types =>
    "Unsupported data types in operation: " ++ " and ".intercalate (types.map ValueType.name)
  | cannotNegate type => "Cannot negate " ++ type.name
  | unaryPlus type => "Unary plus needs a number, found " ++ type.name
  | oneOperandExpected => "Expected one operand"
  | twoOperandsExpected => "Expected two operands"
  | nullOrdered => "NULL cannot be ordered"
  | argumentNotNumber index type =>
    "Argument " ++ toString (index + 1) ++ " must be a number, found " ++ type.name
  | missingArgument index => "Missing argument " ++ toString (index + 1)
  | numbersExpected type => "Expected numbers, found " ++ type.name
  | instantExpected type => "Expected a date-time, found " ++ type.name
  | spanExpected type => "Expected a duration, found " ++ type.name
  | indexNotNumber type => "Array index must be a number, found " ++ type.name
  | notIndexable type => "Only arrays can be indexed, found " ++ type.name
  | noFields type => "Field access needs a structure, found " ++ type.name

end TypeFault

/-- A computation has no result. -/
inductive ArithmeticFault where
  | overflow
  | divisionByZero
  | instantRange
  | spanRange
  | notReal
  | randomRange
  | rootFailed
  | logarithmFailed
  | argumentRange (index : Nat)
  | notFinite
deriving DecidableEq

namespace ArithmeticFault

def message : ArithmeticFault → String
  | overflow => "Numeric overflow"
  | divisionByZero => "Division by zero"
  | instantRange => "Date-time out of range"
  | spanRange => "Duration out of range"
  | notReal => "Result of power is not a real number"
  | randomRange => "Random value out of range"
  | rootFailed => "Square root failed"
  | logarithmFailed => "Logarithm failed"
  | argumentRange index => "Argument " ++ toString (index + 1) ++ " is out of range"
  | notFinite => "Result is not a finite number"

end ArithmeticFault

/-- An argument is not what its parameter demands. -/
inductive ParameterFault where
  | zero
  | negative
  | outOfRange
  | empty
  | atMostFour
  | singleValue
  | notDate
  | notTime
  | notParsed
  | notFormat
  | notPattern
  | beforeStart
deriving DecidableEq

namespace ParameterFault

def message : ParameterFault → String
  | zero => "must not be zero"
  | negative => "must not be negative"
  | outOfRange => "is out of range"
  | empty => "must not be empty"
  | atMostFour => "accepts at most four values"
  | singleValue => "accepts a single value"
  | notDate => "is not a valid calendar date"
  | notTime => "is not a valid time of day"
  | notParsed => "could not be parsed as a date-time"
  | notFormat => "is not a valid format"
  | notPattern => "is not a valid regular expression"
  | beforeStart => "must not be before start"

end ParameterFault

inductive EvalError where
  | parse (error : ParseError)
  | undefinedVariable (name : String) (position : Nat)
  | undefinedField (field : String) (position : Nat)
  | unsupportedType (fault : TypeFault) (lexeme : String) (position : Nat)
  | invalidParameter (function parameter : String) (fault : ParameterFault) (position : Nat)
  | indexOutOfBounds (index : Decimal) (length position : Nat)
  | arithmetic (fault : ArithmeticFault) (lexeme : String) (position : Nat)
  | nestingTooDeep (limit position : Nat)
  | constantReassignment (name : String)
  | unexpectedToken (kind : TokenKind) (lexeme : String) (position : Nat)
deriving DecidableEq

namespace EvalError

/-- The position an error refers to, if it refers to one. -/
def position? : EvalError → Option Nat
  | parse error => some error.position
  | undefinedVariable _ position => some position
  | undefinedField _ position => some position
  | unsupportedType _ _ position => some position
  | invalidParameter _ _ _ position => some position
  | indexOutOfBounds _ _ position => some position
  | arithmetic _ _ position => some position
  | nestingTooDeep _ position => some position
  | constantReassignment _ => none
  | unexpectedToken _ _ position => some position

/-- A message with the token it is about. -/
def aboutToken (message lexeme : String) (position : Nat) : String :=
  message ++ " ('" ++ lexeme ++ "' at position " ++ toString position ++ ")"

/-- The report of an error. -/
def message : EvalError → String
  | parse error => error.message
  | undefinedVariable name position =>
    "Variable or constant value for '" ++ name ++ "' not found at position " ++ toString position
  | undefinedField field position =>
    "Field '" ++ field ++ "' not found in structure at position " ++ toString position
  | unsupportedType fault lexeme position => aboutToken fault.message lexeme position
  | invalidParameter function parameter fault position =>
    "Parameter '" ++ parameter ++ "' of " ++ function ++ " at position " ++ toString position ++
      " " ++ fault.message
  | indexOutOfBounds index length position =>
    "Index " ++ index.text ++ " out of bounds for array of length " ++ toString length ++
      " at position " ++ toString position
  | arithmetic fault lexeme position => aboutToken fault.message lexeme position
  | nestingTooDeep limit position =>
    "Expression nesting exceeds the limit of " ++ toString limit ++ " at position " ++
      toString position
  | constantReassignment name => "Constant '" ++ name ++ "' cannot be reassigned"
  | unexpectedToken kind lexeme position =>
    "Unexpected " ++ kind.label ++ " '" ++ lexeme ++ "' at position " ++ toString position

end EvalError

/-! ## Errors at a token -/

namespace Token

def unsupported (token : Token) (fault : TypeFault) : EvalError :=
  .unsupportedType fault token.lexeme token.position

def arithmetic (token : Token) (fault : ArithmeticFault) : EvalError :=
  .arithmetic fault token.lexeme token.position

def invalidParameter (token : Token) (parameter : String) (fault : ParameterFault) : EvalError :=
  .invalidParameter token.lexeme parameter fault token.position

def unexpected (token : Token) : EvalError :=
  .unexpectedToken token.kind token.lexeme token.position

end Token
end Formula

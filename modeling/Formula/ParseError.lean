-- SUMMARY: What can be wrong with the text of a formula, and how it is reported.

/-! # Parse errors

A parse error names its cause, the position where the problem was found, and the lexeme there. -/

namespace Formula

/-- What is wrong with a number. -/
inductive NumberFault where
  | missingHexDigits
  | secondPoint
  | secondExponent
  | missingExponentDigits
  | outOfRange
  | notDecimal
deriving DecidableEq

namespace NumberFault

def message : NumberFault → String
  | missingHexDigits => "missing hexadecimal digits"
  | secondPoint => "more than one decimal point"
  | secondExponent => "more than one exponent"
  | missingExponentDigits => "missing exponent digits"
  | outOfRange => "value out of range"
  | notDecimal => "not a decimal number"

end NumberFault

/-- A part of the language that can be switched off. -/
inductive Feature where
  | arrays
  | structures
deriving DecidableEq

namespace Feature

def message : Feature → String
  | arrays => "Arrays"
  | structures => "Structures"

end Feature

inductive ParseFault where
  | unterminatedText
  | unknownCharacter
  | malformedNumber (fault : NumberFault)
  | undefinedFunction
  | undefinedOperator
  | notAllowed (feature : Feature)
  | unmatchedParenthesis
  | unmatchedBracket
  | emptyArgument
  | argumentCount (expected : String) (found : Nat)
  | missingOperand
  | missingOperator
  | unexpectedToken
  | tooManyOperands
  | unexpectedEnd
  | nestingTooDeep (limit : Nat)
deriving DecidableEq

structure ParseError where
  fault : ParseFault
  position : Nat
  lexeme : String
deriving DecidableEq

namespace ParseError

/-- The report of an error. -/
def message (error : ParseError) : String :=
  let lexeme := error.lexeme
  let place := toString error.position
  match error.fault with
  | .unterminatedText =>
    "Unterminated string literal " ++ lexeme ++ " starting at position " ++ place
  | .unknownCharacter => "Unknown character '" ++ lexeme ++ "' at position " ++ place
  | .malformedNumber fault =>
    "Malformed number '" ++ lexeme ++ "' at position " ++ place ++ ": " ++ fault.message
  | .undefinedFunction => "Undefined function '" ++ lexeme ++ "' at position " ++ place
  | .undefinedOperator => "Undefined operator '" ++ lexeme ++ "' at position " ++ place
  | .notAllowed feature =>
    feature.message ++ " are not allowed, found '" ++ lexeme ++ "' at position " ++ place
  | .unmatchedParenthesis => "Unmatched parenthesis '" ++ lexeme ++ "' at position " ++ place
  | .unmatchedBracket => "Unmatched bracket '" ++ lexeme ++ "' at position " ++ place
  | .emptyArgument => "Empty argument in call to " ++ lexeme ++ " at position " ++ place
  | .argumentCount expected found =>
    "Function " ++ lexeme ++ " at position " ++ place ++ " expects " ++ expected ++
      " argument(s), found " ++ toString found
  | .missingOperand =>
    "Operator '" ++ lexeme ++ "' at position " ++ place ++ " is missing an operand"
  | .missingOperator => "Missing operator before '" ++ lexeme ++ "' at position " ++ place
  | .unexpectedToken => "Unexpected '" ++ lexeme ++ "' at position " ++ place
  | .tooManyOperands => "Too many operands, unexpected '" ++ lexeme ++ "' at position " ++ place
  | .unexpectedEnd => "Unexpected end of expression at position " ++ place
  | .nestingTooDeep limit =>
    "Expression nests deeper than " ++ toString limit ++ " levels at '" ++ lexeme ++
      "' position " ++ place

end ParseError
end Formula

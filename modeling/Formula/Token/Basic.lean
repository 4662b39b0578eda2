-- SUMMARY: Tokens: kinds, lexemes, positions, and the operator or function a token was resolved to.
import Formula.Operator
import Formula.Signature

/-! # Tokens

A token is a piece of a formula's text with its kind and the position of its first character,
counted in characters from zero. The parser binds operator and function tokens to what they stand
for. The binding follows from the rest, so it does not count when tokens are compared. -/

namespace Formula

inductive TokenKind where
  | number
  | text
  | name
  | prefixOperator
  | postfixOperator
  | infixOperator
  | function
  | arrayOpen
  | arrayClose
  | arrayIndex
  | separator
  | parenOpen
  | parenClose
  | comma
deriving DecidableEq

namespace TokenKind

/-- The kind in the words of error messages and printed trees. -/
def label : TokenKind → String
  | number => "NUMBER_LITERAL"
  | text => "STRING_LITERAL"
  | name => "VARIABLE_OR_CONSTANT"
  | prefixOperator => "PREFIX_OPERATOR"
  | postfixOperator => "POSTFIX_OPERATOR"
  | infixOperator => "INFIX_OPERATOR"
  | function => "FUNCTION"
  | arrayOpen => "ARRAY_OPEN"
  | arrayClose => "ARRAY_CLOSE"
  | arrayIndex => "ARRAY_INDEX"
  | separator => "STRUCTURE_SEPARATOR"
  | parenOpen => "OPEN_PAREN"
  | parenClose => "CLOSE_PAREN"
  | comma => "COMMA"

/-- Whether an operand is complete after a token of this kind. -/
def endsValue : TokenKind → Bool
  | number | text | name | parenClose | arrayClose | postfixOperator => true
  | _ => false

/-- Whether a token of this kind begins an operand. -/
def startsValue : TokenKind → Bool
  | number | text | name | function | parenOpen => true
  | _ => false

/-- The place in which an operator token of this kind stands. -/
def fixity? : TokenKind → Option Fixity
  | prefixOperator => some .before
  | postfixOperator => some .after
  | infixOperator => some .between
  | _ => none

end TokenKind

namespace Fixity

/-- The kind of an operator token in this place. -/
def tokenKind : Fixity → TokenKind
  | before => .prefixOperator
  | after => .postfixOperator
  | between => .infixOperator

theorem fixity?_tokenKind (fixity : Fixity) : fixity.tokenKind.fixity? = some fixity := by
  cases fixity <;> rfl

end Fixity

/-- What a token stands for. -/
inductive Binding where
  | operator (operator : Operator)
  | function (function : LibraryFunction)

structure Token where
  kind : TokenKind
  lexeme : String
  position : Nat
  binding : Option Binding := none

namespace Token

/-- Whether two tokens are the same lexeme of the same kind at the same place. -/
def same (a b : Token) : Bool :=
  a.position == b.position && a.kind == b.kind && a.lexeme == b.lexeme

def bind (token : Token) (binding : Binding) : Token := { token with binding := some binding }

def operator? (token : Token) : Option Operator :=
  match token.binding with
  | some (.operator operator) => some operator
  | _ => none

def function? (token : Token) : Option LibraryFunction :=
  match token.binding with
  | some (.function function) => some function
  | _ => none

/-- Positions are machine words, below this number. -/
def positionLimit : Nat := twoTo 64

/-- The position after the last character of the lexeme, as a machine word: a sum that is none wraps
    around. -/
def endPosition (token : Token) : Nat := (token.position + token.lexeme.length) % positionLimit

/-- A token in words. -/
def describe (token : Token) : String :=
  token.kind.label ++ " '" ++ token.lexeme ++ "' at " ++ toString token.position

end Token
end Formula

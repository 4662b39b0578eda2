-- SUMMARY: The built-in operators: arithmetic on numbers and times, comparison and logic.
import Formula.Call
import Formula.Decimal.Binary64
import Formula.Operator
import Formula.Value.Order

/-! # Built-in operators

Arithmetic takes numbers; addition and subtraction take instants and spans as well, where a number
stands for milliseconds, and addition joins texts. Relations compare by the left operand; nothing
is neither above nor below anything.

The operators of logic are lazy: the right operand is evaluated only if the left one does not
decide. -/

namespace Formula
namespace BuiltIn

/-- The error for operands of types that an operation does not take. -/
def unsupportedOperands (token : Token) (operands : List Value) : EvalError :=
  token.unsupported (.operands (operands.map Value.type))

/-- Applies an operation on two numbers. -/
def onNumbers (token : Token) (operands : List Value)
    (operation : Decimal → Decimal → Except EvalError Decimal) : Except EvalError Value :=
  match operands with
  | [.number a, .number b] => do return .number (← operation a b)
  | _ => .error (unsupportedOperands token operands)

/-- The span of a number of milliseconds, without its decimals. -/
def millisSpan (token : Token) (n : Decimal) : Except EvalError Span :=
  token.orFault .spanRange (n.toInt64?.bind Span.ofMillis?)

/-! ## Arithmetic -/

def add (token : Token) (operands : List Value) : Except EvalError Value :=
  match operands with
  | [.number a, .number b] => do return .number (← token.orFault .overflow (a.add? b))
  | [.instant t, .span d] => do return .instant (← token.orFault .instantRange (t.add? d))
  | [.span d, .instant t] => do return .instant (← token.orFault .instantRange (t.add? d))
  | [.span a, .span b] => do return .span (← token.orFault .overflow (a.add? b))
  | [.instant t, .number n] => do
    return .instant (← token.orFault .instantRange (t.add? (← millisSpan token n)))
  | [.text a, b] => .ok (.text (a ++ b.toText))
  | [a, .text b] => .ok (.text (a.toText ++ b))
  | _ => .error (unsupportedOperands token operands)

def subtract (token : Token) (operands : List Value) : Except EvalError Value :=
  match operands with
  | [.number a, .number b] => do return .number (← token.orFault .overflow (a.sub? b))
  | [.instant a, .instant b] => .ok (.span (a.since b))
  | [.instant t, .span d] => do return .instant (← token.orFault .instantRange (t.sub? d))
  | [.span a, .span b] => do return .span (← token.orFault .overflow (a.sub? b))
  | [.instant t, .number n] => do
    return .instant (← token.orFault .instantRange (t.sub? (← millisSpan token n)))
  | _ => .error (unsupportedOperands token operands)

def multiply (token : Token) (operands : List Value) : Except EvalError Value :=
  onNumbers token operands fun a b => token.orFault .overflow (a.mul? b)

def divide (token : Token) (operands : List Value) : Except EvalError Value :=
  onNumbers token operands fun a b =>
    if b.isZero then .error (token.arithmetic .divisionByZero)
    else token.orFault .overflow (a.div? b)

def remainder (token : Token) (operands : List Value) : Except EvalError Value :=
  onNumbers token operands fun a b =>
    if b.isZero then .error (token.arithmetic .divisionByZero)
    else token.orFault .overflow (a.rem? b)

def powerFault : Decimal.PowerError → ArithmeticFault
  | .divisionByZero => .divisionByZero
  | .overflow => .overflow
  | .notReal => .notReal

/-- The power of two numbers, with its errors at a token. -/
def power (token : Token) (base exponent : Decimal) : Except EvalError Decimal :=
  match base.pow exponent with
  | .ok value => .ok value
  | .error error => .error (token.arithmetic (powerFault error))

def negate (token : Token) (operands : List Value) : Except EvalError Value :=
  match operands with
  | [.number n] => .ok (.number n.neg)
  | [.span d] => .ok (.span d.neg)
  | [other] => .error (token.unsupported (.cannotNegate other.type))
  | _ => .error (token.unsupported .oneOperandExpected)

def keepSign (token : Token) (operands : List Value) : Except EvalError Value :=
  match operands with
  | [.number n] => .ok (.number n)
  | [other] => .error (token.unsupported (.unaryPlus other.type))
  | _ => .error (token.unsupported .oneOperandExpected)

/-! ## Comparison -/

def equal (operands : List Value) : Bool :=
  match operands with
  | [a, b] => a.equal b
  | _ => false

/-- A relation of two values that are not null. -/
def ordered (token : Token) (operands : List Value) (accepts : Ordering → Bool) :
    Except EvalError Value :=
  match operands with
  | [a, b] =>
    if a.isNull || b.isNull then .error (token.unsupported .nullOrdered)
    else .ok (.boolean (accepts (a.compare b)))
  | _ => .error (token.unsupported .twoOperandsExpected)

/-! ## Logic -/

/-- Combines two conditions; the second is evaluated only if the first is not `decisive`. -/
def shortCircuit (context : CallContext) (decisive : Bool) (operands : List Value) :
    Except EvalError Value :=
  match operands with
  | [left, right] => do
    if (← context.force left).toBool == decisive then return .boolean decisive
    return .boolean (← context.force right).toBool
  | _ => .ok (.boolean false)

/-- The opposite of a condition. -/
def not (operands : List Value) : Value :=
  match operands with
  | value :: _ => .boolean !value.toBool
  | [] => .boolean true

/-! ## All operators -/

/-- What an operator does; the actions of the host are looked up by their number. -/
def applyOperator (host : Array Behaviour) (context : CallContext) (token : Token)
    (action : OperatorAction) (operands : List Value) : Except EvalError Value :=
  match action with
  | .add => add token operands
  | .subtract => subtract token operands
  | .multiply => multiply token operands
  | .divide => divide token operands
  | .remainder => remainder token operands
  | .power => onNumbers token operands (power token)
  | .negate => negate token operands
  | .keepSign => keepSign token operands
  | .equal => .ok (.boolean (equal operands))
  | .notEqual => .ok (.boolean !(equal operands))
  | .less => ordered token operands (· == .lt)
  | .lessOrEqual => ordered token operands (· != .gt)
  | .greater => ordered token operands (· == .gt)
  | .greaterOrEqual => ordered token operands (· != .lt)
  | .and => shortCircuit context false operands
  | .or => shortCircuit context true operands
  | .not => .ok (not operands)
  | .host number =>
    match host[number]? with
    | some behaviour => behaviour context token operands
    | none => .error token.unexpected

/-- The built-in operators by name. -/
def operators : List (String × Operator) := [
  ("+", ⟨.between Precedence.additive, .add⟩),
  ("-", ⟨.between Precedence.additive, .subtract⟩),
  ("*", ⟨.between Precedence.multiplicative, .multiply⟩),
  ("/", ⟨.between Precedence.multiplicative, .divide⟩),
  ("%", ⟨.between Precedence.multiplicative, .remainder⟩),
  ("^", ⟨(OperatorRule.between Precedence.power).rightAssociative.adjustedBy (·.powerPrecedence),
    .power⟩),
  ("-", ⟨.before, .negate⟩),
  ("+", ⟨.before, .keepSign⟩),
  ("=", ⟨.between Precedence.comparison, .equal⟩),
  ("==", ⟨.between Precedence.comparison, .equal⟩),
  ("!=", ⟨.between Precedence.comparison, .notEqual⟩),
  ("<>", ⟨.between Precedence.comparison, .notEqual⟩),
  ("<", ⟨.between Precedence.comparison, .less⟩),
  ("<=", ⟨.between Precedence.comparison, .lessOrEqual⟩),
  (">", ⟨.between Precedence.comparison, .greater⟩),
  (">=", ⟨.between Precedence.comparison, .greaterOrEqual⟩),
  ("&&", ⟨(OperatorRule.between Precedence.conjunction).onTrees, .and⟩),
  ("||", ⟨(OperatorRule.between Precedence.disjunction).onTrees, .or⟩),
  ("!", ⟨.before, .not⟩)]

def operatorTable : OperatorTable := OperatorTable.empty.extend operators

end BuiltIn
end Formula

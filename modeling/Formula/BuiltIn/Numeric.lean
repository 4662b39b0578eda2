-- SUMMARY: The built-in functions on numbers: rounding, sums and extremes, roots, logarithms and factorials.
import Formula.Call
import Formula.Decimal.Logarithm
import Formula.Decimal.Power
import Formula.Decimal.Root
import Formula.Powers

/-! # Functions on numbers

Sums, means and extremes take numbers and arrays of numbers, nested to any depth; the numbers count
in the order in which they are written. -/

namespace Formula
namespace BuiltIn

/-! ## Numbers in nested arrays -/

mutual

/-- The numbers of a value, where arrays stand for their items. Other values are at fault. -/
def numbersOf (token : Token) : Value → Except EvalError (List Decimal)
  | .number n => .ok [n]
  | .array items => numbersOfAll token items
  | .text _ => .error (token.unsupported (.numbersExpected .text))
  | .boolean _ => .error (token.unsupported (.numbersExpected .boolean))
  | .record _ => .error (token.unsupported (.numbersExpected .record))
  | .instant _ => .error (token.unsupported (.numbersExpected .instant))
  | .span _ => .error (token.unsupported (.numbersExpected .span))
  | .binary _ => .error (token.unsupported (.numbersExpected .binary))
  | .null => .error (token.unsupported (.numbersExpected .null))
  | .tree _ => .error (token.unsupported (.numbersExpected .tree))

def numbersOfAll (token : Token) : List Value → Except EvalError (List Decimal)
  | [] => .ok []
  | value :: rest => do
    let first ← numbersOf token value
    let others ← numbersOfAll token rest
    return first ++ others

end

/-- The sum of numbers from left to right. -/
def sumNumbers (token : Token) (numbers : List Decimal) : Except EvalError Decimal :=
  numbers.foldlM (fun total n => token.orFault .overflow (total.add? n)) Decimal.zero

def sum (token : Token) (arguments : List Value) : Except EvalError Value := do
  return .number (← sumNumbers token (← numbersOfAll token arguments))

def average (token : Token) (arguments : List Value) : Except EvalError Value := do
  let numbers ← numbersOfAll token arguments
  if numbers.isEmpty then throw (token.invalidParameter "values" .empty)
  let total ← sumNumbers token numbers
  let count ← token.orFault .overflow (Decimal.ofNat? numbers.length)
  return .number (← token.orFault .overflow (total.div? count))

/-- The first of the numbers that no other one is better than. -/
def best (better : Decimal → Decimal → Bool) : List Decimal → Option Decimal
  | [] => none
  | first :: rest => some (rest.foldl (fun best n => if better n best then n else best) first)

/-- An extreme of the numbers. -/
def extreme (token : Token) (arguments : List Value) (better : Decimal → Decimal → Bool) :
    Except EvalError Value := do
  match best better (← numbersOfAll token arguments) with
  | some n => return .number n
  | none => throw (token.invalidParameter "values" .empty)

/-! ## Rounding -/

/-- Rounds to a number of decimals; a negative number stands for tens, hundreds and so on. -/
def roundNumber (token : Token) (rounding : RoundingMode) (value : Decimal) (scale : Int) :
    Except EvalError Decimal :=
  if 0 ≤ scale ∧ scale < twoTo 32 then .ok (value.roundTo scale.toNat rounding)
  else
    match Decimal.ten.powNat? scale.natAbs with
    | none => .error (token.invalidParameter "scale" .outOfRange)
    | some factor => do
      let units ← token.orFault .overflow (value.div? factor)
      token.orFault .overflow ((units.roundTo 0 rounding).mul? factor)

def round (context : CallContext) (token : Token) (arguments : List Value) :
    Except EvalError Value := do
  let value ← token.numberArgument arguments 0
  let scale ← token.integerArgument arguments 1
  return .number (← roundNumber token context.settings.precision.rounding value scale)

/-! ## Factorials -/

/-- The most factors that are multiplied. A product of more than one hundred numbers above one is
    too large for a decimal. -/
def maxFactors : Nat := 100

/-- The product of the whole numbers from 2 to `n`. -/
def factorial? (n : Int) : Option Decimal :=
  (List.range' 2 (min (n - 1).toNat maxFactors)).foldlM
    (fun product i => do product.mul? (← Decimal.ofNat? i)) Decimal.one

def factorial (token : Token) (arguments : List Value) : Except EvalError Value := do
  let n ← token.integerArgument arguments 0
  return .number (← token.orFault .overflow (factorial? n))

/-! ## Functions of one number -/

/-- Applies a function that has a result for every number. -/
def mapNumber (token : Token) (arguments : List Value) (f : Decimal → Decimal) :
    Except EvalError Value := do
  return .number (f (← token.numberArgument arguments 0))

/-- Applies a function that does not have a result for every number. -/
def mapNumber? (token : Token) (arguments : List Value) (fault : ArithmeticFault)
    (f : Decimal → Option Decimal) : Except EvalError Value := do
  return .number (← token.orFault fault (f (← token.numberArgument arguments 0)))

end BuiltIn
end Formula

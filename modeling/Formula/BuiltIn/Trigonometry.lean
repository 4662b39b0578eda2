-- SUMMARY: The built-in functions that are computed in binary floating point.
import Formula.Call
import Formula.Decimal.Binary64

/-! # Trigonometry

Angles are in radians. A number is converted to binary floating point and the result back to a
decimal, which fails if it is not finite or too large. -/

namespace Formula
namespace BuiltIn

/-- A binary result as a value. -/
def finite (token : Token) (x : Float) : Except EvalError Value := do
  return .number (← token.orFault .notFinite (Decimal.ofFloat? x))

/-- Applies a binary function of one number. -/
def mapFloat (token : Token) (arguments : List Value) (f : Float → Float) :
    Except EvalError Value := do
  finite token (f (← token.numberArgument arguments 0).toFloat)

/-- The angle of a point given by its ordinate and abscissa. -/
def angleOf (token : Token) (arguments : List Value) : Except EvalError Value := do
  let y ← token.numberArgument arguments 0
  let x ← token.numberArgument arguments 1
  finite token (Float.atan2 y.toFloat x.toFloat)

/-- The radians of one degree. -/
def radiansPerDegree : Float := 3.14159265358979323846 / 180

/-- The degrees of one radian. -/
def degreesPerRadian : Float := 57.2957795130823208767981548141051703

end BuiltIn
end Formula

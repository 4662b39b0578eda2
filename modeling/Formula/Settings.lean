-- SUMMARY: The settings of formulas: precision and rounding, parts of the language that are allowed, limits and the time zone.
import Formula.Decimal.Arithmetic

/-! # Settings

Every number that an evaluation yields is rounded to the precision and then brought to its final
form: a fixed number of decimals if one is set, and no trailing zeros unless they are kept. -/

namespace Formula

/-- How many significant digits results have, and how they are rounded. A precision of zero stands
    for no limit. -/
structure Precision where
  digits : Nat
  rounding : RoundingMode
deriving DecidableEq

namespace Precision

/-- The most significant digits that can be asked for. -/
def maxDigits : Nat := 28

/-- A precision of at most the largest number of digits. -/
def ofDigits (digits : Nat) (rounding : RoundingMode) : Precision :=
  ⟨min digits maxDigits, rounding⟩

/-- The value rounded to the precision. -/
def round (precision : Precision) (value : Decimal) : Decimal :=
  value.roundSignificant precision.digits precision.rounding

end Precision

structure Settings where
  precision : Precision
  decimalPlaces : Option Nat
  stripTrailingZeros : Bool
  powerPrecedence : Int
  implicitMultiplication : Bool
  singleQuotes : Bool
  arrays : Bool
  structures : Bool
  overwriteConstants : Bool
  maxNesting : Nat
  zoneOffset : Int

namespace Settings

/-- The final form of a number: its decimals and trailing zeros. -/
def normalize (settings : Settings) (value : Decimal) : Decimal :=
  match settings.decimalPlaces with
  | none => if settings.stripTrailingZeros then value.normalize else value
  | some places =>
    let rounded := value.roundTo places settings.precision.rounding
    if settings.stripTrailingZeros then rounded.normalize else rounded.padTo places

/-- What every number an evaluation yields goes through. -/
def finishNumber (settings : Settings) (value : Decimal) : Decimal :=
  settings.normalize (settings.precision.round value)

end Settings
end Formula

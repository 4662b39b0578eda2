-- SUMMARY: Conversion between decimals and 64-bit binary floating-point numbers.
import Formula.Decimal.Power
import Formula.Powers

/-! # Decimals and binary floating point

Trigonometry and fractional powers are computed in binary floating point. A decimal is converted
through its whole and its fractional part; a binary number `m * 2 ^ e` becomes a decimal by
trading factors of two for factors of ten, and gives up digits from the right until at most 52
bits are left. -/

namespace Formula

namespace Binary64

/-- The binary number nearest to a natural number. Bits below the highest 64 only matter in that
    one of them is set. -/
def ofNat (n : Nat) : Float :=
  if n < twoTo 64 then n.toUInt64.toFloat
  else
    let shift := n.log2 - 63
    let high := n / twoTo shift
    let sticky := if n % twoTo shift = 0 then high else high ||| 1
    sticky.toUInt64.toFloat.scaleB shift

/-- The power `x ^ n` by squaring. -/
def powNat (x : Float) (n : Nat) : Float :=
  (raise? (fun a b => some (a * b)) 1 x n).getD 1

/-- The sign, mantissa and exponent of a finite number: its value is `± mantissa * 2 ^ exponent`. -/
structure Parts where
  negative : Bool
  mantissa : Nat
  exponent : Int

/-- Takes a finite number apart. -/
def parts (x : Float) : Parts :=
  let bits := x.toBits.toNat
  let exponent : Nat := bits / twoTo 52 % twoTo 11
  let fraction : Nat := bits % twoTo 52
  { negative := decide (twoTo 63 ≤ bits)
    mantissa := if exponent = 0 then 2 * fraction else fraction + twoTo 52
    exponent := (exponent : Int) - 1075 }

end Binary64

namespace Decimal

/-! ## To binary -/

/-- The binary number for a decimal without its sign. With a fraction it is the sum of both parts,
    rounded to the decimal's scale. -/
def magnitudeToFloat (d : Decimal) : Float :=
  let whole := Binary64.ofNat d.whole
  if d.scale = 0 then whole
  else
    let fraction :=
      Binary64.ofNat (d.coefficient % tenTo d.scale) / Binary64.ofNat (tenTo d.scale)
    if fraction == 0 then whole
    else
      let unit := Binary64.powNat 10 d.scale
      ((whole + fraction) * unit).round / unit

/-- The binary number near a decimal. A zero without decimals loses its sign. -/
def toFloat (d : Decimal) : Float :=
  if d.negative && !(d.isZero && d.scale == 0) then -d.magnitudeToFloat else d.magnitudeToFloat

/-! ## From binary -/

/-- A magnitude `mantissa * 10 ^ exponent`. -/
structure Scaled where
  mantissa : Nat
  exponent : Int

namespace Scaled

/-- Divides by two: exactly, by trading the factor for a five, or with a bit lost. -/
def halve (s : Scaled) : Scaled :=
  if s.mantissa % 2 = 0 then ⟨s.mantissa / 2, s.exponent + 1⟩
  else if s.mantissa * 5 < limit then { s with mantissa := s.mantissa * 5 }
  else ⟨s.mantissa / 2, s.exponent + 1⟩

/-- Removes `count` factors of five below: each trades for a factor of two, or costs a division. -/
def removeFives (s : Scaled) : Nat → Option Scaled
  | 0 => some s
  | count + 1 =>
    if s.mantissa < twoTo 95 then removeFives ⟨s.mantissa * 2, s.exponent - 1⟩ count
    else if (count + 1 : Int) < 2 * s.exponent then none
    else removeFives { s with mantissa := s.mantissa / 5 } count

/-- Multiplies `count` tens into the mantissa. -/
def absorbTens (n : Nat) : Nat → Option Nat
  | 0 => some n
  | count + 1 => if n * 10 < limit then absorbTens (n * 10) count else none

/-- Drops `count` digits one at a time, each half away from zero; nothing is left to drop at
    zero. -/
def dropUnits (n : Nat) : Nat → Nat
  | 0 => n
  | count + 1 =>
    if n / 10 = 0 then 0
    else dropUnits (if 5 ≤ n % 10 then n / 10 + 1 else n / 10) count

/-- Drops decimals until the mantissa has at most 52 bits. -/
def dropToPrecision (n : Nat) : Nat → Nat × Nat
  | 0 => (n, 0)
  | scale + 1 =>
    if twoTo 52 ≤ n then dropToPrecision (if 5 ≤ n % 10 then n / 10 + 1 else n / 10) scale
    else (n, scale + 1)

/-- The decimal for a magnitude. -/
def toDecimal? (s : Scaled) (negative : Bool) : Option Decimal :=
  if 0 ≤ s.exponent then do make? negative (← absorbTens s.mantissa s.exponent.toNat) 0
  else
    let scale := (-s.exponent).toNat
    let n := dropUnits s.mantissa (scale - maxScale)
    let scale := if n = 0 then 0 else min scale maxScale
    let (n, scale) := dropToPrecision n scale
    let (n, scale) := stripZeros n scale
    make? negative n scale

end Scaled

/-- The decimal for a binary number, if it is finite and not too large. -/
def ofFloat? (x : Float) : Option Decimal :=
  if x.isNaN || x.isInf then none
  else
    let parts := Binary64.parts x
    if parts.mantissa = 0 then make? parts.negative 0 0
    else
      let start : Scaled := ⟨parts.mantissa, parts.exponent⟩
      let reduced :=
        if parts.exponent < 0 then some ((-parts.exponent).toNat.repeat Scaled.halve start)
        else start.removeFives parts.exponent.toNat
      match reduced with
      | some s => s.toDecimal? parts.negative
      | none => none

/-! ## Powers -/

/-- What can go wrong with a power. -/
inductive PowerError where
  | divisionByZero
  | overflow
  | notReal
deriving DecidableEq

/-- The factor for the fractional part of an exponent. -/
def powFraction? (base fraction : Decimal) : Option Decimal :=
  ofFloat? (base.toFloat.pow fraction.toFloat)

/-- The power with any exponent: its whole part is applied exactly and its fraction in binary; a
    negative exponent takes the reciprocal. -/
def pow (base exponent : Decimal) : Except PowerError Decimal := do
  if exponent.isZero then return one
  if base.same one then return one
  if base.isZero then
    if exponent.negative then throw .divisionByZero else return zero
  let magnitude := exponent.abs
  let some whole := magnitude.toInt64? | throw .overflow
  let some power := base.powNat? whole.toNat | throw .overflow
  let power ←
    if magnitude.isWhole then pure power
    else do
      let some factor := powFraction? base magnitude.fraction | throw .notReal
      let some product := power.mul? factor | throw .overflow
      pure product
  if exponent.negative then
    if power.isZero then throw .divisionByZero
    let some inverse := one.div? power | throw .overflow
    return inverse
  return power

end Decimal
end Formula

-- SUMMARY: Natural and common logarithms of decimals by range reduction and a power series.
import Formula.Decimal.Wide
import Formula.Powers

/-! # Logarithms

The value is brought between `1 / e` and `1` by powers of ten and of `e`, whose logarithms are
known, and the rest is the series of the inverse hyperbolic tangent,
`ln x = 2 (z + z ^ 3 / 3 + z ^ 5 / 5 + …)` with `z = (x - 1) / (x + 1)`, in wide numbers. -/

namespace Formula
namespace Decimal

/-- The natural logarithm of ten. -/
def lnTen : Decimal := ⟨false, 2302585092994045684017991454, 27, by decide, by decide⟩

/-- The reciprocal of `e`. -/
def inverseE : Decimal := ⟨false, 3678794411714423215955237702, 28, by decide, maxScale_le⟩

/-- The common logarithm of `e`. -/
def logTenE : Decimal := ⟨false, 4342944819032518276511289189, 28, by decide, maxScale_le⟩

/-! ## Range reduction -/

/-- A value and how often a step was applied to reach it. -/
structure Reduced where
  value : Decimal
  count : Int

/-- Applies `step` at most `fuel` times while `needed` holds, and counts by `unit`. -/
def reduceWhile (needed : Decimal → Bool) (step : Decimal → Option Decimal) (unit : Int)
    (r : Reduced) : Nat → Option Reduced
  | 0 => some r
  | fuel + 1 =>
    if needed r.value then do
      reduceWhile needed step unit ⟨← step r.value, r.count + unit⟩ fuel
    else some r

/-- A bound on the steps of a reduction: every step moves the point by one digit or changes the
    value by a factor of `e`, and a decimal has at most 29 digits on either side. -/
def reductionSteps : Nat := 100

/-- The value between one and ten, and the power of ten taken out. -/
def reduceTens? (d : Decimal) : Option Reduced := do
  let raised ← reduceWhile (·.less one) (·.mul? ten) (-1) ⟨d, 0⟩ reductionSteps
  reduceWhile (!·.less ten) (·.div? ten) 1 raised reductionSteps

/-- The value between `1 / e` and one, and the power of `e` taken out. -/
def reduceE? (d : Decimal) : Option Reduced := do
  let lowered ← reduceWhile (!·.less one) (·.mul? inverseE) 1 ⟨d, 0⟩ reductionSteps
  reduceWhile (!inverseE.less ·) (·.mul? e) (-1) lowered reductionSteps

/-! ## Series -/

/-- Adds the terms of the series from number `n` on, at most `fuel` of them, and stops after one
    that is too small to count. -/
def seriesFrom (square : Wide) (sum power : Wide) (n : Nat) : Nat → Option Wide
  | 0 => some sum
  | fuel + 1 => do
    let power ← power.mul? square
    let term := power.divSmall (2 * n + 1)
    let sum := sum.addAligned term
    if term.isTiny then some sum else seriesFrom square sum power (n + 1) fuel

/-- The logarithm of a value near one. -/
def seriesLn? (d : Decimal) : Option Decimal := do
  let z := Wide.ofDecimal (← (← d.sub? one).div? (← d.add? one))
  let sum ← seriesFrom (← z.mul? z) z z 1 99
  Wide.toDecimal? { sum with magnitude := 2 * sum.magnitude }

/-! ## Logarithms -/

/-- The natural logarithm of a value above zero. -/
def ln? (d : Decimal) : Option Decimal := do
  if d.isZero || d.negative then none
  else if d.same one then some zero
  else
    let tens ← reduceTens? d
    let scaled ← (← ofInt? tens.count).mul? lnTen
    if tens.value.same one then some scaled.normalize
    else
      let powers ← reduceE? tens.value
      let count ← ofInt? powers.count
      if powers.value.same one then some count
      else some (← (← scaled.add? count).add? (← seriesLn? powers.value)).normalize

/-- The exponent of a power of ten. -/
def tenExponent? (n : Nat) : Option Nat := (List.range 29).find? fun k => tenTo k == n

/-- The common logarithm of a value above zero; that of a power of ten is exact. -/
def log10? (d : Decimal) : Option Decimal := do
  if d.isZero || d.negative then none
  else
    match tenExponent? d.coefficient with
    | some k => ofInt? (k - d.scale)
    | none => logTenE.mul? (← d.ln?)

end Decimal
end Formula

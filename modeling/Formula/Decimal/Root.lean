-- SUMMARY: Square roots of decimals by Newton's iteration.
import Formula.Decimal.Arithmetic

/-! # Square roots

The iteration starts at half the value and replaces an estimate by the mean of itself and the
value divided by it, until two estimates agree. -/

namespace Formula
namespace Decimal

/-- The mean of an estimate and the value divided by it. -/
def refineRoot? (value estimate : Decimal) : Option Decimal := do
  (← estimate.add? (← value.div? estimate)).div? two

/-- At most `steps` further estimates, until two agree. -/
def settleRoot? (value estimate : Decimal) : Nat → Option Decimal
  | 0 => some estimate
  | steps + 1 => do
    let next ← refineRoot? value estimate
    if next.same estimate then some next else settleRoot? value next steps

/-- A bound on the number of estimates. From half of the value it takes one halving per binary
    digit to come near the root, and a coefficient has 96 of them; near the root the number of
    correct digits doubles. -/
def rootSteps : Nat := 200

/-- The square root; a value with a minus sign has none, zero included. -/
def sqrt? (d : Decimal) : Option Decimal :=
  if d.negative then none
  else if d.isZero then some zero
  else do
    let half ← d.div? two
    settleRoot? d (if half.isZero then d else half) rootSteps

end Decimal
end Formula

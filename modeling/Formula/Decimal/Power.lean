-- SUMMARY: Whole powers of decimals by squaring, with a wide intermediate format for large exponents.
import Formula.Decimal.Wide

/-! # Whole powers

A power is a product of repeated squares, chosen by the binary digits of the exponent. Small
exponents use decimal products; from 1024 on the products are wide, and only the result is fitted.

`raise?` is that scheme for any partial product, so that both cases share it. -/

namespace Formula

/-- Multiplies `product` by `square ^ exponent`: the lowest binary digit of the exponent decides
    whether the square is a factor, and the next digit stands for the square of the square. -/
def raiseFrom {α : Type} (times : α → α → Option α) (product square : α) (exponent : Nat) :
    Option α :=
  if exponent = 0 then some product
  else do
    let product ← if exponent % 2 = 1 then times product square else some product
    if exponent / 2 = 0 then some product
    else raiseFrom times product (← times square square) (exponent / 2)
termination_by exponent

/-- The power `base ^ exponent` under a partial product. -/
def raise? {α : Type} (times : α → α → Option α) (unit base : α) (exponent : Nat) : Option α :=
  raiseFrom times unit base exponent

namespace Decimal

/-- The power with a natural exponent. The first powers and those of zero and one need no
    squaring; all others lose their trailing zeros. -/
def powNat? (base : Decimal) (exponent : Nat) : Option Decimal :=
  if exponent = 0 then some one
  else if exponent = 1 then some base
  else if exponent = 2 then base.mul? base
  else if base.isZero then some zero
  else if base.same one then some one
  else if exponent < 1024 then (raise? mul? one base exponent).map normalize
  else
    (do (← raise? Wide.mul? (Wide.ofDecimal one) (Wide.ofDecimal base) exponent).toDecimal?).map
      normalize

end Decimal
end Formula

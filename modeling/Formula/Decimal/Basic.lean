-- SUMMARY: Decimal numbers with a 96-bit coefficient and up to 28 decimals: the type, its value, its order and its text.
import Formula.Powers

/-! # Decimal numbers

A decimal is a sign, a coefficient below `2 ^ 96` and a scale: its value is the coefficient
divided by `10 ^ scale`, negated if the sign is set. One value has several representations
(`1.5` and `1.50`), and the scale is kept because it is visible in the text. Zero may carry a
sign; the sign does not count in comparisons.

Numbers have up to 28 decimals (`Decimal.maxScale`): they are read and rounded to no more. Only
where more decimal places than these are asked for and zeros are kept do appended zeros take a
number further, as many as the coefficient has room for.

Comparison goes through `Decimal.units`, the value as a whole number of units of `10 ^ (-56)`. -/

namespace Formula

/-- A decimal number `± coefficient / 10 ^ scale`. -/
structure Decimal where
  negative : Bool
  coefficient : Nat
  scale : Nat
  coefficient_lt : coefficient < twoTo 96
  scale_le : scale ≤ 56
deriving DecidableEq

namespace Decimal

/-- One more than the largest coefficient. -/
abbrev limit : Nat := twoTo 96

/-- The largest number of decimals of a number that is read or rounded. -/
abbrev maxScale : Nat := 28

/-- A bound on the decimals with zeros appended: the coefficient has room for 28 zeros at most. -/
abbrev maxPaddedScale : Nat := 56

theorem maxScale_le : maxScale ≤ maxPaddedScale := by decide

/-- The decimal with these parts, if they are within bounds. -/
def make? (negative : Bool) (coefficient scale : Nat) : Option Decimal :=
  if hc : coefficient < twoTo 96 then
    if hs : scale ≤ 56 then some ⟨negative, coefficient, scale, hc, hs⟩ else none
  else none

/-- The whole number `n` without a sign, if its coefficient fits. -/
def ofNat? (n : Nat) : Option Decimal := make? false n 0

/-- The whole number `n`, if its coefficient fits. -/
def ofInt? (n : Int) : Option Decimal := make? (decide (n < 0)) n.natAbs 0

/-- A whole number that fits because it is below `2 ^ 64`. -/
def ofSmall (n : Nat) (h : n < twoTo 64 := by decide) : Decimal :=
  ⟨false, n, 0, Nat.lt_trans h (by decide), by omega⟩

def zero : Decimal := ofSmall 0
def one : Decimal := ofSmall 1
def two : Decimal := ofSmall 2
def ten : Decimal := ofSmall 10

/-- The circle constant to 28 decimals. -/
def pi : Decimal := ⟨false, 31415926535897932384626433833, 28, by decide, maxScale_le⟩

/-- The base of the natural logarithm to 28 decimals. -/
def e : Decimal := ⟨false, 27182818284590452353602874714, 28, by decide, maxScale_le⟩

instance : Inhabited Decimal := ⟨zero⟩

/-! ## Value and order -/

/-- The coefficient with its sign. -/
def signed (d : Decimal) : Int := if d.negative then -(d.coefficient : Int) else d.coefficient

/-- The value in units of `10 ^ (-56)`, which is a whole number. -/
def units (d : Decimal) : Int := d.signed * tenTo (maxPaddedScale - d.scale)

def isZero (d : Decimal) : Bool := d.coefficient == 0

/-- Comparison by value: neither the scale nor the sign of a zero counts. -/
def compare (a b : Decimal) : Ordering := Ord.compare a.units b.units

/-- Equality by value. -/
def same (a b : Decimal) : Bool := a.units == b.units

def less (a b : Decimal) : Bool := decide (a.units < b.units)

/-! ## Sign and whole part -/

/-- The opposite number; the sign of a zero flips too. -/
def neg (d : Decimal) : Decimal := { d with negative := !d.negative }

def abs (d : Decimal) : Decimal := { d with negative := false }

/-- The digits before the point. -/
def whole (d : Decimal) : Nat := d.coefficient / tenTo d.scale

/-- Whether the digits after the point are all zero. -/
def isWhole (d : Decimal) : Bool := d.coefficient % tenTo d.scale == 0

/-- The digits before the point, with the sign, at scale 0. -/
def trunc (d : Decimal) : Decimal :=
  { d with
    coefficient := d.whole
    scale := 0
    coefficient_lt := Nat.lt_of_le_of_lt (Nat.div_le_self _ _) d.coefficient_lt
    scale_le := Nat.zero_le _ }

/-- The part after the point, as a whole number of units of `10 ^ (- scale)`, with the sign. -/
def fraction (d : Decimal) : Decimal :=
  { d with
    coefficient := d.coefficient % tenTo d.scale
    coefficient_lt := Nat.lt_of_le_of_lt (Nat.mod_le _ _) d.coefficient_lt }

/-- The value without its decimals, toward zero. -/
def toInt (d : Decimal) : Int := if d.negative then -(d.whole : Int) else d.whole

/-- The value without its decimals, if that is a 64-bit signed number. -/
def toInt64? (d : Decimal) : Option Int :=
  let n := d.toInt
  if -(twoTo 63 : Int) ≤ n ∧ n < twoTo 63 then some n else none

/-- The value without its decimals, if it has no sign and that is a 64-bit number. -/
def toIndex? (d : Decimal) : Option Nat :=
  if d.negative = false ∧ d.whole < twoTo 64 then some d.whole else none

/-! ## Text -/

/-- The digits of a coefficient with a point before the last `scale` of them. At least one
    digit stands before the point. -/
def digits (coefficient scale : Nat) : List Char :=
  let all := (Nat.toDigits 10 coefficient)
  if scale = 0 then all
  else
    let padded := List.replicate (scale + 1 - all.length) '0' ++ all
    padded.take (padded.length - scale) ++ '.' :: padded.drop (padded.length - scale)

/-- The text of a decimal: a minus sign if it is set, then exactly `scale` decimals. -/
def text (d : Decimal) : String :=
  String.ofList ((if d.negative then ['-'] else []) ++ digits d.coefficient d.scale)

instance : ToString Decimal := ⟨text⟩

end Decimal
end Formula

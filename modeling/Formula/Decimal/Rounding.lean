-- SUMMARY: The seven ways to round a quotient to a whole number, and rounding a decimal to a number of decimals or significant digits.
import Formula.Decimal.Basic
import Formula.Powers

/-! # Rounding

A rounding mode chooses between the two whole numbers around a quotient. `roundQuotient` works on
magnitudes, so the two directed modes need the sign. Rounding a decimal to fewer decimals is one
exact rounded division by a power of ten.

A `Precision` bounds the number of significant digits of a result. -/

namespace Formula

/-- How a value between two neighbours is rounded. The first three modes go to the nearer
    neighbour and differ in what they do with a value in the middle. -/
inductive RoundingMode where
  | nearestEven
  | nearestAway
  | nearestTowardZero
  | towardZero
  | awayFromZero
  | towardNegative
  | towardPositive
deriving DecidableEq

namespace RoundingMode

/-- Whether the magnitude `quotient + remainder / divisor` is rounded to `quotient + 1`. -/
def roundsUp (mode : RoundingMode) (negative : Bool) (quotient remainder divisor : Nat) : Bool :=
  match mode with
  | nearestEven =>
    decide (divisor < 2 * remainder) || (decide (2 * remainder = divisor) && quotient % 2 == 1)
  | nearestAway => decide (divisor ≤ 2 * remainder)
  | nearestTowardZero => decide (divisor < 2 * remainder)
  | towardZero => false
  | awayFromZero => decide (0 < remainder)
  | towardNegative => negative && decide (0 < remainder)
  | towardPositive => !negative && decide (0 < remainder)

end RoundingMode

/-- The magnitude `numerator / divisor` rounded to a whole number. -/
def roundQuotient (mode : RoundingMode) (negative : Bool) (numerator divisor : Nat) : Nat :=
  let quotient := numerator / divisor
  if mode.roundsUp negative quotient (numerator % divisor) divisor then quotient + 1 else quotient

/-- Rounding yields one of the two neighbours of the quotient. -/
theorem roundQuotient_le (mode : RoundingMode) (negative : Bool) (numerator divisor : Nat) :
    roundQuotient mode negative numerator divisor ≤ numerator / divisor + 1 := by
  simp only [roundQuotient]
  split <;> omega

theorem le_roundQuotient (mode : RoundingMode) (negative : Bool) (numerator divisor : Nat) :
    numerator / divisor ≤ roundQuotient mode negative numerator divisor := by
  simp only [roundQuotient]
  split <;> omega

/-- Dropping `drop` digits half to even. -/
def dropDigits (n drop : Nat) : Nat := roundQuotient .nearestEven false n (tenTo drop)

namespace Decimal

private theorem roundQuotient_lt (mode : RoundingMode) (d : Decimal) {places : Nat}
    (h : places < d.scale) :
    roundQuotient mode d.negative d.coefficient (tenTo (d.scale - places)) < twoTo 96 := by
  have hle := roundQuotient_le mode d.negative d.coefficient (tenTo (d.scale - places))
  have hten : tenTo 1 ≤ tenTo (d.scale - places) := tenTo_le_tenTo (by omega)
  have hdiv : d.coefficient / tenTo (d.scale - places) ≤ d.coefficient / 10 :=
    Nat.div_le_div_left hten (by omega)
  have hlt := d.coefficient_lt
  have hroom : 10 ≤ twoTo 96 := by decide
  omega

/-- The value rounded to `places` decimals; a value with no more decimals stays as it is. A
    result of zero has no sign, unless the value itself is a zero with a sign. -/
def roundTo (d : Decimal) (places : Nat) (mode : RoundingMode) : Decimal :=
  if h : places < d.scale then
    let coefficient := roundQuotient mode d.negative d.coefficient (tenTo (d.scale - places))
    { negative := d.negative && (d.isZero || coefficient != 0)
      coefficient := coefficient
      scale := places
      coefficient_lt := roundQuotient_lt mode d h
      scale_le := by have := d.scale_le; omega }
  else d

/-! ## Trailing zeros -/

/-- Removes decimals that are zero, from the right, until `scale` is used up. -/
def stripZeros (coefficient : Nat) : Nat → Nat × Nat
  | 0 => (coefficient, 0)
  | scale + 1 =>
    if coefficient % 10 = 0 then stripZeros (coefficient / 10) scale else (coefficient, scale + 1)

theorem stripZeros_fst_le (coefficient scale : Nat) :
    (stripZeros coefficient scale).1 ≤ coefficient := by
  induction scale generalizing coefficient with
  | zero => simp [stripZeros]
  | succ scale ih =>
    simp only [stripZeros]
    split
    · exact Nat.le_trans (ih _) (Nat.div_le_self _ _)
    · exact Nat.le_refl _

theorem stripZeros_snd_le (coefficient scale : Nat) :
    (stripZeros coefficient scale).2 ≤ scale := by
  induction scale generalizing coefficient with
  | zero => simp [stripZeros]
  | succ scale ih =>
    simp only [stripZeros]
    split
    · exact Nat.le_succ_of_le (ih _)
    · exact Nat.le_refl _

/-- The representation without trailing zero decimals. Zero becomes a plain `0`. -/
def normalize (d : Decimal) : Decimal :=
  if d.isZero then zero
  else
    { negative := d.negative
      coefficient := (stripZeros d.coefficient d.scale).1
      scale := (stripZeros d.coefficient d.scale).2
      coefficient_lt := Nat.lt_of_le_of_lt (stripZeros_fst_le _ _) d.coefficient_lt
      scale_le := Nat.le_trans (stripZeros_snd_le _ _) d.scale_le }

/-! ## More decimals -/

/-- Appends at most `count` zero decimals, as long as the coefficient and the scale have room. -/
def appendZeros (d : Decimal) : Nat → Decimal
  | 0 => d
  | count + 1 =>
    if h : d.coefficient * 10 < twoTo 96 ∧ d.scale + 1 ≤ 56 then
      appendZeros { d with
        coefficient := d.coefficient * 10
        scale := d.scale + 1
        coefficient_lt := h.1
        scale_le := h.2 } count
    else d

/-- A zero at another scale, with its sign. -/
def zeroAt (d : Decimal) (places : Nat) : Decimal :=
  { d with
    coefficient := 0
    scale := min places maxScale
    coefficient_lt := by decide
    scale_le := by simp only [maxScale]; omega }

/-- Raises the scale to `places` by appending zeros, or as near to it as the coefficient has room.
    A zero gets no more than 28 decimals; a scale that is large enough already stays. -/
def padTo (d : Decimal) (places : Nat) : Decimal :=
  if places ≤ d.scale then d
  else if d.isZero then d.zeroAt places
  else d.appendZeros (places - d.scale)

/-! ## Significant digits -/

/-- The number of digits of the coefficient; zero counts as one digit. -/
def digitCount (d : Decimal) : Nat := (Nat.toDigits 10 d.coefficient).length

end Decimal
end Formula

-- SUMMARY: Addition, subtraction, multiplication, division and remainder of decimals, each with its own overflow condition.
import Formula.Decimal.Rounding
import Formula.Powers

/-! # Decimal arithmetic

A sum or product is computed exactly and then fitted: the fewest digits are dropped, half to even,
such that the coefficient and the scale are within bounds (`Decimal.fit?`). A quotient is found by
long division, a block of digits at a time. An operation without a result within bounds is `none`.

The scale of a result and the sign of a zero are part of each rule, since both show in the text. -/

namespace Formula
namespace Decimal

/-! ## Fitting an exact result -/

/-- The fewest digits to drop from `n / 10 ^ scale` such that a decimal can hold it. -/
def dropCount? (n scale : Nat) : Option Nat :=
  (List.range (scale + 1)).find? fun drop =>
    decide (scale - drop ≤ maxScale) && decide (dropDigits n drop < limit)

/-- The decimal nearest to `n / 10 ^ scale` that keeps as many digits as fit. -/
def fit? (negative : Bool) (n scale : Nat) : Option Decimal :=
  match dropCount? n scale with
  | some drop => make? negative (dropDigits n drop) (scale - drop)
  | none => none

/-! ## Sum and difference -/

/-- The signed coefficient at a scale that is at least the decimal's own. -/
def signedAt (d : Decimal) (scale : Nat) : Int := d.signed * tenTo (scale - d.scale)

/-- The sum, at the larger of the two scales if it fits and fitted otherwise. A zero operand leaves
    the other operand as it is, and an exact zero has no sign. -/
def add? (a b : Decimal) : Option Decimal :=
  if a.isZero then some b
  else if b.isZero then some a
  else
    let scale := max a.scale b.scale
    let total := a.signedAt scale + b.signedAt scale
    if total.natAbs < limit then make? (decide (total < 0)) total.natAbs scale
    else fit? (decide (total < 0)) total.natAbs scale

/-- The difference. Zero minus zero is the second zero. -/
def sub? (a b : Decimal) : Option Decimal :=
  if a.isZero && b.isZero then some b else add? a b.neg

/-! ## Product -/

/-- A coefficient of at most 32 bits. -/
def isNarrow (d : Decimal) : Bool := decide (d.coefficient < twoTo 32)

/-- The product. If a factor is zero it is a plain `0`. Two narrow factors whose decimals exceed
    47 together give `0` as well, and a product of narrow factors that rounds to zero has no
    sign. -/
def mul? (a b : Decimal) : Option Decimal :=
  let narrow := a.isNarrow && b.isNarrow
  let scale := a.scale + b.scale
  if a.isZero || b.isZero then some zero
  else if narrow && decide (47 < scale) then some zero
  else
    (fit? (a.negative != b.negative) (a.coefficient * b.coefficient) scale).map fun d =>
      { d with negative := d.negative && !(narrow && d.isZero) }

/-! ## Quotient -/

/-- The outcome of a long division: the digits found, their scale, and whether a remainder was
    ever left. -/
structure Quotient where
  digits : Nat
  scale : Int
  inexact : Bool

/-- The largest count of at most `most` digits by which `q` can grow below the limit. -/
def growth (q : Nat) : Nat → Nat
  | 0 => 0
  | most + 1 => if q * tenTo (most + 1) < limit then most + 1 else growth q most

theorem growth_le (q most : Nat) : growth q most ≤ most := by
  induction most with
  | zero => simp [growth]
  | succ most ih => simp only [growth]; split <;> omega

/-- How many digits a quotient `q` at `scale` takes next: decimals that the remainder `r` yields,
    or zeros before the point when nothing remains. -/
def nextBlock (q r : Nat) (scale : Int) : Nat :=
  if r = 0 then min 9 (-scale).toNat
  else if scale < 28 then growth q (if scale ≤ 19 then 9 else (28 - scale).toNat)
  else 0

theorem nextBlock_le (q r : Nat) (scale : Int) : nextBlock q r scale ≤ (28 - scale).toNat := by
  unfold nextBlock
  split
  · omega
  · split
    · refine Nat.le_trans (growth_le _ _) ?_
      split <;> omega
    · exact Nat.zero_le _

/-- The last digit: the quotient is rounded half to even on what is left. -/
def finishQuotient (divisor q r : Nat) (scale : Int) : Option Quotient :=
  let rounded := if RoundingMode.nearestEven.roundsUp false q r divisor then q + 1 else q
  if rounded = limit then
    if scale ≤ 0 then none else some ⟨(rounded + 5) / 10, scale - 1, true⟩
  else some ⟨rounded, scale, true⟩

/-- One digit too many was found: it is dropped, half to even. -/
def dropLastDigit (q r : Nat) (scale : Int) (inexact : Bool) : Option Quotient :=
  if scale ≤ 0 then none
  else
    let shorter := q / 10
    let last := q % 10
    let up := decide (5 < last) || (last == 5 && (r != 0 || shorter % 2 == 1))
    some ⟨if up then shorter + 1 else shorter, scale - 1, inexact⟩

/-- Long division, from the quotient `q` found so far at `scale` and the remainder `r`. While a
    remainder is left, further decimals are found in blocks; while the scale is negative, the
    quotient takes zeros. -/
def divideFrom (divisor q r : Nat) (scale : Int) (inexact : Bool) : Option Quotient :=
  if r = 0 ∧ 0 ≤ scale then some ⟨q, scale, inexact⟩
  else
    let inexact := inexact || r != 0
    let block := nextBlock q r scale
    if block = 0 then
      if scale < 0 then none else finishQuotient divisor q r scale
    else
      let q' := q * tenTo block + r * tenTo block / divisor
      let r' := r * tenTo block % divisor
      if limit ≤ q * tenTo block then none
      else if limit ≤ q' then dropLastDigit q' r' (scale + block) inexact
      else divideFrom divisor q' r' (scale + block) inexact
termination_by (28 - scale).toNat
decreasing_by
  have := nextBlock_le q r scale
  omega

/-- Removes `count` zero decimals at once, if the scale has them and they are zero. -/
def removeZeros (q scale count : Nat) : Nat × Nat :=
  if count ≤ scale ∧ q % tenTo count = 0 then (q / tenTo count, scale - count) else (q, scale)

/-- Removes zero decimals in blocks of eight, as long as the low 32 bits of `q` are zero. -/
def removeZeroBlocks (q scale : Nat) : Nat × Nat :=
  if h : q % twoTo 32 = 0 ∧ 8 ≤ scale ∧ q % tenTo 8 = 0 then
    removeZeroBlocks (q / tenTo 8) (scale - 8)
  else (q, scale)
termination_by scale

/-- The decimals of an inexact quotient: blocks of eight, four, two and one zeros are tried once
    each, so some trailing zeros can stay. -/
def trimQuotient (q scale : Nat) : Nat × Nat :=
  let (q, scale) := removeZeroBlocks q scale
  let (q, scale) := if q % 16 = 0 then removeZeros q scale 4 else (q, scale)
  let (q, scale) := if q % 4 = 0 then removeZeros q scale 2 else (q, scale)
  if q % 2 = 0 then removeZeros q scale 1 else (q, scale)

/-- The quotient; `none` if the divisor is zero or the quotient is too large. -/
def div? (a b : Decimal) : Option Decimal :=
  if b.isZero then none
  else if a.isZero then some zero
  else
    match divideFrom b.coefficient (a.coefficient / b.coefficient) (a.coefficient % b.coefficient)
        (a.scale - b.scale) false with
    | none => none
    | some quotient =>
      let (digits, scale) :=
        if quotient.inexact then trimQuotient quotient.digits quotient.scale.toNat
        else (quotient.digits, quotient.scale.toNat)
      make? (a.negative != b.negative && digits != 0) digits scale

/-! ## Remainder -/

/-- The remainder of the truncated division, with the sign of `a`; `none` if `b` is zero. A value
    smaller than `b` is its own remainder. -/
def rem? (a b : Decimal) : Option Decimal :=
  if b.isZero then none
  else if a.isZero then some zero
  else
    let scale := max a.scale b.scale
    let m := a.coefficient * tenTo (scale - a.scale)
    let n := b.coefficient * tenTo (scale - b.scale)
    if m = n then some zero
    else if m < n then some a
    else make? (a.negative && m % n != 0) (m % n) scale

/-! ## Whole numbers around a value -/

/-- The largest whole number that is not above the value. A scale of zero stays as it is. -/
def floor (d : Decimal) : Decimal :=
  if d.scale = 0 then d
  else if d.negative && !d.isWhole then (sub? d.trunc one).getD d.trunc
  else d.trunc

/-- The smallest whole number that is not below the value. -/
def ceil (d : Decimal) : Decimal :=
  if d.scale = 0 then d
  else if d.isWhole || d.negative then d.trunc
  else (add? d.trunc one).getD d.trunc

/-! ## Significant digits -/

/-- Ten to a power that a 64-bit signed number can hold. -/
def powerOfTen? (k : Nat) : Option Decimal :=
  if k ≤ 18 then make? false (tenTo k) 0 else none

/-- The value rounded to at most `precision` significant digits, where zero stands for no limit.
    Inside the decimals this is one rounding; inside the whole part the value is scaled down by a
    power of ten, rounded and scaled up again, and stays as it is where that is out of bounds. -/
def roundSignificant (d : Decimal) (precision : Nat) (mode : RoundingMode) : Decimal :=
  if precision = 0 || d.isZero || decide (d.digitCount ≤ precision) then d
  else
    let excess := d.digitCount - precision
    if excess ≤ d.scale then d.roundTo (d.scale - excess) mode
    else
      (do
        let factor ← powerOfTen? (excess - d.scale)
        let scaled ← d.div? factor
        (scaled.roundTo 0 mode).mul? factor).getD d

end Decimal
end Formula

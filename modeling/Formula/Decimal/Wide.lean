-- SUMMARY: Wide decimals for intermediate results: a 192-bit magnitude with up to 57 decimals.
import Formula.Decimal.Arithmetic
import Formula.Powers

/-! # Wide decimals

Large powers and logarithms are computed with about twice the digits of a decimal. A wide result
that has no room drops digits: in rounded blocks if only its scale is too large, and in truncated
blocks with one correction at the end if its magnitude is. The same rule with the bounds of a
decimal takes a wide number back (`Wide.toDecimal?`). -/

namespace Formula

/-- A number `± magnitude / 10 ^ scale` of an intermediate result. -/
structure Wide where
  negative : Bool
  magnitude : Nat
  scale : Nat

namespace Wide

/-- The bounds of a format: the bits of its magnitude and its largest scale. -/
structure Room where
  bits : Nat
  places : Nat

/-- The bounds of wide numbers. -/
def wideRoom : Room := ⟨192, 57⟩

/-- The bounds of decimals. -/
def decimalRoom : Room := ⟨96, 28⟩

/-- The number of binary digits. -/
def bitLength (n : Nat) : Nat := if n = 0 then 0 else n.log2 + 1

/-- A lower estimate of the decimal digits that a number of binary digits can hold. -/
def digitEstimate (bits : Nat) : Nat := bits * 77 / 256

/-! ## Dropping digits -/

/-- Drops `count` digits in blocks of at most nine, each half to even. -/
def dropRounded (n count : Nat) : Nat :=
  if count = 0 then n
  else dropRounded (dropDigits n (min 9 count)) (count - min 9 count)
termination_by count
decreasing_by omega

/-- Drops `count` digits in blocks of at most nine, and keeps the last block dropped. -/
def dropTruncated (n count last : Nat) : Nat × Nat :=
  if count = 0 then (n, last)
  else
    let block := tenTo (min 9 count)
    dropTruncated (n / block) (count - min 9 count) (n % block)
termination_by count
decreasing_by omega

/-- Drops single digits until the magnitude has room, and keeps the last one dropped. -/
def dropUntilRoom (bits n last : Nat) : Nat → Option (Nat × Nat × Nat)
  | 0 => if n < twoTo bits then some (n, last, 0) else none
  | scale + 1 =>
    if n < twoTo bits then some (n, last, scale + 1)
    else dropUntilRoom bits (n / 10) (n % 10) scale

/-- The magnitude and scale of `n / 10 ^ scale` within bounds. -/
def fitInto? (room : Room) (n scale : Nat) : Option (Nat × Nat) :=
  if n < twoTo room.bits then
    some (dropRounded n (scale - room.places), min scale room.places)
  else
    let excess := bitLength n - room.bits
    let count := max (digitEstimate excess + 1) (scale - room.places)
    if scale < count then none
    else
      let (n, last) := dropTruncated n count 0
      match dropUntilRoom room.bits n last (scale - count) with
      | none => none
      | some (n, last, scale) =>
        some (if 1 < last || (last == 1 && n % 2 == 1) then n + 1 else n, scale)

/-! ## Arithmetic -/

def ofDecimal (d : Decimal) : Wide := ⟨d.negative, d.coefficient, d.scale⟩

/-- The decimal nearest to a wide number, up to the way digits are dropped. -/
def toDecimal? (w : Wide) : Option Decimal :=
  match fitInto? decimalRoom w.magnitude w.scale with
  | some (n, scale) => Decimal.make? w.negative n scale
  | none => none

def mul? (a b : Wide) : Option Wide :=
  match fitInto? wideRoom (a.magnitude * b.magnitude) (a.scale + b.scale) with
  | some (n, scale) => some ⟨a.negative != b.negative, n, scale⟩
  | none => none

/-- The sum of the magnitudes at the larger scale; both numbers have the sign of the first. -/
def addAligned (a b : Wide) : Wide :=
  let scale := max a.scale b.scale
  { a with
    magnitude := a.magnitude * tenTo (scale - a.scale) + b.magnitude * tenTo (scale - b.scale)
    scale := scale }

/-- The number of digits a magnitude can still take. -/
def freeDigits (n : Nat) : Nat := digitEstimate (wideRoom.bits - bitLength n)

/-- Long division by a small number: the quotient is extended by up to nine digits at a time while
    a remainder is left, then rounded by half of the divisor's whole part. -/
def divideFrom (divisor q r scale : Nat) : Nat × Nat :=
  let block := min 9 (freeDigits q)
  if h : r = 0 ∨ 57 < scale ∨ block = 0 then
    (if divisor / 2 < r || (r == divisor / 2 && q % 2 == 1) then q + 1 else q, scale)
  else
    divideFrom divisor (q * tenTo block + r * tenTo block / divisor) (r * tenTo block % divisor)
      (scale + block)
termination_by 58 - scale
decreasing_by omega

/-- The quotient by a small number. -/
def divSmall (w : Wide) (divisor : Nat) : Wide :=
  let (q, scale) := divideFrom divisor (w.magnitude / divisor) (w.magnitude % divisor) w.scale
  { w with magnitude := q, scale := scale }

/-- A number so small that a sum of a wide number's size no longer shows it. -/
def isTiny (w : Wide) : Bool :=
  (decide (w.magnitude < twoTo 32) && decide (38 ≤ w.scale)) ||
  (decide (w.magnitude < twoTo 64) && decide (48 ≤ w.scale)) ||
  (decide (w.magnitude < twoTo 96) && decide (57 ≤ w.scale))

end Wide
end Formula

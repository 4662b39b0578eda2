-- SUMMARY: The shortest decimal digits that read back as a given binary floating-point number.
import Formula.Decimal.Binary64
import Formula.Powers

/-! # Shortest digits

The real numbers that round to a binary number form an interval around it. For a growing number of
digits, the decimals next to the number are tried, and the first one within the interval is the
shortest text that reads back; of two, the nearer one is taken. All comparisons are exact. -/

namespace Formula

/-- The digits of a decimal `digits * 10 ^ exponent`. -/
structure DecimalDigits where
  digits : Nat
  exponent : Int

namespace Binary64

/-- A positive number with the ends of the interval that rounds to it, all over one denominator.
    The ends belong to the interval if the mantissa is even. -/
structure Interval where
  low : Nat
  value : Nat
  high : Nat
  denominator : Nat
  closed : Bool

/-- The interval of a positive finite number. Below a power of two the neighbour is only half as
    far. -/
def interval (x : Float) : Interval :=
  let bits := x.toBits.toNat
  let exponent : Nat := bits / twoTo 52 % twoTo 11
  let fraction : Nat := bits % twoTo 52
  let mantissa := if exponent = 0 then fraction else fraction + twoTo 52
  let power : Int := (max exponent 1 : Nat) - 1077
  let unit := twoTo power.toNat
  let below := if fraction = 0 && decide (1 < exponent) then 1 else 2
  { low := (4 * mantissa - below) * unit
    value := 4 * mantissa * unit
    high := (4 * mantissa + 2) * unit
    denominator := twoTo (-power).toNat
    closed := mantissa % 2 == 0 }

namespace Interval

/-- Whether `digits * 10 ^ exponent` lies in the interval. -/
def contains (i : Interval) (digits : Nat) (exponent : Int) : Bool :=
  let scaled := digits * tenTo exponent.toNat * i.denominator
  let shift := tenTo (-exponent).toNat
  if i.closed then decide (i.low * shift ≤ scaled) && decide (scaled ≤ i.high * shift)
  else decide (i.low * shift < scaled) && decide (scaled < i.high * shift)

/-- The decimal with the given exponent nearest to the value, if it lies in the interval. -/
def candidate? (i : Interval) (exponent : Int) : Option DecimalDigits :=
  let numerator := i.value * tenTo (-exponent).toNat
  let divisor := i.denominator * tenTo exponent.toNat
  let below := numerator / divisor
  let nearer := if divisor < 2 * (numerator % divisor) then below + 1 else below
  let other := if nearer = below then below + 1 else below
  if i.contains nearer exponent then some ⟨nearer, exponent⟩
  else if i.contains other exponent then some ⟨other, exponent⟩
  else none

/-- How many zeros follow the point of a value below one, at most `fuel` of them. -/
def leadingZeros (numerator denominator : Nat) : Nat → Nat
  | 0 => 0
  | fuel + 1 =>
    if denominator ≤ numerator * 10 then 0
    else leadingZeros (numerator * 10) denominator fuel + 1

/-- The number of digits before the point; it is negative if zeros follow the point. -/
def magnitude (i : Interval) : Int :=
  if i.denominator ≤ i.value then (Nat.toDigits 10 (i.value / i.denominator)).length
  else -(leadingZeros i.value i.denominator 400 : Nat)

/-- The first candidate with `count` digits or more, if there is one within `fuel` further
    digits. -/
def search (i : Interval) (magnitude : Int) (count : Nat) : Nat → DecimalDigits
  | 0 => ⟨0, 0⟩
  | fuel + 1 =>
    match i.candidate? (magnitude - count) with
    | some found => found
    | none => search i magnitude (count + 1) fuel

end Interval

/-- The shortest digits of a positive finite number. Seventeen digits are always enough. A number
    just below a power of ten can be found as ten units of the next place, which is one digit. -/
def shortest (x : Float) : DecimalDigits :=
  let i := interval x
  let found := i.search i.magnitude 1 17
  if found.digits = 10 then ⟨1, found.exponent + 1⟩ else found

end Binary64
end Formula

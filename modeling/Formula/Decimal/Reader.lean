-- SUMMARY: Reading decimals: plain and scientific text, and hexadecimal whole numbers.
import Formula.Decimal.Arithmetic
import Formula.Powers

/-! # Reading decimals

Plain text is an optional sign, digits with at most one point, and underscores anywhere after the
first digit. Digits are taken as long as the coefficient and the scale have room; the first digit
after the point that has none rounds the value, and the rest is only checked. Scientific text
shifts the point of a plain one.

The scanner is a state (`Reading`) that consumes one character at a time, so that each rule is one
case of `Reading.step`. -/

namespace Formula
namespace Decimal

/-! ## Plain text -/

/-- The value of an ASCII digit. -/
def digitValue? (c : Char) : Option Nat := if c.isDigit then some (c.toNat - '0'.toNat) else none

/-- What has been read of a plain decimal: the coefficient, the decimals read, whether a digit and
    the point have occurred, and whether the digits are full. -/
structure Reading where
  coefficient : Nat
  scale : Nat
  hasDigit : Bool
  hasPoint : Bool
  isFull : Bool

namespace Reading

def start : Reading := ⟨0, 0, false, false, false⟩

/-- The first digit without room rounds the value up from five on. Without decimals left there is
    nothing to give up, so a whole part that grows too large fails. -/
def roundOff (r : Reading) (digit : Nat) : Option Reading :=
  let coefficient := if 5 ≤ digit then r.coefficient + 1 else r.coefficient
  if coefficient < limit then some { r with coefficient := coefficient, isFull := true }
  else if r.scale = 0 then none
  else some { r with coefficient := (coefficient + 4) / 10, scale := r.scale - 1, isFull := true }

/-- One more digit. -/
def digit (r : Reading) (value : Nat) : Option Reading :=
  if r.isFull then some r
  else if r.coefficient * 10 + value < limit ∧ r.scale < maxScale then
    some { r with
      coefficient := r.coefficient * 10 + value
      scale := if r.hasPoint then r.scale + 1 else r.scale
      hasDigit := true }
  else if r.hasPoint then r.roundOff value
  else none

/-- One more character. -/
def step (r : Reading) (c : Char) : Option Reading :=
  match digitValue? c with
  | some value => r.digit value
  | none =>
    if c = '.' && !r.hasPoint then some { r with hasPoint := true }
    else if c = '_' && r.hasDigit then some r
    else none

end Reading

/-- The decimal in plain text without a sign. -/
def readUnsigned (negative : Bool) (text : List Char) : Option Decimal :=
  match text.foldlM Reading.step Reading.start with
  | some r =>
    if r.hasDigit then make? (negative && r.coefficient != 0) r.coefficient r.scale else none
  | none => none

/-- The decimal in plain text. A zero has no sign. -/
def readPlain (text : List Char) : Option Decimal :=
  match text with
  | '-' :: rest => readUnsigned true rest
  | '+' :: rest => readUnsigned false rest
  | _ => readUnsigned false text

/-! ## Scientific text -/

/-- A natural number below `2 ^ 32` in digits, with an optional plus sign. -/
def readCount (text : List Char) : Option Nat :=
  let digits := match text with
    | '+' :: rest => rest
    | _ => text
  if digits.isEmpty then none
  else
    match digits.mapM digitValue? with
    | some values =>
      let n := values.foldl (fun n d => 10 * n + d) 0
      if n < twoTo 32 then some n else none
    | none => none

/-- The same coefficient at another scale. -/
def withScale? (d : Decimal) (scale : Nat) : Option Decimal := make? d.negative d.coefficient scale

/-- The value times ten to the `exponent`, where the point has room to move. -/
def shiftUp? (d : Decimal) (exponent : Nat) : Option Decimal :=
  if exponent ≤ d.scale then d.withScale? (d.scale - exponent)
  else if exponent ≤ maxScale then
    (do (← d.mul? (← make? false (tenTo exponent) 0)).normalize)
  else none

/-- The value divided by ten to the `exponent`. -/
def shiftDown? (d : Decimal) (exponent : Nat) : Option Decimal :=
  if d.scale + exponent ≤ maxScale then d.withScale? (d.scale + exponent) else none

def isExponentMark (c : Char) : Bool := c == 'e' || c == 'E'

/-- The decimal in scientific text: a plain decimal, `e` or `E`, and a whole number. -/
def readScientific (text : List Char) : Option Decimal := do
  let base ← readPlain (text.takeWhile (!isExponentMark ·))
  match (text.dropWhile (!isExponentMark ·)).drop 1 with
  | '-' :: rest => base.shiftDown? (← readCount rest)
  | rest => base.shiftUp? (← readCount rest)

/-- The decimal in plain or scientific text. -/
def read (text : List Char) : Option Decimal :=
  if text.any isExponentMark then readScientific text else readPlain text

/-! ## Hexadecimal text -/

/-- The value of a hexadecimal digit in either letter case. -/
def hexValue? (c : Char) : Option Nat :=
  if c.isDigit then some (c.toNat - '0'.toNat)
  else if 'a' ≤ c ∧ c ≤ 'f' then some (c.toNat - 'a'.toNat + 10)
  else if 'A' ≤ c ∧ c ≤ 'F' then some (c.toNat - 'A'.toNat + 10)
  else none

/-- The whole number in hexadecimal digits, with an optional plus sign, if a decimal can hold
    it. -/
def readHex (text : List Char) : Option Decimal :=
  let digits := match text with
    | '+' :: rest => rest
    | _ => text
  if digits.isEmpty then none
  else
    match digits.mapM hexValue? with
    | some values => ofNat? (values.foldl (fun n d => 16 * n + d) 0)
    | none => none

end Decimal
end Formula

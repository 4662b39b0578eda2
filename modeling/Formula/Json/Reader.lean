-- SUMMARY: Reading JSON text.
import Formula.Decimal.Binary64
import Formula.Decimal.Reader
import Formula.Json.Basic
import Formula.Powers

/-! # Reading JSON

A reader takes a value off the front of the text and returns what is left. Arrays and objects may
be nested up to a limit. Of several fields with one name the last counts.

Whole numbers stay whole as long as they fit 64 bits. All other numbers are floating: a coefficient
of at most 64 bits, scaled by one power of ten. -/

namespace Formula
namespace Json

def isSpace (c : Char) : Bool := c == ' ' || c == '\n' || c == '\t' || c == '\r'

def skipSpace (text : List Char) : List Char := text.dropWhile isSpace

/-! ## Numbers -/

def digitsAhead (text : List Char) : List Char := text.takeWhile Char.isDigit

/-- The number of a list of digits. -/
def digitsValue (digits : List Char) : Nat :=
  digits.foldl (fun n c => 10 * n + (c.toNat - '0'.toNat)) 0

/-- Reads digits into a coefficient of at most 64 bits. Digits that no longer fit are left over. -/
def takeDigits (coefficient : Nat) : List Char → Nat × List Char
  | [] => (coefficient, [])
  | c :: rest =>
    let next := 10 * coefficient + (c.toNat - '0'.toNat)
    if next < twoTo 64 then takeDigits next rest else (coefficient, c :: rest)

/-- The floating number nearest to a power of ten. -/
def tenPower (exponent : Nat) : Float := Binary64.ofNat (tenTo exponent)

/-- Divides by powers of ten, at most `10 ^ 308` at a time. -/
def scaleDown (x : Float) (count : Nat) : Float :=
  if 308 < count then if x == 0 then x else scaleDown (x / tenPower 308) (count - 308)
  else x / tenPower count
termination_by count
decreasing_by omega

/-- A coefficient times a power of ten, if that is finite. -/
def scaledFloat? (coefficient : Nat) (exponent : Int) : Option Float :=
  let x := Binary64.ofNat coefficient
  if exponent < 0 then some (scaleDown x exponent.natAbs)
  else if 308 < exponent then if coefficient = 0 then some x else none
  else
    let y := x * tenPower exponent.toNat
    if y.isInf then none else some y

/-- The largest exponent of a number whose coefficient is not zero. -/
def maxExponent : Nat := 2147483647

/-- Reads an exponent after its mark and adds it to the one so far. The coefficient and exponent
    give a floating number. -/
def readExponent (coefficient : Nat) (exponent : Int) (text : List Char) :
    Option (Float × List Char) :=
  let (negative, text) := match text with
    | '-' :: rest => (true, rest)
    | '+' :: rest => (false, rest)
    | _ => (false, text)
  let digits := digitsAhead text
  let rest := text.drop digits.length
  if digits.isEmpty then none
  else
    let size := digitsValue digits
    if maxExponent < size then
      if coefficient ≠ 0 && !negative then none else some (0, rest)
    else
      (scaledFloat? coefficient (if negative then exponent - size else exponent + size)).map
        (·, rest)

/-- Reads what follows the digits of a floating number. -/
def readScale (coefficient : Nat) (exponent : Int) (text : List Char) :
    Option (Float × List Char) :=
  match text with
  | c :: rest =>
    if c = 'e' || c = 'E' then readExponent coefficient exponent rest
    else (scaledFloat? coefficient exponent).map (·, text)
  | [] => (scaledFloat? coefficient exponent).map (·, text)

/-- Reads the digits after a point. Digits that have no room are passed over. -/
def readFraction (coefficient : Nat) (exponent : Int) (text : List Char) :
    Option (Float × List Char) :=
  let digits := digitsAhead text
  let rest := text.drop digits.length
  if digits.isEmpty then none
  else
    let (coefficient, unused) := takeDigits coefficient digits
    readScale coefficient (exponent - (digits.length - unused.length : Nat)) rest

/-- Reads a number without its sign: whole if nothing but digits that fit are there. -/
def readMagnitude (text : List Char) : Option ((Nat ⊕ Float) × List Char) :=
  let digits := digitsAhead text
  let rest := text.drop digits.length
  match digits with
  | [] => none
  | '0' :: _ :: _ => none
  | _ =>
    let (coefficient, unused) := takeDigits 0 digits
    match rest with
    | '.' :: fraction =>
      (readFraction coefficient unused.length fraction).map fun (x, rest) => (.inr x, rest)
    | _ =>
      let isScaled := match rest with
        | c :: _ => c = 'e' || c = 'E'
        | [] => false
      if isScaled || !unused.isEmpty then
        (readScale coefficient unused.length rest).map fun (x, rest) => (.inr x, rest)
      else some (.inl coefficient, rest)

/-- Reads a number. The whole numbers are those of 64 bits with or without a sign; a negative zero
    is floating. -/
def readNumber (text : List Char) : Option (Json × List Char) :=
  match text with
  | '-' :: rest =>
    match readMagnitude rest with
    | some (.inl n, rest) =>
      if n ≠ 0 ∧ n ≤ twoTo 63 then some (integer (-(n : Int)), rest)
      else some (float (-(Binary64.ofNat n)), rest)
    | some (.inr x, rest) => some (float (-x), rest)
    | none => none
  | _ =>
    match readMagnitude text with
    | some (.inl n, rest) => some (integer n, rest)
    | some (.inr x, rest) => some (float x, rest)
    | none => none

/-! ## Text -/

/-- Reads four hexadecimal digits. -/
def readUnit (text : List Char) : Option (Nat × List Char) :=
  match text with
  | a :: b :: c :: d :: rest =>
    match [a, b, c, d].mapM Decimal.hexValue? with
    | some values => some (values.foldl (fun n digit => 16 * n + digit) 0, rest)
    | none => none
  | _ => none

/-- The character of two units that belong together. -/
def pairValue (high low : Nat) : Nat := 0x10000 + (high - 0xD800) * 0x400 + (low - 0xDC00)

/-- Reads a character given by its number, which can take two units. -/
def readCodePoint (text : List Char) : Option (Char × List Char) := do
  let (high, rest) ← readUnit text
  if 0xD800 ≤ high ∧ high < 0xDC00 then
    match rest with
    | '\\' :: 'u' :: rest =>
      let (low, rest) ← readUnit rest
      if 0xDC00 ≤ low ∧ low < 0xE000 then some (Char.ofNat (pairValue high low), rest) else none
    | _ => none
  else if 0xDC00 ≤ high ∧ high < 0xE000 then none
  else some (Char.ofNat high, rest)

/-- The character of an escape with a letter or sign of its own. -/
def escapeValue? (c : Char) : Option Char :=
  match c with
  | '"' => some '"'
  | '\\' => some '\\'
  | '/' => some '/'
  | 'b' => some (Char.ofNat 8)
  | 'f' => some (Char.ofNat 12)
  | 'n' => some '\n'
  | 'r' => some '\r'
  | 't' => some '\t'
  | _ => none

/-- Reads one character within quotes. -/
def readChar (text : List Char) : Option (Char × List Char) :=
  match text with
  | [] => none
  | '\\' :: 'u' :: rest => readCodePoint rest
  | '\\' :: c :: rest => (escapeValue? c).map (·, rest)
  | c :: rest => if c.toNat < 32 || c = '\\' then none else some (c, rest)

/-- Reads the characters up to the closing quote. Each takes at least one character of the text, so
    as many steps as the text is long are enough. -/
def readQuoted (text : List Char) : Nat → Option (List Char × List Char)
  | 0 => none
  | fuel + 1 =>
    match text with
    | '"' :: rest => some ([], rest)
    | _ => do
      let (c, rest) ← readChar text
      let (cs, rest) ← readQuoted rest fuel
      some (c :: cs, rest)

/-- Reads a text after its opening quote. -/
def readText (text : List Char) : Option (String × List Char) := do
  let (cs, rest) ← readQuoted text (text.length + 1)
  some (String.ofList cs, rest)

/-! ## Values -/

/-- Takes a word off the front of the text. -/
def expect (word : List Char) (text : List Char) : Option (List Char) :=
  if text.take word.length = word then some (text.drop word.length) else none

/-- The greatest number of nested arrays and objects. -/
def maxDepth : Nat := 127

mutual

/-- Reads a value that may nest `depth` arrays and objects. -/
def readValue (depth : Nat) (text : List Char) (fuel : Nat) : Option (Json × List Char) :=
  match fuel with
  | 0 => none
  | fuel + 1 =>
    match skipSpace text with
    | 'n' :: rest => (expect ['u', 'l', 'l'] rest).map (null, ·)
    | 't' :: rest => (expect ['r', 'u', 'e'] rest).map (bool true, ·)
    | 'f' :: rest => (expect ['a', 'l', 's', 'e'] rest).map (bool false, ·)
    | '"' :: rest => (readText rest).map fun (value, rest) => (Json.text value, rest)
    | '[' :: rest =>
      match depth with
      | 0 => none
      | depth + 1 =>
        match skipSpace rest with
        | ']' :: rest => some (array [], rest)
        | _ => (readItems depth rest fuel).map fun (items, rest) => (array items, rest)
    | '\x7b' :: rest =>
      match depth with
      | 0 => none
      | depth + 1 =>
        match skipSpace rest with
        | '\x7d' :: rest => some (object [], rest)
        | _ => (readFields depth rest fuel).map fun (fields, rest) => (ofFields fields, rest)
    | text => readNumber text

/-- Reads the items of an array up to its end. -/
def readItems (depth : Nat) (text : List Char) (fuel : Nat) : Option (List Json × List Char) :=
  match fuel with
  | 0 => none
  | fuel + 1 => do
    let (item, rest) ← readValue depth text fuel
    match skipSpace rest with
    | ',' :: rest =>
      let (items, rest) ← readItems depth rest fuel
      some (item :: items, rest)
    | ']' :: rest => some ([item], rest)
    | _ => none

/-- Reads the fields of an object up to its end. -/
def readFields (depth : Nat) (text : List Char) (fuel : Nat) :
    Option (List (String × Json) × List Char) :=
  match fuel with
  | 0 => none
  | fuel + 1 =>
    match skipSpace text with
    | '"' :: rest => do
      let (name, rest) ← readText rest
      match skipSpace rest with
      | ':' :: rest =>
        let (value, rest) ← readValue depth rest fuel
        match skipSpace rest with
        | ',' :: rest =>
          let (fields, rest) ← readFields depth rest fuel
          some ((name, value) :: fields, rest)
        | '\x7d' :: rest => some ([(name, value)], rest)
        | _ => none
      | _ => none
    | _ => none

end

/-- The value of a text, if it is JSON. Every step of the readers takes a character, but for those
    that begin the items of an array or the fields of an object. -/
def parse? (text : String) : Option Json :=
  match readValue maxDepth text.toList (2 * text.length + 2) with
  | some (json, rest) => if (skipSpace rest).isEmpty then some json else none
  | none => none

end Json
end Formula

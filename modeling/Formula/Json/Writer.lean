-- SUMMARY: Writing JSON values, on one line or indented.
import Formula.Decimal.Shortest
import Formula.Json.Basic
import Formula.Powers

/-! # Writing JSON

Text is written as it is, apart from quotes, backslashes and control characters. A floating number
has the shortest digits that read back; it is written in full between `1e-5` and `1e16`, and with
an exponent outside. -/

namespace Formula
namespace Json

/-! ## Text -/

/-- A digit below 16. -/
def hexDigit (n : Nat) : Char := Nat.digitChar n

/-- A character within quotes. -/
def escapeChar (c : Char) : List Char :=
  if c = '"' then ['\\', '"']
  else if c = '\\' then ['\\', '\\']
  else if c = '\n' then ['\\', 'n']
  else if c = '\r' then ['\\', 'r']
  else if c = '\t' then ['\\', 't']
  else if c.toNat = 8 then ['\\', 'b']
  else if c.toNat = 12 then ['\\', 'f']
  else if c.toNat < 32 then
    ['\\', 'u', '0', '0', hexDigit (c.toNat / 16), hexDigit (c.toNat % 16)]
  else [c]

/-- A text within quotes. -/
def quote (s : String) : String :=
  String.ofList ('"' :: (s.toList.flatMap escapeChar ++ ['"']))

/-! ## Numbers -/

/-- How floating numbers are written: in full if the exponent of the first digit is at least
    `fullFrom` and below `fullBelow`. -/
structure FloatFormat where
  fullFrom : Int
  fullBelow : Int

/-- The format of JSON numbers. -/
def floatFormat : FloatFormat := ⟨-5, 16⟩

/-- The digits with an exponent, such as `1.25e-7`. -/
def scientificText (digits : List Char) (exponent : Int) : String :=
  let fraction := match digits.drop 1 with
    | [] => []
    | rest => '.' :: rest
  let sign := if exponent < 0 then "e-" else "e+"
  String.ofList (digits.take 1 ++ fraction) ++ sign ++ toString exponent.natAbs

/-- The digits in full; at least one digit stands on each side of the point. -/
def fullText (digits : List Char) (exponent : Int) : String :=
  let zeros (n : Int) := List.replicate n.toNat '0'
  let before := exponent + 1
  if before ≤ 0 then String.ofList (['0', '.'] ++ zeros (-before) ++ digits)
  else if digits.length ≤ before then
    String.ofList (digits ++ zeros (before - digits.length) ++ ['.', '0'])
  else String.ofList (digits.take before.toNat ++ '.' :: digits.drop before.toNat)

/-- A positive finite number. -/
def positiveText (format : FloatFormat) (x : Float) : String :=
  let shortest := Binary64.shortest x
  let digits := Nat.toDigits 10 shortest.digits
  let exponent := shortest.exponent + digits.length - 1
  if format.fullFrom ≤ exponent ∧ exponent < format.fullBelow then fullText digits exponent
  else scientificText digits exponent

/-- A finite number. -/
def floatText (x : Float) : String :=
  let negative := twoTo 63 ≤ x.toBits.toNat
  let magnitude := if x == 0 then "0.0" else positiveText floatFormat x.abs
  if negative then "-" ++ magnitude else magnitude

/-! ## On one line -/

mutual

/-- The text of a value on one line without blanks. -/
def compact : Json → String
  | null => "null"
  | bool value => if value then "true" else "false"
  | integer value => toString value
  | float value => floatText value
  | text value => quote value
  | array items => "[" ++ compactItems items ++ "]"
  | object fields => "\x7b" ++ compactFields fields ++ "\x7d"

def compactItems : List Json → String
  | [] => ""
  | [item] => compact item
  | item :: rest => compact item ++ "," ++ compactItems rest

def compactFields : List (String × Json) → String
  | [] => ""
  | [(name, value)] => quote name ++ ":" ++ compact value
  | (name, value) :: rest => quote name ++ ":" ++ compact value ++ "," ++ compactFields rest

end

/-! ## Indented -/

/-- A line break and the blanks of a nesting level. -/
def newLine (level : Nat) : String := "\n" ++ String.ofList (List.replicate (2 * level) ' ')

mutual

/-- The text of a value with one item or field on each line. -/
def indentedAt (level : Nat) : Json → String
  | null => "null"
  | bool value => if value then "true" else "false"
  | integer value => toString value
  | float value => floatText value
  | text value => quote value
  | array [] => "[]"
  | array (item :: rest) =>
    "[" ++ newLine (level + 1) ++ indentedAt (level + 1) item ++ indentedItems (level + 1) rest ++
      newLine level ++ "]"
  | object [] => "\x7b\x7d"
  | object ((name, value) :: rest) =>
    "\x7b" ++ newLine (level + 1) ++ quote name ++ ": " ++ indentedAt (level + 1) value ++
      indentedFields (level + 1) rest ++ newLine level ++ "\x7d"

/-- The further items of an array. -/
def indentedItems (level : Nat) : List Json → String
  | [] => ""
  | item :: rest => "," ++ newLine level ++ indentedAt level item ++ indentedItems level rest

/-- The further fields of an object. -/
def indentedFields (level : Nat) : List (String × Json) → String
  | [] => ""
  | (name, value) :: rest =>
    "," ++ newLine level ++ quote name ++ ": " ++ indentedAt level value ++
      indentedFields level rest

end

/-- The text of a value with one item or field on each line. -/
def indented (json : Json) : String := indentedAt 0 json

end Json
end Formula

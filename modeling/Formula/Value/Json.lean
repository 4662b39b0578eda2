-- SUMMARY: Values as JSON, and JSON as values.
import Formula.Json.Reader
import Formula.Value.Basic

/-! # Values and JSON

Whole numbers of 64 bits stay whole; larger ones become text, and fractions become floating
numbers. Times, spans and bytes become their text, and trees their own JSON. In the other direction
a number is read from its text, so its decimals are those that are written. -/

namespace Formula
namespace Value

/-- A number as JSON. -/
def numberToJson (value : Decimal) : Json :=
  if value.isWhole then
    match value.toInt64? with
    | some n => .integer n
    | none => .text value.text
  else .float value.toFloat

mutual

def toJson : Value → Json
  | text value => .text value
  | number value => numberToJson value
  | boolean value => .bool value
  | array items => .array (itemsToJson items)
  | record fields => .object (fieldsToJson fields)
  | instant value => .text value.text
  | span value => .text value.text
  | binary bytes => .text (toText (binary bytes))
  | null => .null
  | tree value => value.toJson

def itemsToJson : List Value → List Json
  | [] => []
  | item :: rest => toJson item :: itemsToJson rest

def fieldsToJson : List (String × Value) → List (String × Json)
  | [] => []
  | (name, value) :: rest => (name, toJson value) :: fieldsToJson rest

end

/-- A floating number as a value, by its text or else by its value. -/
def ofFloat (x : Float) : Value :=
  match (Decimal.read (Json.floatText x).toList).or (Decimal.ofFloat? x) with
  | some value => number value
  | none => null

/-- A whole number as a value. -/
def ofInteger (n : Int) : Value :=
  match Decimal.ofInt? n with
  | some value => number value
  | none => null

mutual

def ofJson : Json → Value
  | .null => null
  | .bool value => boolean value
  | .integer value => ofInteger value
  | .float value => ofFloat value
  | .text value => text value
  | .array items => array (itemsOfJson items)
  | .object fields => record (fieldsOfJson fields)

def itemsOfJson : List Json → List Value
  | [] => []
  | item :: rest => ofJson item :: itemsOfJson rest

def fieldsOfJson : List (String × Json) → List (String × Value)
  | [] => []
  | (name, value) :: rest => (name, ofJson value) :: fieldsOfJson rest

end

end Value
end Formula

-- SUMMARY: Values of formulas: their types, their canonical text, and how a value of one type is read as another.
import Formula.Calendar.Rfc3339
import Formula.Decimal.Reader
import Formula.Tree.Json

/-! # Values

A value is text, a number, a boolean, an array, a record, an instant, a span of time, bytes,
nothing at all, or a tree that is not evaluated yet. The fields of a record are in the order of
their names.

Every value can be read as any type: the views (`Value.toNumber`, `Value.toBool`, …) never fail and
fall back on zero, false, the canonical text or an empty container. -/

namespace Formula

inductive Value where
  | text (value : String)
  | number (value : Decimal)
  | boolean (value : Bool)
  | array (items : List Value)
  | record (fields : List (String × Value))
  | instant (value : Instant)
  | span (value : Span)
  | binary (bytes : List UInt8)
  | null
  | tree (value : Tree)

instance : Inhabited Value := ⟨.null⟩

/-- The type of a value. -/
inductive ValueType where
  | text
  | number
  | boolean
  | array
  | record
  | instant
  | span
  | binary
  | null
  | tree
deriving DecidableEq

namespace ValueType

/-- The type in the words of messages. -/
def name : ValueType → String
  | text => "string"
  | number => "number"
  | boolean => "boolean"
  | array => "array"
  | record => "structure"
  | instant => "date-time"
  | span => "duration"
  | binary => "binary"
  | null => "null"
  | tree => "expression node"

end ValueType

namespace Value

def type : Value → ValueType
  | text _ => .text
  | number _ => .number
  | boolean _ => .boolean
  | array _ => .array
  | record _ => .record
  | instant _ => .instant
  | span _ => .span
  | binary _ => .binary
  | null => .null
  | tree _ => .tree

def isNull (value : Value) : Bool := value.type == .null

/-! ## Canonical text -/

/-- A byte in two hexadecimal digits. -/
def byteText (byte : UInt8) : List Char :=
  [Nat.digitChar (byte.toNat / 16), Nat.digitChar (byte.toNat % 16)]

mutual

/-- The canonical text of a value. -/
def toText : Value → String
  | text value => value
  | number value => value.text
  | boolean value => if value then "true" else "false"
  | array items => "[" ++ itemsText items ++ "]"
  | record fields => "\x7b" ++ fieldsText fields ++ "\x7d"
  | instant value => value.text
  | span value => value.text
  | binary bytes => "0x" ++ String.ofList (bytes.flatMap byteText)
  | null => "null"
  | tree value => value.text

def itemsText : List Value → String
  | [] => ""
  | [item] => toText item
  | item :: rest => toText item ++ ", " ++ itemsText rest

def fieldsText : List (String × Value) → String
  | [] => ""
  | [(name, value)] => name ++ ": " ++ toText value
  | (name, value) :: rest => name ++ ": " ++ toText value ++ ", " ++ fieldsText rest

end

/-! ## Views -/

/-- The number of a 64-bit whole number of milliseconds. -/
def millisNumber (millis : Int) : Decimal := (Decimal.ofInt? millis).getD .zero

/-- The value as a number: that of its text, the milliseconds of a time, or one for true. -/
def toNumber : Value → Decimal
  | number value => value
  | boolean value => if value then .one else .zero
  | text value => (Decimal.read (Text.trim value.toList)).getD .zero
  | instant value => millisNumber value.toMillis
  | span value => millisNumber value.toMillis
  | _ => .zero

/-- Whether two texts are equal but for the case of their ASCII letters. -/
def equalIgnoringCase (a b : String) : Bool :=
  a.toList.map Char.toLower == b.toList.map Char.toLower

/-- The value as a condition: numbers but zero, and the text `true`, are true. -/
def toBool : Value → Bool
  | boolean value => value
  | number value => !value.isZero
  | text value => equalIgnoringCase value "true"
  | _ => false

def toItems : Value → List Value
  | array items => items
  | _ => []

def toFields : Value → Dictionary Value
  | record fields => fields
  | _ => []

/-- The value as an instant: milliseconds since 1970, or text of RFC 3339. -/
def toInstant : Value → Instant
  | instant value => value
  | number value => (value.toInt64?.bind Instant.ofMillis?).getD .epoch
  | text value => (Rfc3339.read? (Text.trim value.toList)).getD .epoch
  | _ => .epoch

/-- The value as a span: milliseconds. -/
def toSpan : Value → Span
  | span value => value
  | number value => (value.toInt64?.bind Span.ofMillis?).getD .zero
  | _ => .zero

def toTree? : Value → Option Tree
  | tree value => some value
  | _ => none

end Value
end Formula

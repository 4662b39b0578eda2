-- SUMMARY: Comparison of values, equality in the language, and equality as data.
import Formula.Value.Basic

/-! # Order of values

The left value decides how two values are compared: as numbers, conditions, instants or spans, and
otherwise by their canonical texts. `Value.equal` is equality in the language, for which the types
must agree; `Value.same` is equality of the data. -/

namespace Formula
namespace Value

def compareBool (a b : Bool) : Ordering := Ord.compare a.toNat b.toNat

/-- The order of two texts by the numbers of their characters. -/
def compareText (a b : String) : Ordering :=
  if a = b then .eq else if a < b then .lt else .gt

/-- How a value stands to another. Nothing comes before everything else. -/
def compare (a b : Value) : Ordering :=
  match a with
  | number value => value.compare b.toNumber
  | boolean value => compareBool value b.toBool
  | instant value => value.compare b.toInstant
  | span value => value.compare b.toSpan
  | null => if b.isNull then .eq else .lt
  | _ => compareText a.toText b.toText

/-- Equality in the language. -/
def equal (a b : Value) : Bool := a.type == b.type && a.compare b == .eq

mutual

/-- Equality of the data: numbers by their value, trees by their tokens and shape. -/
def same : Value → Value → Bool
  | text a, text b => a == b
  | number a, number b => a.same b
  | boolean a, boolean b => a == b
  | array as, array bs => sameItems as bs
  | record as, record bs => sameFields as bs
  | instant a, instant b => a == b
  | span a, span b => a == b
  | binary as, binary bs => as == bs
  | null, null => true
  | tree a, tree b => a.same b
  | _, _ => false

def sameItems : List Value → List Value → Bool
  | [], [] => true
  | a :: as, b :: bs => same a b && sameItems as bs
  | _, _ => false

def sameFields : List (String × Value) → List (String × Value) → Bool
  | [], [] => true
  | (m, a) :: as, (n, b) :: bs => m == n && same a b && sameFields as bs
  | _, _ => false

end

end Value
end Formula

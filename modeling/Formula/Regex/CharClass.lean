-- SUMMARY: Classes of characters in patterns, and whether a character belongs to one.
import Formula.Text.Case

/-! # Character classes of patterns

A class is built from ranges and properties by the operations on sets. Folding adds to a class all
characters that differ from a member only in case. -/

namespace Formula
namespace Regex

/-- A property of characters. -/
inductive CharProperty where
  | category (categories : List Category)
  | script (number : Nat)
  | alphabetic
  | uppercase
  | lowercase
  | cased
  | caseIgnorable
  | blank
  | word
  | assigned

namespace CharProperty

/-- Marks that letters carry. -/
def marks : List Category := [.mn, .mc, .me]

/-- The two characters that join others without being seen. -/
def joinControls : CodeRanges := [(8204, 8205)]

/-- Whether a character can be part of a word. -/
def isWord (c : Char) : Bool :=
  Text.isAlphabetic c || marks.contains (Category.ofCode c.toNat)
    || Category.ofCode c.toNat == .nd || Category.ofCode c.toNat == .pc
    || joinControls.contains c.toNat

/-- Whether a character has the property. -/
def holds : CharProperty → Char → Bool
  | category categories, c => categories.contains (Category.ofCode c.toNat)
  | script number, c => Script.ofCode c.toNat == number
  | alphabetic, c => Text.isAlphabetic c
  | uppercase, c => Text.isUppercase c
  | lowercase, c => Text.isLowercase c
  | cased, c => Text.isCased c
  | caseIgnorable, c => Text.isCaseIgnorable c
  | blank, c => Text.isBlank c
  | word, c => isWord c
  | assigned, c => Category.ofCode c.toNat != .cn

end CharProperty

/-- An operation on two sets. -/
inductive SetOperation where
  | union
  | intersection
  | difference
  | symmetricDifference
deriving DecidableEq

namespace SetOperation

/-- Whether an element is in the result, by whether it is in the two sets. -/
def apply : SetOperation → Bool → Bool → Bool
  | union, a, b => a || b
  | intersection, a, b => a && b
  | difference, a, b => a && !b
  | symmetricDifference, a, b => a != b

end SetOperation

inductive CharClass where
  | ranges (list : CodeRanges)
  | property (kind : CharProperty)
  | combined (operation : SetOperation) (left right : CharClass)
  | complement (members : CharClass)
  | folded (members : CharClass)
  | foldedAscii (members : CharClass)

namespace CharClass

def empty : CharClass := ranges []

def single (c : Char) : CharClass := ranges [(c.toNat, c.toNat)]

def all : CharClass := complement empty

/-- The characters that differ from an ASCII letter only in case, among the ASCII letters. -/
def asciiOrbit (c : Char) : List Char := [c, c.toLower, c.toUpper]

/-- Whether a character belongs to the class. -/
def contains : CharClass → Char → Bool
  | ranges list, c => list.contains c.toNat
  | property kind, c => kind.holds c
  | combined operation left right, c => operation.apply (contains left c) (contains right c)
  | complement members, c => !contains members c
  | folded members, c => (Text.caseOrbit c.toNat).any fun code => contains members (Char.ofNat code)
  | foldedAscii members, c => (asciiOrbit c).any (contains members)

/-- The class or all characters outside it. -/
def negatedIf (members : CharClass) (negated : Bool) : CharClass :=
  if negated then complement members else members

/-! ## Common classes -/

def newline : CharClass := single '\n'

/-- The characters that end lines. -/
def lineEnds : CharClass := ranges [(10, 10), (13, 13)]

def asciiDigit : CharClass := ranges [(48, 57)]

def asciiBlank : CharClass := ranges [(9, 13), (32, 32)]

def asciiWord : CharClass := ranges [(48, 57), (65, 90), (95, 95), (97, 122)]

/-- The class of ASCII characters that a name between colons stands for. -/
def ofAsciiName (name : String) : Option CharClass :=
  match name with
  | "alnum" => some (ranges [(48, 57), (65, 90), (97, 122)])
  | "alpha" => some (ranges [(65, 90), (97, 122)])
  | "ascii" => some (ranges [(0, 127)])
  | "blank" => some (ranges [(9, 9), (32, 32)])
  | "cntrl" => some (ranges [(0, 31), (127, 127)])
  | "digit" => some asciiDigit
  | "graph" => some (ranges [(33, 126)])
  | "lower" => some (ranges [(97, 122)])
  | "print" => some (ranges [(32, 126)])
  | "punct" => some (ranges [(33, 47), (58, 64), (91, 96), (123, 126)])
  | "space" => some asciiBlank
  | "upper" => some (ranges [(65, 90)])
  | "word" => some asciiWord
  | "xdigit" => some (ranges [(48, 57), (65, 70), (97, 102)])
  | _ => none

end CharClass
end Regex
end Formula

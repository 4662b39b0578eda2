-- SUMMARY: Patterns: what they consist of, how deep they nest and how much room they take.
import Formula.Powers
import Formula.Regex.CharClass

/-! # Patterns

A pattern matches a character of a class, a place in the text, a sequence, a choice or a repetition.
Groups are kept because they count for the depth. -/

namespace Formula
namespace Regex

/-- A condition on a place in a word: whether the characters before and after it belong to
    words. -/
inductive WordPlace where
  | boundary
  | inside
  | start
  | stop
  | startHalf
  | stopHalf
deriving DecidableEq

namespace WordPlace

/-- Whether a place is of this kind, by whether a word lies before and after it. -/
def holds : WordPlace → Bool → Bool → Bool
  | boundary, before, after => before != after
  | inside, before, after => before == after
  | start, before, after => !before && after
  | stop, before, after => before && !after
  | startHalf, before, _ => !before
  | stopHalf, _, after => !after

end WordPlace

/-- A condition on a place in the text. -/
inductive Look where
  | start
  | stop
  | lineStart (crlf : Bool)
  | lineStop (crlf : Bool)
  | word (place : WordPlace) (members : CharClass)

namespace Look

/-- Whether a place lies at the beginning of a line. Where lines end with a carriage return and a
    newline, there is no line between the two. -/
def atLineStart (crlf : Bool) (before after : Option Char) : Bool :=
  match before with
  | none => true
  | some c => c == '\n' || (crlf && c == '\r' && after != some '\n')

/-- Whether a place lies at the end of a line. -/
def atLineStop (crlf : Bool) (before after : Option Char) : Bool :=
  match after with
  | none => true
  | some c =>
    if crlf then c == '\r' || (c == '\n' && before != some '\r') else c == '\n'

/-- Whether the condition holds between two characters, if there are any. -/
def holds (look : Look) (before after : Option Char) : Bool :=
  match look with
  | start => before.isNone
  | stop => after.isNone
  | lineStart crlf => atLineStart crlf before after
  | lineStop crlf => atLineStop crlf before after
  | word place members => place.holds (before.any members.contains) (after.any members.contains)

end Look

inductive Pattern where
  | empty
  | char (members : CharClass)
  | look (look : Look)
  | sequence (parts : List Pattern)
  | choice (branches : List Pattern)
  | group (body : Pattern)
  | repeated (body : Pattern) (least : Nat) (most : Option Nat)

namespace Pattern

/-- The sequence of patterns; that of one is the pattern itself. -/
def ofParts : List Pattern → Pattern
  | [] => empty
  | [part] => part
  | parts => sequence parts

/-- The choice of patterns; that of one is the pattern itself. -/
def ofBranches : List Pattern → Pattern
  | [branch] => branch
  | branches => choice branches

/-! ## Depth -/

mutual

/-- How deep the parts of a pattern nest. -/
def depth : Pattern → Nat
  | empty => 0
  | char _ => 0
  | look _ => 0
  | sequence parts => 1 + depthAll parts
  | choice branches => 1 + depthAll branches
  | group body => 1 + depth body
  | repeated body _ _ => 1 + depth body

def depthAll : List Pattern → Nat
  | [] => 0
  | pattern :: rest => max (depth pattern) (depthAll rest)

end

/-! ## Room -/

/-- The room for one step of a machine that runs a pattern. -/
def stepRoom : Nat := 32

/-- The room for a range of characters. -/
def rangeRoom : Nat := 64

/-- About how many ranges a property consists of. -/
def propertyRanges : CharProperty → Nat
  | .category categories => if categories.length = 1 then 70 else 600
  | .script _ => 40
  | .blank => 10
  | .word => 770
  | _ => 700

/-- About how many ranges a class consists of. -/
def classRanges : CharClass → Nat
  | .ranges list => list.length
  | .property kind => propertyRanges kind
  | .combined _ left right => classRanges left + classRanges right
  | .complement members => classRanges members
  | .folded members => classRanges members
  | .foldedAscii members => classRanges members

mutual

/-- Whether all matches of a pattern are empty. -/
def matchesEmptyOnly : Pattern → Bool
  | empty => true
  | char _ => false
  | look _ => true
  | sequence parts => allMatchEmptyOnly parts
  | choice branches => allMatchEmptyOnly branches
  | group body => matchesEmptyOnly body
  | repeated body _ most => most == some 0 || matchesEmptyOnly body

def allMatchEmptyOnly : List Pattern → Bool
  | [] => true
  | pattern :: rest => matchesEmptyOnly pattern && allMatchEmptyOnly rest

end

mutual

/-- About how much room a machine for the pattern takes. -/
def room : Pattern → Nat
  | empty => stepRoom
  | char members =>
    stepRoom + if classRanges members ≤ 1 then 0 else rangeRoom * classRanges members
  | look _ => stepRoom
  | sequence parts => roomAll parts
  | choice branches => stepRoom + roomAll branches
  | group body => 2 * stepRoom + room body
  | repeated body least most =>
    let copies := if matchesEmptyOnly body then 1 else max 1 (max least (most.getD 0))
    stepRoom + copies * room body

def roomAll : List Pattern → Nat
  | [] => 0
  | pattern :: rest => room pattern + roomAll rest

end

/-- The greatest depth of a pattern. -/
def maxDepth : Nat := 250

/-- The most room that a machine for a pattern may take. -/
def maxRoom : Nat := 10 * twoTo 20

/-- Whether a pattern is neither too deep nor too large. -/
def isAllowed (pattern : Pattern) : Bool :=
  decide (pattern.depth ≤ maxDepth) && decide (pattern.room ≤ maxRoom)

end Pattern
end Regex
end Formula

-- SUMMARY: Search for a pattern in a text.
import Formula.Regex.Basic

/-! # Search

A set of places in a text is a list of marks, one for the place before each character and one for
the end. A pattern takes the places where a match can begin to the places where it can end. There is
no memory of groups and no order among matches, so this says exactly whether a pattern occurs. -/

namespace Formula
namespace Regex

/-- A mark for each place in a text. -/
abbrev Marks := List Bool

namespace Marks

def nowhere (text : List Char) : Marks := List.replicate (text.length + 1) false

def everywhere (text : List Char) : Marks := List.replicate (text.length + 1) true

def isEmpty (marks : Marks) : Bool := List.all marks (!·)

def union (a b : Marks) : Marks := List.zipWith (· || ·) a b

/-- The places behind a character of the class at a marked place. -/
def advance (members : CharClass) (text : List Char) (marks : Marks) : Marks :=
  false :: List.zipWith (fun mark c => mark && members.contains c) marks text

/-- The marked places that meet a condition. -/
def keep (look : Look) : Option Char → List Char → Marks → Marks
  | before, [], mark :: _ => [mark && look.holds before none]
  | before, c :: rest, mark :: marks =>
    (mark && look.holds before (some c)) :: keep look (some c) rest marks
  | _, _, [] => []

/-- Takes the same step a number of times, or until it changes nothing. -/
def steps (step : Marks → Marks) : Nat → Marks → Marks
  | 0, marks => marks
  | count + 1, marks =>
    let next := step marks
    if next == marks then marks else steps step count next

/-- The marked places and those that at most `count` steps lead to from the newest of them. -/
def spread (step : Marks → Marks) : Nat → Marks → Marks → Marks
  | 0, _, reached => reached
  | count + 1, newest, reached =>
    let found := List.zipWith (fun mark old => mark && !old) (step newest) reached
    if isEmpty found then reached else spread step count found (union reached found)

end Marks

namespace Pattern

mutual

/-- The places where matches that begin at the marked places can end. -/
def ends (text : List Char) : Pattern → Marks → Marks
  | empty, marks => marks
  | char members, marks => marks.advance members text
  | look condition, marks => marks.keep condition none text
  | sequence parts, marks => endsOfSequence text parts marks
  | choice branches, marks => endsOfChoice text branches marks
  | group body, marks => ends text body marks
  | repeated body least most, marks =>
    let started := Marks.steps (ends text body) least marks
    let count := match most with
      | none => text.length + 1
      | some most => most - least
    Marks.spread (ends text body) count started started

def endsOfSequence (text : List Char) : List Pattern → Marks → Marks
  | [], marks => marks
  | part :: rest, marks => endsOfSequence text rest (ends text part marks)

def endsOfChoice (text : List Char) : List Pattern → Marks → Marks
  | [], _ => Marks.nowhere text
  | branch :: rest, marks => (ends text branch marks).union (endsOfChoice text rest marks)

end

/-- Whether the pattern matches somewhere in the text. -/
def occursIn (pattern : Pattern) (text : List Char) : Bool :=
  !(pattern.ends text (Marks.everywhere text)).isEmpty

end Pattern
end Regex
end Formula

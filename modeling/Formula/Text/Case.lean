-- SUMMARY: Upper case and lower case of text, and comparison of characters without regard to case.
import Formula.Text.CaseTable
import Formula.Text.Letter

/-! # Case

A letter's upper or lower case can be more than one character. The lower case of a capital sigma
depends on its neighbours: at the end of a word it is the final form.

Names are compared by their upper case (`Text.upper`). Folding maps characters that differ only in
case to one of them; it is one to one and is used for patterns only. -/

namespace Formula

namespace CaseRun

/-- Whether a code point is one of the run. -/
def contains (run : CaseRun) (code : Nat) : Bool :=
  decide (run.first ≤ code) && decide (code ≤ run.last) && (code - run.first) % run.stride == 0

/-- The code point that a member of the run is mapped to. -/
def apply (run : CaseRun) (code : Nat) : Nat := ((code : Int) + run.shift).toNat

end CaseRun

namespace CaseTable

/-- The image of a code point under the first run that contains it. -/
def map (runs : List CaseRun) (code : Nat) : Nat :=
  match runs.find? (·.contains code) with
  | some run => run.apply code
  | none => code

/-- The characters that a character becomes. -/
def expand (expansions : List (Nat × List Nat)) (runs : List CaseRun) (c : Char) : List Char :=
  match expansions.find? (·.1 == c.toNat) with
  | some (_, codes) => codes.map Char.ofNat
  | none => [Char.ofNat (map runs c.toNat)]

end CaseTable

namespace Text

/-! ## Upper case -/

/-- The upper case of one character. -/
def upperChar (c : Char) : List Char :=
  if c.toNat < 128 then [c.toUpper]
  else CaseTable.expand CaseTable.upperExpansions CaseTable.upper c

/-- The upper case of a text. -/
def upper (s : String) : String := String.ofList (s.toList.flatMap upperChar)

/-! ## Lower case -/

/-- The lower case of one character, for all but a final sigma. -/
def lowerChar (c : Char) : List Char :=
  if c.toNat < 128 then [c.toLower]
  else CaseTable.expand CaseTable.lowerExpansions CaseTable.lower c

/-- Whether the first of these characters that is not passed over has a case. -/
def meetsCased (cs : List Char) : Bool :=
  match cs.dropWhile isCaseIgnorable with
  | c :: _ => isCased c
  | [] => false

/-- The lower case of the characters after `before`, which is given in reverse. A capital sigma
    that ends a word of cased letters takes its final form. -/
def lowerFrom (before : List Char) : List Char → List Char
  | [] => []
  | c :: rest =>
    (if c = 'Σ' then
      if meetsCased before && !meetsCased rest then ['ς'] else ['σ']
    else lowerChar c) ++ lowerFrom (c :: before) rest

/-- The lower case of a text. -/
def lower (s : String) : String := String.ofList (lowerFrom [] s.toList)

/-! ## Folding -/

/-- The character that stands for all those that differ from `code` only in case. -/
def fold (code : Nat) : Nat := CaseTable.map CaseTable.folded code

/-- All code points that differ from `code` only in case, `code` included. -/
def caseOrbit (code : Nat) : List Nat :=
  let target := fold code
  target :: CaseTable.folded.filterMap fun run =>
    let source := ((target : Int) - run.shift).toNat
    if run.contains source && run.apply source == target then some source else none

end Text
end Formula

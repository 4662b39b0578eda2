-- SUMMARY: Reading the character classes in brackets.
import Formula.Regex.Escape

/-! # Classes in brackets

A class in brackets lists characters, ranges and classes, and can hold classes in brackets. The
operators `&&`, `--` and `~~` combine what stands on their two sides, from left to right. A hyphen
that cannot stand for a range stands for itself, and so does a closing bracket at the beginning. -/

namespace Formula
namespace Regex

/-- A class that is being read: the characters since its last operator, the operator with what
    stands before it, and whether the class is negated. -/
structure SetLevel where
  members : CharClass
  pending : Option (SetOperation × CharClass)
  negated : Bool

namespace SetLevel

/-- Adds characters. -/
def add (level : SetLevel) (more : CharClass) : SetLevel :=
  { level with members := .combined .union level.members more }

/-- What has been read, with the last operator carried out. -/
def combined (flags : Flags) (level : SetLevel) : CharClass :=
  match level.pending with
  | none => level.members
  | some (operation, left) => .combined operation (flags.fold left) (flags.fold level.members)

/-- Begins the right side of an operator. -/
def operate (flags : Flags) (level : SetLevel) (operation : SetOperation) : SetLevel :=
  { level with members := .empty, pending := some (operation, level.combined flags) }

/-- The class at its end. A negated class of ASCII characters is no class. -/
def finish (flags : Flags) (level : SetLevel) : Option CharClass :=
  if flags.ascii && level.negated then none
  else some ((flags.fold (level.combined flags)).negatedIf level.negated)

end SetLevel

namespace SetReader

/-! ## Beginning of a class -/

/-- Reads the hyphens at the beginning, which stand for themselves. -/
def readHyphens (flags : Flags) (level : SetLevel) (text : List Char) :
    SetLevel × List Char :=
  match text with
  | '-' :: rest => readHyphens flags (level.add (.single '-')) (skipBlanks flags rest)
  | _ => (level, text)
termination_by text.length
decreasing_by
  have := length_skipBlanks_le flags rest
  simp only [List.length_cons]
  omega

/-- Reads what follows an opening bracket: a mark of negation, and characters that stand for
    themselves at the beginning. -/
def openSet (flags : Flags) (text : List Char) : SetLevel × List Char :=
  let (negated, text) := match skipBlanks flags text with
    | '^' :: rest => (true, skipBlanks flags rest)
    | text => (false, text)
  let empty : SetLevel := ⟨.empty, none, negated⟩
  match text with
  | ']' :: rest => (empty.add (.single ']'), skipBlanks flags rest)
  | _ => readHyphens flags empty text

/-- Reads the name of an ASCII class between `[:` and `:]`, from behind its opening bracket. -/
def readNamed (text : List Char) : Option ((Bool × CharClass) × List Char) := do
  match text with
  | ':' :: rest =>
    let (negated, rest) := match rest with
      | '^' :: rest => (true, rest)
      | rest => (false, rest)
    let name := rest.takeWhile (· != ':')
    match rest.drop name.length with
    | ':' :: ']' :: rest => some ((negated, ← CharClass.ofAsciiName (String.ofList name)), rest)
    | _ => none
  | _ => none

/-- A named class under the flags. -/
def namedClass (flags : Flags) (negated : Bool) (found : CharClass) : Option CharClass :=
  if flags.ascii && negated then none else some ((flags.fold found).negatedIf negated)

/-! ## Items -/

/-- An item of a class. -/
inductive Item where
  | literal (c : Char)
  | members (members : CharClass)

namespace Item

/-- The characters of an item. ASCII classes have no others. -/
def members? (flags : Flags) : Item → Option CharClass
  | literal c => if flags.ascii && decide (128 ≤ c.toNat) then none else some (.single c)
  | members found => some found

/-- The characters from one item to another. -/
def range? (flags : Flags) : Item → Item → Option CharClass
  | literal low, literal high =>
    if high < low || (flags.ascii && decide (128 ≤ high.toNat)) then none
    else some (.ranges [(low.toNat, high.toNat)])
  | _, _ => none

end Item

/-- Reads a character or a class of an escape. -/
def readItem (flags : Flags) (text : List Char) : Option (Item × List Char) :=
  match text with
  | [] => none
  | '\\' :: rest =>
    match Escape.read flags rest with
    | some (.literal c, rest) => some (.literal c, rest)
    | some (.members found, rest) => some (.members found, rest)
    | _ => none
  | c :: rest => some (.literal c, rest)

/-- Reads an item or the range that begins with it. -/
def readRange (flags : Flags) (text : List Char) : Option (CharClass × List Char) := do
  let (first, rest) ← readItem flags text
  match skipBlanks flags rest with
  | '-' :: after =>
    match skipBlanks flags after with
    | ']' :: _ => some (← first.members? flags, '-' :: after)
    | '-' :: _ => some (← first.members? flags, '-' :: after)
    | after =>
      let (last, rest) ← readItem flags after
      some (← first.range? flags last, rest)
  | rest => some (← first.members? flags, rest)

/-! ## Classes -/

/-- The state after a step: the class that is read and those around it, or the class at its end. -/
inductive Progress where
  | within (level : SetLevel) (outer : List SetLevel)
  | done (members : CharClass)

/-- Reads one item, operator or bracket. -/
def step (flags : Flags) (level : SetLevel) (outer : List SetLevel) (text : List Char) :
    Option (Progress × List Char) := do
  match skipBlanks flags text with
  | [] => none
  | '[' :: rest =>
    match readNamed rest with
    | some ((negated, found), rest) =>
      some (.within (level.add (← namedClass flags negated found)) outer, rest)
    | none =>
      let (inner, rest) := openSet flags rest
      some (.within inner (level :: outer), rest)
  | ']' :: rest =>
    let found ← level.finish flags
    match outer with
    | [] => some (.done found, rest)
    | parent :: outer => some (.within (parent.add found) outer, rest)
  | '&' :: '&' :: rest => some (.within (level.operate flags .intersection) outer, rest)
  | '-' :: '-' :: rest => some (.within (level.operate flags .difference) outer, rest)
  | '~' :: '~' :: rest => some (.within (level.operate flags .symmetricDifference) outer, rest)
  | text =>
    let (found, rest) ← readRange flags text
    some (.within (level.add found) outer, rest)

/-- Reads to the end of the class. Every step takes at least one character. -/
def readFrom (flags : Flags) (level : SetLevel) (outer : List SetLevel) (text : List Char) :
    Option (CharClass × List Char) :=
  match step flags level outer text with
  | none => none
  | some (.done found, rest) => some (found, rest)
  | some (.within level outer, rest) =>
    if Pattern.maxDepth < outer.length then none
    else if _ : rest.length < text.length then readFrom flags level outer rest
    else none
termination_by text.length

/-- Reads a class from behind its opening bracket. -/
def read (flags : Flags) (text : List Char) : Option (CharClass × List Char) :=
  let (level, rest) := openSet flags text
  readFrom flags level [] rest

end SetReader
end Regex
end Formula

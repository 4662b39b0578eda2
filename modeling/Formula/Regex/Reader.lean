-- SUMMARY: Reading patterns.
import Formula.Powers
import Formula.Regex.SetReader

/-! # Reading patterns

The reader goes through the text once. It keeps the group that it is in and the groups around it:
the parts of the branch that is being read, the branches before it, and the flags that come back at
the end of the group. -/

namespace Formula
namespace Regex

/-- A group that is being read, both lists with the last one first. -/
structure Level where
  parts : List Pattern
  branches : List Pattern
  flags : Flags

/-- The state of reading. `names` holds the names of all groups so far. -/
structure Reader where
  level : Level
  outer : List Level
  flags : Flags
  names : List (List Char)

namespace Level

def empty (flags : Flags) : Level := ⟨[], [], flags⟩

def branch (level : Level) : Pattern := .ofParts level.parts.reverse

/-- The choice of all branches. -/
def finish (level : Level) : Pattern := .ofBranches (level.branch :: level.branches).reverse

end Level

namespace Reader

def start : Reader := ⟨.empty {}, [], {}, []⟩

/-- Adds a part to the branch. -/
def push (reader : Reader) (part : Pattern) : Reader :=
  { reader with level := { reader.level with parts := part :: reader.level.parts } }

/-- Begins another branch. -/
def newBranch (reader : Reader) : Reader :=
  { reader with level :=
    { reader.level with parts := [], branches := reader.level.branch :: reader.level.branches } }

/-! ## Groups -/

/-- Begins a group. -/
def openGroup (reader : Reader) : Reader :=
  { reader with level := .empty reader.flags, outer := reader.level :: reader.outer }

/-- Ends a group. -/
def closeGroup (reader : Reader) : Option Reader :=
  match reader.outer with
  | [] => none
  | parent :: outer =>
    let closed := { reader with level := parent, outer := outer, flags := reader.level.flags }
    some (closed.push (.group reader.level.finish))

/-- Whether a character can stand in the name of a group. -/
def isNameChar (first : Bool) (c : Char) : Bool :=
  if first then c == '_' || Text.isAlphabetic c
  else ['_', '.', '[', ']'].contains c || Text.isAlphanumeric c

/-- Reads the name of a group up to its closing bracket. -/
def readGroupName (text : List Char) : Option (List Char × List Char) :=
  let name := text.takeWhile (· != '>')
  match name, text.drop name.length with
  | first :: others, '>' :: rest =>
    if isNameChar true first && others.all (isNameChar false) then some (name, rest) else none
  | _, _ => none

/-- Begins a group with a name that no other group has. -/
def openNamed (reader : Reader) (text : List Char) : Option (Reader × List Char) := do
  let (name, rest) ← readGroupName text
  if reader.names.contains name then none
  else some ({ reader.openGroup with names := name :: reader.names }, rest)

/-- Reads flags: for the rest of the group, or for a new group if a colon follows. -/
def readFlags (reader : Reader) (text : List Char) : Option (Reader × List Char) := do
  let (names, stop, rest) ← Flags.readNames [] text
  let flags := reader.flags.apply true names
  if stop == ':' then some ({ reader.openGroup with flags := flags }, rest)
  else if names.isEmpty then none
  else some ({ reader with flags := flags }.push .empty, rest)

/-- Reads what follows an opening parenthesis. There is no looking ahead or behind. -/
def readGroup (reader : Reader) (text : List Char) : Option (Reader × List Char) :=
  match skipBlanks reader.flags text with
  | '?' :: 'P' :: '<' :: rest => reader.openNamed rest
  | '?' :: '<' :: '=' :: _ => none
  | '?' :: '<' :: '!' :: _ => none
  | '?' :: '<' :: rest => reader.openNamed rest
  | '?' :: rest => reader.readFlags rest
  | rest => some (reader.openGroup, rest)

/-! ## Repetition -/

/-- Repeats the last part of the branch. Flags cannot be repeated. -/
def repeatLast (reader : Reader) (least : Nat) (most : Option Nat) : Option Reader :=
  match reader.level.parts with
  | [] => none
  | .empty :: _ => none
  | part :: parts =>
    some { reader with level :=
      { reader.level with parts := .repeated part least most :: parts } }

/-- The text behind a question mark, which only changes the match that is preferred. -/
def skipLazy (text : List Char) : List Char :=
  match text with
  | '?' :: rest => rest
  | _ => text

/-- Reads the digits of a count. -/
def readDigits (flags : Flags) (front : List Char) (text : List Char) : List Char × List Char :=
  match text with
  | [] => (front.reverse, [])
  | c :: rest =>
    if c.isDigit then readDigits flags (c :: front) (skipBlanks flags rest)
    else (front.reverse, c :: rest)
termination_by text.length
decreasing_by
  have := length_skipBlanks_le flags rest
  simp only [List.length_cons]
  omega

/-- Reads a count, with blanks around it. -/
def readCount (flags : Flags) (text : List Char) : Option (Nat × List Char) :=
  let (digits, rest) := readDigits flags [] (Text.trimStart text)
  let count := digits.foldl (fun n c => 10 * n + (c.toNat - 48)) 0
  if digits.isEmpty || decide (twoTo 32 ≤ count) then none
  else some (count, skipBlanks flags (Text.trimStart rest))

/-- The text behind a closing brace. -/
def closeBrace? (text : List Char) : Option (List Char) :=
  match text with
  | '\x7d' :: rest => some rest
  | _ => none

/-- Reads the bounds of a repetition from behind the opening brace. -/
def readBounds (flags : Flags) (text : List Char) :
    Option ((Nat × Option Nat) × List Char) := do
  let (least, rest) ← readCount flags (skipBlanks flags text)
  match rest with
  | ',' :: rest =>
    let rest := skipBlanks flags rest
    match closeBrace? rest with
    | some rest => some ((least, none), rest)
    | none =>
      let (most, rest) ← readCount flags rest
      if most < least then none else some ((least, some most), ← closeBrace? rest)
  | rest => some ((least, some least), ← closeBrace? rest)

/-- Reads a repetition from behind its opening brace. -/
def readRepetition (reader : Reader) (text : List Char) : Option (Reader × List Char) := do
  let ((least, most), rest) ← readBounds reader.flags text
  some (← reader.repeatLast least most, skipLazy (skipBlanks reader.flags rest))

/-- Repeats the last part, where `text` follows the mark of repetition. -/
def repeated (reader : Reader) (least : Nat) (most : Option Nat) (text : List Char) :
    Option (Reader × List Char) := do
  some (← reader.repeatLast least most, skipLazy text)

/-! ## Single characters and places -/

/-- Any character, or any that does not end a line. Bytes that are no characters are not
    matched. -/
def dot (flags : Flags) : Option Pattern :=
  if flags.ascii then none
  else if flags.dotAll then some (.char .all)
  else some (.char (.complement (if flags.crlf then .lineEnds else .newline)))

/-- The beginning of the text or of a line. -/
def lineStart (flags : Flags) : Look :=
  if flags.multiLine then .lineStart flags.crlf else .start

/-- The end of the text or of a line. -/
def lineStop (flags : Flags) : Look :=
  if flags.multiLine then .lineStop flags.crlf else .stop

/-- A character that stands for itself. -/
def literal (flags : Flags) (c : Char) : Pattern := .char (flags.fold (.single c))

/-- What an escape stands for. -/
def ofEscape (flags : Flags) : Escape → Pattern
  | .literal c => literal flags c
  | .members found => .char found
  | .look condition => .look condition

/-! ## Patterns -/

/-- Reads what begins with a character. -/
def stepAt (reader : Reader) (c : Char) (rest : List Char) : Option (Reader × List Char) := do
  let flags := reader.flags
  match c with
  | '(' => reader.readGroup rest
  | ')' => some (← reader.closeGroup, rest)
  | '|' => some (reader.newBranch, rest)
  | '[' =>
    let (found, rest) ← SetReader.read flags rest
    some (reader.push (.char found), rest)
  | '?' => reader.repeated 0 (some 1) rest
  | '*' => reader.repeated 0 none rest
  | '+' => reader.repeated 1 none rest
  | '\\' =>
    let (found, rest) ← Escape.read flags rest
    some (reader.push (ofEscape flags found), rest)
  | '.' => some (reader.push (← dot flags), rest)
  | '^' => some (reader.push (.look (lineStart flags)), rest)
  | '$' => some (reader.push (.look (lineStop flags)), rest)
  | '\x7b' => reader.readRepetition rest
  | _ => some (reader.push (literal flags c), rest)

/-- Reads to the end of the text. Every step takes at least one character. -/
def readFrom (reader : Reader) (text : List Char) : Option Pattern :=
  match skipBlanks reader.flags text with
  | [] => if reader.outer.isEmpty then some reader.level.finish else none
  | c :: rest =>
    match reader.stepAt c rest with
    | none => none
    | some (reader, rest) =>
      if _ : rest.length < text.length then readFrom reader rest else none
termination_by text.length

end Reader

namespace Pattern

/-- The pattern that a text stands for, if it is one and neither too deep nor too large. -/
def read? (text : List Char) : Option Pattern := (Reader.start.readFrom text).filter (·.isAllowed)

end Pattern
end Regex
end Formula

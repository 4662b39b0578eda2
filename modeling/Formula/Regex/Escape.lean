-- SUMMARY: What stands behind a backslash in a pattern: characters by number, classes and places.
import Formula.Regex.Basic
import Formula.Regex.Flags
import Formula.Regex.Property

/-! # Escapes

A backslash makes a punctuation character stand for itself, and some letters stand for a character,
a class or a place. There are no references to groups. -/

namespace Formula
namespace Regex

/-- What an escape stands for. -/
inductive Escape where
  | literal (c : Char)
  | members (members : CharClass)
  | look (look : Look)

namespace Escape

/-! ## Text in braces -/

/-- Reads up to a closing brace. `front` holds the characters so far in reverse. -/
def readBraced (flags : Flags) (front : List Char) (text : List Char) :
    Option (List Char × List Char) :=
  match text with
  | [] => none
  | '\x7d' :: rest => some (front.reverse, rest)
  | c :: rest => readBraced flags (c :: front) (skipBlanks flags rest)
termination_by text.length
decreasing_by
  have := length_skipBlanks_le flags rest
  simp only [List.length_cons]
  omega

/-- The text behind an opening brace. -/
def openBrace? (text : List Char) : Option (List Char) :=
  match text with
  | '\x7b' :: rest => some rest
  | _ => none

/-! ## Characters by number -/

/-- The value of a hexadecimal digit. -/
def hexDigit? (c : Char) : Option Nat :=
  if c.isDigit then some (c.toNat - 48)
  else if 'a' ≤ c ∧ c ≤ 'f' then some (c.toNat - 87)
  else if 'A' ≤ c ∧ c ≤ 'F' then some (c.toNat - 55)
  else none

/-- The character of a code point. -/
def charOf? (code : Nat) : Option Char := if code.isValidChar then some (Char.ofNat code) else none

/-- The character whose code point has these digits. -/
def charOfDigits? (digits : List Char) : Option Char := do
  if digits.isEmpty then none
  charOf? (← digits.foldlM (fun n c => do return 16 * n + (← hexDigit? c)) 0)

/-- Reads `count` characters with blanks between them where the flags allow them. -/
def takeChars (flags : Flags) : Nat → List Char → Option (List Char × List Char)
  | 0, text => some ([], text)
  | _ + 1, [] => none
  | count + 1, c :: rest => do
    let (others, rest) ← takeChars flags count (skipBlanks flags rest)
    some (c :: others, rest)

/-- Reads a code point of `width` hexadecimal digits, or of any number of them in braces. With two
    digits and classes of ASCII the code point stands for a byte, which has to be one of ASCII. -/
def readCode (flags : Flags) (width : Nat) (text : List Char) : Option (Escape × List Char) := do
  match openBrace? (skipBlanks flags text) with
  | some rest =>
    let (digits, rest) ← readBraced flags [] (skipBlanks flags rest)
    some (literal (← charOfDigits? digits), rest)
  | none =>
    let (digits, rest) ← takeChars flags width (skipBlanks flags text)
    let c ← charOfDigits? digits
    if flags.ascii && width == 2 && decide (128 ≤ c.toNat) then none else some (literal c, rest)

/-! ## Classes -/

/-- Reads the property that a class stands for: one letter, or a name in braces. -/
def readProperty (flags : Flags) (text : List Char) : Option (CharClass × List Char) := do
  match openBrace? (skipBlanks flags text) with
  | some rest =>
    let (name, rest) ← readBraced flags [] (skipBlanks flags rest)
    some (← CharProperty.ofText? name, rest)
  | none =>
    match skipBlanks flags text with
    | c :: rest => if c == '\\' then none else some (← CharProperty.ofName? [c], rest)
    | [] => none

/-- A class that is given by a property of characters. ASCII classes cannot use it. -/
def propertyClass (flags : Flags) (negated : Bool) (text : List Char) :
    Option (Escape × List Char) := do
  if flags.ascii then none
  let (found, rest) ← readProperty flags text
  some (members ((flags.fold found).negatedIf negated), rest)

/-- The class of digits, blanks or word characters, for ASCII or for Unicode. The characters
    outside an ASCII class are no class, for they are no characters. -/
def usualClass (flags : Flags) (ascii : CharClass) (property : CharProperty) (negated : Bool) :
    Option CharClass :=
  if flags.ascii then if negated then none else some ascii
  else some ((CharClass.property property).negatedIf negated)

/-- The class that a letter stands for. -/
def letterClass? (flags : Flags) (c : Char) : Option CharClass :=
  match c with
  | 'd' => usualClass flags .asciiDigit (.category [.nd]) false
  | 'D' => usualClass flags .asciiDigit (.category [.nd]) true
  | 's' => usualClass flags .asciiBlank .blank false
  | 'S' => usualClass flags .asciiBlank .blank true
  | 'w' => usualClass flags .asciiWord .word false
  | 'W' => usualClass flags .asciiWord .word true
  | _ => none

/-! ## Places -/

/-- The characters of words. -/
def wordClass (flags : Flags) : CharClass :=
  if flags.ascii then .asciiWord else .property .word

/-- The place in a word. -/
def wordPlace (flags : Flags) (place : WordPlace) : Escape := look (.word place (wordClass flags))

/-- Whether a character can stand in the name of a place. -/
def isPlaceChar (c : Char) : Bool := c.isAlpha || c == '-'

/-- The place with a name. -/
def placeOfName? (name : List Char) : Option WordPlace :=
  match String.ofList name with
  | "start" => some .start
  | "end" => some .stop
  | "start-half" => some .startHalf
  | "end-half" => some .stopHalf
  | _ => none

/-- Reads a boundary of words, which can be named in braces. Braces that do not begin with a letter
    belong to what follows. -/
def readBoundary (flags : Flags) (text : List Char) : Option (Escape × List Char) := do
  match openBrace? text with
  | none => some (wordPlace flags .boundary, text)
  | some rest =>
    match skipBlanks flags rest with
    | [] => none
    | c :: rest =>
      if isPlaceChar c then
        let (name, rest) ← readBraced flags [] (c :: rest)
        some (wordPlace flags (← placeOfName? name), rest)
      else some (wordPlace flags .boundary, text)

/-! ## All escapes -/

/-- The character that a letter stands for. -/
def letterChar? (c : Char) : Option Char :=
  match c with
  | 'a' => some '\x07'
  | 'f' => some '\x0c'
  | 't' => some '\t'
  | 'n' => some '\n'
  | 'r' => some '\r'
  | 'v' => some '\x0b'
  | _ => none

/-- The place that a character stands for. -/
def placeOf? (flags : Flags) (c : Char) : Option Escape :=
  match c with
  | 'A' => some (look .start)
  | 'z' => some (look .stop)
  | 'B' => some (wordPlace flags .inside)
  | '<' => some (wordPlace flags .start)
  | '>' => some (wordPlace flags .stop)
  | _ => none

/-- Whether a backslash lets a character stand for itself. -/
def isPunctuation (c : Char) : Bool := decide (c.toNat < 128) && !c.isAlphanum

/-- Reads what stands behind a backslash. -/
def read (flags : Flags) (text : List Char) : Option (Escape × List Char) :=
  match text with
  | [] => none
  | c :: rest =>
    match c with
    | 'x' => readCode flags 2 rest
    | 'u' => readCode flags 4 rest
    | 'U' => readCode flags 8 rest
    | 'p' => propertyClass flags false rest
    | 'P' => propertyClass flags true rest
    | 'b' => readBoundary flags rest
    | _ =>
      match letterClass? flags c with
      | some found => some (members found, rest)
      | none =>
        match letterChar? c with
        | some found => some (literal found, rest)
        | none =>
          match placeOf? flags c with
          | some found => some (found, rest)
          | none => if isPunctuation c then some (literal c, rest) else none

end Escape
end Regex
end Formula

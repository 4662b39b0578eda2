-- SUMMARY: The flags of patterns: which they are, how they are read, and what they do to blanks and to case.
import Formula.Regex.CharClass

/-! # Flags

Flags change how the rest of a group is read: `i` ignores case, `m` lets `^` and `$` match at lines,
`s` lets a dot match a newline, `R` ends lines also with carriage returns, `u` chooses classes of
Unicode instead of ASCII, and `x` allows blanks and comments. The flag `U` swaps which matches are
preferred, which does not change whether there is one. -/

namespace Formula
namespace Regex

structure Flags where
  ignoreCase : Bool := false
  multiLine : Bool := false
  dotAll : Bool := false
  crlf : Bool := false
  ascii : Bool := false
  verbose : Bool := false

namespace Flags

/-- Switches one flag on or off. -/
def set (flags : Flags) (name : Char) (value : Bool) : Flags :=
  match name with
  | 'i' => { flags with ignoreCase := value }
  | 'm' => { flags with multiLine := value }
  | 's' => { flags with dotAll := value }
  | 'R' => { flags with crlf := value }
  | 'u' => { flags with ascii := !value }
  | 'x' => { flags with verbose := value }
  | _ => flags

/-- Switches flags on, and those behind a hyphen off. -/
def apply (flags : Flags) (value : Bool) : List Char → Flags
  | [] => flags
  | '-' :: rest => apply flags false rest
  | name :: rest => apply (flags.set name value) value rest

/-- The names of the flags, and the hyphen. -/
def names : List Char := ['i', 'm', 's', 'U', 'u', 'R', 'x', '-']

/-- Reads the names of flags up to a colon or a closing parenthesis, and that character. A name
    stands there once, and a hyphen is not the last. `front` holds the names so far in reverse. -/
def readNames (front : List Char) : List Char → Option (List Char × Char × List Char)
  | [] => none
  | c :: rest =>
    if c == ':' || c == ')' then
      if front.head? == some '-' then none else some (front.reverse, c, rest)
    else if names.contains c && !front.contains c then readNames (c :: front) rest
    else none

/-- The class with all characters that differ only in case, if case is ignored. -/
def fold (flags : Flags) (members : CharClass) : CharClass :=
  if flags.ignoreCase then
    if flags.ascii then .foldedAscii members else .folded members
  else members

end Flags

/-! ## Blanks and comments -/

/-- The text behind blanks and comments. A comment goes on to the end of its line. -/
def skipFrom (inComment : Bool) : List Char → List Char
  | [] => []
  | c :: rest =>
    if inComment then skipFrom (c != '\n') rest
    else if Text.isBlank c then skipFrom false rest
    else if c == '#' then skipFrom true rest
    else c :: rest

/-- The text behind the blanks and comments that the flags allow. -/
def skipBlanks (flags : Flags) (text : List Char) : List Char :=
  if flags.verbose then skipFrom false text else text

theorem length_skipFrom_le (inComment : Bool) (text : List Char) :
    (skipFrom inComment text).length ≤ text.length := by
  induction text generalizing inComment with
  | nil => simp [skipFrom]
  | cons c rest ih =>
    simp only [skipFrom]
    split
    · exact Nat.le_succ_of_le (ih _)
    · split
      · exact Nat.le_succ_of_le (ih _)
      · split
        · exact Nat.le_succ_of_le (ih _)
        · exact Nat.le_refl _

theorem length_skipBlanks_le (flags : Flags) (text : List Char) :
    (skipBlanks flags text).length ≤ text.length := by
  unfold skipBlanks
  split
  · exact length_skipFrom_le false text
  · exact Nat.le_refl _

end Regex
end Formula

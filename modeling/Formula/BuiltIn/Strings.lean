-- SUMMARY: The built-in functions on text.
import Formula.Call
import Formula.Regex.Reader
import Formula.Regex.Search

/-! # Functions on text

Arguments are read as text. Lengths and offsets count characters. -/

namespace Formula
namespace BuiltIn

/-! ## Parts of text -/

/-- Whether `part` occurs in the text. -/
def occursIn (part : List Char) : List Char → Bool
  | [] => part.isEmpty
  | c :: rest => part.isPrefixOf (c :: rest) || occursIn part rest

/-- Splits a text at each occurrence of a separator that is not empty. `current` holds, in reverse,
    the characters since the last one, and `skip` counts those of a separator still to pass. -/
def splitFrom (separator current : List Char) (skip : Nat) : List Char → List (List Char)
  | [] => [current.reverse]
  | c :: rest =>
    match skip with
    | skip + 1 => splitFrom separator current skip rest
    | 0 =>
      if separator.isPrefixOf (c :: rest) then
        current.reverse :: splitFrom separator [] (separator.length - 1) rest
      else splitFrom separator (c :: current) 0 rest

/-- The parts of a text between the separators. An empty separator stands between all characters
    and at both ends. -/
def splitText (separator text : List Char) : List (List Char) :=
  if separator.isEmpty then [] :: text.map ([·]) ++ [[]] else splitFrom separator [] 0 text

/-- A length, where a negative number counts as zero. -/
def charCount (length : Int) : Nat := length.toNat

def leftPart (text : List Char) (length : Int) : List Char := text.take (charCount length)

def rightPart (text : List Char) (length : Int) : List Char :=
  text.drop (text.length - charCount length)

/-- The characters from an offset up to another one, which is not before it. -/
def slice (token : Token) (text : List Char) (start : Int) (stop : Option Int) :
    Except EvalError (List Char) :=
  if start < 0 then .error (token.invalidParameter "start" .negative)
  else
    match stop with
    | none => .ok (text.drop start.toNat)
    | some stop =>
      if stop < start then .error (token.invalidParameter "end" .beforeStart)
      else .ok ((text.drop start.toNat).take (stop - start).toNat)

/-! ## Functions -/

/-- Applies a function to the characters of the first argument. -/
def mapText (token : Token) (arguments : List Value) (f : String → Value) :
    Except EvalError Value := do
  return f (← token.textArgument arguments 0)

/-- Applies a relation to the characters of two arguments. -/
def relateTexts (token : Token) (arguments : List Value)
    (relation : List Char → List Char → Bool) : Except EvalError Value := do
  let text ← token.textArgument arguments 0
  let part ← token.textArgument arguments 1
  return .boolean (relation text.toList part.toList)

/-- Takes a part of the first argument whose length is the second. -/
def takePart (token : Token) (arguments : List Value)
    (part : List Char → Int → List Char) : Except EvalError Value := do
  let text ← token.textArgument arguments 0
  let length ← token.integerArgument arguments 1
  return .text (String.ofList (part text.toList length))

def substring (token : Token) (arguments : List Value) : Except EvalError Value := do
  if 3 < arguments.length then throw (token.invalidParameter "end" .singleValue)
  let text ← token.textArgument arguments 0
  let start ← token.integerArgument arguments 1
  if start < 0 then throw (token.invalidParameter "start" .negative)
  let stop ← if 2 < arguments.length then some <$> token.integerArgument arguments 2 else pure none
  return .text (String.ofList (← slice token text.toList start stop))

def split (token : Token) (arguments : List Value) : Except EvalError Value := do
  let text ← token.textArgument arguments 0
  let separator ← token.textArgument arguments 1
  let parts := splitText separator.toList text.toList
  return .array (parts.map fun part => .text (String.ofList part))

/-- Whether a pattern occurs in a text. -/
def matchesPattern (token : Token) (arguments : List Value) : Except EvalError Value := do
  let text ← token.textArgument arguments 0
  let pattern ← token.textArgument arguments 1
  match Regex.Pattern.read? pattern.toList with
  | some pattern => return .boolean (pattern.occursIn text.toList)
  | none => throw (token.invalidParameter "pattern" .notPattern)

end BuiltIn
end Formula

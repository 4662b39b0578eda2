-- SUMMARY: Building an expression tree from tokens, with a stack of operands and a stack of what is still open.
import Formula.Token.Scanner
import Formula.Tree.Basic

/-! # Parsing

The parser reads the tokens from left to right. Completed operands lie on one stack. On the other
lie operators that wait for their right operand, and the frames that are open: groups, calls and
indexes. An operator is applied as soon as the next one binds less tightly, or a frame closes.

A frame remembers how many operands there were when it opened. An operator applies to operands above
that floor only, so nothing inside a frame reaches an operand outside it.

Two operands side by side are multiplied, where the settings allow it. -/

namespace Formula

/-! ## Operands -/

/-- A completed tree with its depth. -/
structure Operand where
  tree : Tree
  height : Nat
  height_eq : height = tree.depth

namespace Operand

def leaf (token : Token) : Operand :=
  ⟨Tree.leaf token, 1, by simp [Tree.leaf, Tree.depth, Tree.depthAll]⟩

/-- The largest height of a list of operands. -/
def maxHeight : List Operand → Nat
  | [] => 0
  | operand :: rest => max operand.height (maxHeight rest)

theorem maxHeight_eq (operands : List Operand) :
    maxHeight operands = Tree.depthAll (operands.map (·.tree)) := by
  induction operands with
  | nil => simp [maxHeight, Tree.depthAll]
  | cons operand rest ih => simp [maxHeight, Tree.depthAll, ih, operand.height_eq]

/-- A tree over operands. Its height follows from theirs. -/
def node (token : Token) (operands : List Operand) : Operand :=
  ⟨Tree.node token (operands.map (·.tree)), 1 + maxHeight operands,
    by simp [Tree.depth, maxHeight_eq]⟩

end Operand

/-! ## What is still open -/

/-- An entry of the stack of pending operators and open frames. `base` is the number of operands
    when a frame opened, and `slot` that when the current argument of a call began. -/
inductive Pending where
  | operator (token : Token) (operator : Operator)
  | group (token : Token) (base : Nat)
  | call (token : Token) (function : LibraryFunction) (base slot commas : Nat)
  | index (token : Token) (base : Nat)

/-- The parser between two tokens. The tops of the stacks come first. -/
structure Parser where
  pending : List Pending
  operands : List Operand
  floors : List Nat
  previous : Option TokenKind
  awaitedCall : Option Token
  awaitedField : Option Token

namespace Parser

def start : Parser := ⟨[], [], [], none, none, none⟩

/-- The number of operands that the innermost frame may not touch. -/
def floor (parser : Parser) : Nat := parser.floors.headD 0

def errorAt (token : Token) (fault : ParseFault) : ParseError :=
  ⟨fault, token.position, token.lexeme⟩

/-- Puts a tree on the operand stack, unless it is too deep. -/
def pushOperand (language : Language) (operand : Operand) (operands : List Operand) :
    Except ParseError (List Operand) :=
  let limit := language.settings.maxNesting
  if limit < operand.height then .error (errorAt operand.tree.token (.nestingTooDeep limit))
  else .ok (operand :: operands)

/-- The topmost `count` operands in the order they were read. -/
def topOperands (operands : List Operand) (count : Nat) : List Operand :=
  (operands.take count).reverse

/-! ## Applying operators -/

/-- Applies an operator to the operands on top of the stack. -/
def reduce (language : Language) (floor : Nat) (token : Token) (operator : Operator)
    (operands : List Operand) : Except ParseError (List Operand) :=
  let count := operator.rule.operandCount
  if operands.length < floor + count then .error (errorAt token .missingOperand)
  else
    pushOperand language
      (Operand.node (token.bind (.operator operator)) (topOperands operands count))
      (operands.drop count)

/-- Applies the operators on top of the pending stack as long as `now` says so. -/
def reduceWhile (language : Language) (floor : Nat) (now : Operator → Bool) :
    List Pending → List Operand → Except ParseError (List Pending × List Operand)
  | .operator token operator :: rest, operands =>
    if now operator then do
      reduceWhile language floor now rest (← reduce language floor token operator operands)
    else .ok (.operator token operator :: rest, operands)
  | pending, operands => .ok (pending, operands)

/-- Applies waiting operators to the innermost frame's operands. -/
def settle (language : Language) (now : Operator → Bool) (parser : Parser) :
    Except ParseError Parser := do
  let (pending, operands) ← reduceWhile language parser.floor now parser.pending parser.operands
  .ok { parser with pending := pending, operands := operands }

/-- Whether a waiting operator is applied before one of the given precedence is pushed. -/
def bindsTighter (language : Language) (precedence : Int) (leftAssociative : Bool)
    (waiting : Operator) : Bool :=
  decide (precedence < language.precedenceOf waiting) ||
    (language.precedenceOf waiting == precedence && leftAssociative)

/-- Pushes an operator after applying those that bind more tightly. -/
def pushOperator (language : Language) (token : Token) (operator : Operator) (parser : Parser) :
    Except ParseError Parser := do
  let parser ← settle language
    (bindsTighter language (language.precedenceOf operator) operator.rule.leftAssociative) parser
  .ok { parser with pending := .operator token operator :: parser.pending }

/-- Applies the operators behind the last operand. -/
def settleTrailing (language : Language) (parser : Parser) : Except ParseError Parser :=
  settle language (fun operator => operator.rule.fixity == .after) parser

/-- Applies all operators of the innermost frame. -/
def settleFrame (language : Language) (parser : Parser) : Except ParseError Parser :=
  settle language (fun _ => true) parser

/-- The operator a token stands for. -/
def resolve (language : Language) (token : Token) : Except ParseError Operator :=
  match language.operators.find? (token.kind.fixity?.getD .between) token.lexeme with
  | some operator => .ok operator
  | none => .error (errorAt token .undefinedOperator)

/-! ## Operands side by side -/

/-- Multiplies the last operand by the one that the token begins, if the token before completed
    one. Text cannot be multiplied. -/
def joinAdjacent (language : Language) (token : Token) (parser : Parser) :
    Except ParseError Parser :=
  match parser.previous with
  | none => .ok parser
  | some previous =>
    if !previous.endsValue then .ok parser
    else
      let involvesText := previous = .text || token.kind = .text
      if !language.settings.implicitMultiplication || involvesText then
        .error (errorAt token .missingOperator)
      else
        match language.operators.find? .between "*" with
        | none => .error (errorAt token .missingOperator)
        | some operator =>
          pushOperator language
            { kind := .infixOperator, lexeme := "*", position := token.position } operator parser

/-! ## Frames -/

/-- Opens a group, or the arguments of the function before the parenthesis. -/
def openParen (language : Language) (token : Token) (parser : Parser) : Except ParseError Parser :=
  let base := parser.operands.length
  match parser.awaitedCall with
  | none =>
    .ok { parser with
      floors := base :: parser.floors
      pending := .group token base :: parser.pending }
  | some call =>
    match language.functions.find? call.lexeme with
    | none => .error (errorAt call .undefinedFunction)
    | some function =>
      .ok { parser with
        awaitedCall := none
        floors := base :: parser.floors
        pending := .call call function base base 0 :: parser.pending }

/-- Ends an argument of a call. -/
def comma (language : Language) (token : Token) (parser : Parser) : Except ParseError Parser := do
  let parser ← settleFrame language parser
  match parser.pending with
  | .call call function base slot commas :: rest =>
    let count := parser.operands.length
    if count = slot then .error (errorAt call .emptyArgument)
    else
      .ok { parser with
        pending := .call call function base count (commas + 1) :: rest
        floors := match parser.floors with
          | _ :: outer => count :: outer
          | [] => [] }
  | _ => .error (errorAt token .unexpectedToken)

/-- Ends a group or a call. -/
def closeParen (language : Language) (token : Token) (parser : Parser) :
    Except ParseError Parser := do
  let parser ← settleFrame language parser
  match parser.pending with
  | .group _ base :: rest =>
    if parser.operands.length = base + 1 then
      .ok { parser with pending := rest, floors := parser.floors.tail }
    else .error (errorAt token .unexpectedToken)
  | .call call function base slot commas :: rest =>
    let count := parser.operands.length
    let found := count - base
    if count = slot && decide (0 < commas) then .error (errorAt call .emptyArgument)
    else if !function.signature.accepts found then
      .error (errorAt call (.argumentCount function.signature.arityText found))
    else do
      let operand :=
        Operand.node (call.bind (.function function)) (topOperands parser.operands found)
      let operands ← pushOperand language operand (parser.operands.drop found)
      .ok { parser with pending := rest, floors := parser.floors.tail, operands := operands }
  | .index bracket _ :: _ => .error (errorAt bracket .unmatchedBracket)
  | .operator _ _ :: _ => .error (errorAt token .unexpectedToken)
  | [] => .error (errorAt token .unmatchedParenthesis)

/-- Ends an index. The operand just outside the frame is the array. -/
def closeBracket (language : Language) (token : Token) (parser : Parser) :
    Except ParseError Parser := do
  let parser ← settleFrame language parser
  match parser.pending with
  | .index bracket base :: rest =>
    if parser.operands.length ≠ base + 1 ∨ base = 0 then .error (errorAt token .unexpectedToken)
    else do
      let indexToken : Token :=
        { kind := .arrayIndex, lexeme := bracket.lexeme, position := bracket.position }
      let operand := Operand.node indexToken (topOperands parser.operands 2)
      let operands ← pushOperand language operand (parser.operands.drop 2)
      .ok { parser with pending := rest, floors := parser.floors.tail, operands := operands }
  | .group paren _ :: _ => .error (errorAt paren .unmatchedParenthesis)
  | .call call _ _ _ _ :: _ => .error (errorAt call .unmatchedParenthesis)
  | _ => .error (errorAt token .unmatchedBracket)

/-- Opens an index behind the last operand. -/
def openBracket (language : Language) (token : Token) (parser : Parser) :
    Except ParseError Parser := do
  let parser ← settleTrailing language parser
  let base := parser.operands.length
  .ok { parser with
    floors := base :: parser.floors
    pending := .index token base :: parser.pending }

/-- A field of the last operand. -/
def accessField (language : Language) (separator field : Token) (parser : Parser) :
    Except ParseError Parser :=
  if parser.operands.length ≤ parser.floor then .error (errorAt separator .missingOperand)
  else do
    let operand := Operand.node separator (topOperands parser.operands 1 ++ [Operand.leaf field])
    let operands ← pushOperand language operand (parser.operands.drop 1)
    .ok { parser with awaitedField := none, operands := operands }

/-! ## Tokens -/

/-- Reads one token, apart from an operand before it. -/
def take (language : Language) (token : Token) (parser : Parser) : Except ParseError Parser :=
  match token.kind with
  | .number | .text => .ok { parser with operands := Operand.leaf token :: parser.operands }
  | .name =>
    match parser.awaitedField with
    | some separator => accessField language separator token parser
    | none => .ok { parser with operands := Operand.leaf token :: parser.operands }
  | .function => .ok { parser with awaitedCall := some token }
  | .parenOpen => openParen language token parser
  | .parenClose => closeParen language token parser
  | .comma => comma language token parser
  | .prefixOperator => do
    let operator ← resolve language token
    .ok { parser with pending := .operator token operator :: parser.pending }
  | .infixOperator | .postfixOperator => do
    pushOperator language token (← resolve language token) parser
  | .arrayOpen => openBracket language token parser
  | .arrayClose => closeBracket language token parser
  | .separator => do
    let parser ← settleTrailing language parser
    .ok { parser with awaitedField := some token }
  | .arrayIndex => .error (errorAt token .unexpectedToken)

/-- Reads one token. -/
def step (language : Language) (parser : Parser) (token : Token) : Except ParseError Parser := do
  let parser ←
    if token.kind.startsValue && parser.awaitedField.isNone then joinAdjacent language token parser
    else .ok parser
  let parser ← take language token parser
  .ok { parser with previous := some token.kind }

/-- The frame that is open at the end is at fault. -/
def openFrameError : Pending → ParseError
  | .operator token _ => errorAt token .unexpectedToken
  | .group token _ => errorAt token .unmatchedParenthesis
  | .call token _ _ _ _ => errorAt token .unmatchedParenthesis
  | .index token _ => errorAt token .unmatchedBracket

/-- The tree that is left when all tokens are read. -/
def finish (language : Language) (endPosition : Nat) (parser : Parser) : Except ParseError Tree :=
  match parser.awaitedCall.or parser.awaitedField with
  | some token => .error ⟨.unexpectedEnd, endPosition, token.lexeme⟩
  | none => do
    let parser ← settleFrame language parser
    match parser.pending with
    | entry :: _ => .error (openFrameError entry)
    | [] =>
      match parser.operands.reverse with
      | [] => .error ⟨.unexpectedEnd, endPosition, ""⟩
      | [operand] => .ok operand.tree
      | _ :: extra :: _ => .error (errorAt extra.tree.token .tooManyOperands)

end Parser

namespace Tree

/-- The position after the last token. -/
def endPosition (tokens : List Token) : Nat :=
  match tokens.getLast? with
  | some token => token.endPosition
  | none => 0

/-- The tree of a list of tokens. -/
def ofTokens (language : Language) (tokens : List Token) : Except ParseError Tree := do
  let parser ← tokens.foldlM (Parser.step language) Parser.start
  parser.finish language (endPosition tokens)

/-- The tree of a formula's text. -/
def parse (language : Language) (text : String) : Except ParseError Tree := do
  ofTokens language (← Token.scan language text)

end Tree
end Formula

-- SUMMARY: Functions and separators that wait for their parenthesis or field: in any list of tokens, the tree has those that are answered.
import Formula.Proofs.Parsing.Nesting
import Formula.Proofs.Parsing.Reading
import Mathlib.Algebra.Order.Group.Multiset
import Mathlib.Tactic.Abel

/-!
# Tokens that wait for another

A function waits for its parenthesis and a separator for its field. The parser remembers one token
of each kind. The next token that is awaited takes it, however many others have come before, and a
second token of the kind takes its place. In the tokens of a text what is awaited comes at once, so
that neither happens. In any other list, the tokens of the kind that get into the tree are those
that are answered before the next one comes (`Token.answered`).

Everything else about a step is that it loses no token: what is on the stacks before a step is there
after it (`Parser.Keeps`).
-/

namespace Formula

/-- What a token waits for: a function for a parenthesis, a separator for a name. -/
def TokenKind.awaits? : TokenKind → Option TokenKind
  | .function => some .parenOpen
  | .separator => some .name
  | _ => none

namespace Token

/-- Whether a token of the awaited kind comes before the next one that waits. -/
def isAnswered (kind awaited : TokenKind) : List Token → Bool
  | [] => false
  | token :: rest =>
    token.kind = awaited || (token.kind ≠ kind && isAnswered kind awaited rest)

/-- The tokens that wait and are answered. -/
def answered (kind awaited : TokenKind) : List Token → List Token
  | [] => []
  | token :: rest =>
    if token.kind = kind && isAnswered kind awaited rest then token :: answered kind awaited rest
    else answered kind awaited rest

/-- Every token that waits is followed at once by one that is awaited. -/
def AnsweredAtOnce (kind awaited : TokenKind) (tokens : List Token) : Prop :=
  ∀ before token rest, tokens = before ++ token :: rest → token.kind = kind →
    ∃ next, rest.head? = some next ∧ next.kind = awaited

/-- Where all are answered at once, none is left out. -/
theorem answered_of_atOnce {kind awaited : TokenKind} {tokens : List Token}
    (h : AnsweredAtOnce kind awaited tokens) :
    answered kind awaited tokens = tokens.filter (·.kind = kind) := by
  induction tokens with
  | nil => rfl
  | cons token rest ih =>
    have hrest : AnsweredAtOnce kind awaited rest := by
      rintro before other others rfl
      exact h (token :: before) other others rfl
    rw [answered, List.filter_cons, ih hrest]
    by_cases hkind : token.kind = kind
    · have hanswered : isAnswered kind awaited rest = true := by
        obtain ⟨next, hnext, hawaited⟩ := h [] token rest rfl hkind
        obtain ⟨others, rfl⟩ := List.head?_eq_some_iff.mp hnext
        simp [isAnswered, hawaited]
      simp [hkind, hanswered]
    · simp [hkind]

/-- What counts of a token if only those of one kind do. -/
def keptOf (kind : TokenKind) (token : Token) : Multiset Token :=
  if token.kind = kind then {token.bare} else 0

theorem keptOf_of_ne {kind : TokenKind} {token : Token} (h : token.kind ≠ kind) :
    token.keptOf kind = 0 :=
  if_neg h

theorem keptOf_bind (kind : TokenKind) (token : Token) (binding : Binding) :
    (token.bind binding).keptOf kind = token.keptOf kind := rfl

end Token

/-! ## Tokens of trees -/

namespace Tree

variable {kind : TokenKind}

/-- The tokens of a kind in a tree. -/
def tokensOf (kind : TokenKind) (tree : Tree) : List Token :=
  (tree.preorder.filter (·.token.kind = kind)).map (·.token.bare)

/-- The tokens of a kind in some trees. -/
def tokensOfAll (kind : TokenKind) (trees : List Tree) : Multiset Token :=
  ((preorderAll trees).filter (·.token.kind = kind)).map (·.token.bare)

theorem tokensOfAll_nil : tokensOfAll kind [] = 0 := rfl

theorem tokensOfAll_singleton (tree : Tree) : tokensOfAll kind [tree] = tree.tokensOf kind := by
  simp [tokensOfAll, tokensOf, preorderAll]

theorem tokensOfAll_cons (tree : Tree) (rest : List Tree) :
    tokensOfAll kind (tree :: rest) = tokensOfAll kind [tree] + tokensOfAll kind rest := by
  simp [tokensOfAll, preorderAll]

theorem tokensOfAll_node (token : Token) (children : List Tree) :
    tokensOfAll kind [.node token children] = token.keptOf kind + tokensOfAll kind children := by
  simp only [tokensOfAll, preorderAll, preorder_node, List.append_nil, List.filter_cons, Tree.token,
    Token.keptOf]
  by_cases h : token.kind = kind
  · simp [h]
  · simp [h]

theorem tokensOfAll_append (xs ys : List Tree) :
    tokensOfAll kind (xs ++ ys) = tokensOfAll kind xs + tokensOfAll kind ys := by
  induction xs with
  | nil => simp [tokensOfAll_nil]
  | cons x xs ih =>
    rw [List.cons_append, tokensOfAll_cons, ih, tokensOfAll_cons x xs, add_assoc]

theorem tokensOfAll_reverse (trees : List Tree) :
    tokensOfAll kind trees.reverse = tokensOfAll kind trees := by
  induction trees with
  | nil => rfl
  | cons tree rest ih =>
    rw [List.reverse_cons, tokensOfAll_append, ih, add_comm, ← tokensOfAll_cons]

end Tree

/-! ## Tokens on the stacks -/

namespace Parser

variable {L : Language} {kind : TokenKind} {parser next : Parser}

/-- The tokens of a kind in some operands. -/
def operandTokens (kind : TokenKind) (operands : List Operand) : Multiset Token :=
  Tree.tokensOfAll kind (operands.map (·.tree))

/-- The tokens of a kind among those that will be those of a node. -/
def pendingTokens (kind : TokenKind) : List Pending → Multiset Token
  | [] => 0
  | .operator token _ :: rest | .call token _ _ _ _ :: rest =>
    token.keptOf kind + pendingTokens kind rest
  | .group _ _ :: rest | .index _ _ :: rest => pendingTokens kind rest

/-- The tokens of a kind that are on the stacks. -/
def held (kind : TokenKind) (parser : Parser) : Multiset Token :=
  pendingTokens kind parser.pending + operandTokens kind parser.operands

theorem operandTokens_leaf {token : Token} (h : token.kind ≠ kind) (operands : List Operand) :
    operandTokens kind (Operand.leaf token :: operands) = operandTokens kind operands := by
  have hleaf : Tree.tokensOfAll kind [.node token []] = 0 := by
    rw [Tree.tokensOfAll_node, Token.keptOf_of_ne h, Tree.tokensOfAll_nil, add_zero]
  rw [operandTokens, List.map_cons, Tree.tokensOfAll_cons]
  exact (congrArg (· + operandTokens kind operands) hleaf).trans (zero_add _)

/-- A node has the tokens of the operands that it is put over. -/
theorem pushOperand_tokens (token : Token) (operands others : List Operand) (count : Nat) :
    Yields (fun result => operandTokens kind result =
        token.keptOf kind + operandTokens kind others + operandTokens kind operands)
      (pushOperand L (Operand.node token (topOperands operands count ++ others))
        (operands.drop count)) := by
  intro result h
  have hsplit : operandTokens kind (topOperands operands count) +
      operandTokens kind (operands.drop count) = operandTokens kind operands := by
    simp only [operandTokens, topOperands, List.map_reverse, Tree.tokensOfAll_reverse]
    rw [← Tree.tokensOfAll_append, ← List.map_append, List.take_append_drop]
  rw [(pushOperand_eq_ok.mp h).2, ← hsplit]
  simp only [operandTokens, List.map_cons, Operand.node, List.map_append]
  rw [Tree.tokensOfAll_cons, Tree.tokensOfAll_node, Tree.tokensOfAll_append]
  abel

theorem pushOperand_tokens_nil (token : Token) (operands : List Operand) (count : Nat) :
    Yields (fun result => operandTokens kind result =
        token.keptOf kind + operandTokens kind operands)
      (pushOperand L (Operand.node token (topOperands operands count)) (operands.drop count)) := by
  have h := @pushOperand_tokens L kind token operands [] count
  rwa [List.append_nil, operandTokens, List.map_nil, Tree.tokensOfAll_nil, add_zero] at h

theorem reduce_tokens (floor : Nat) (token : Token) (operator : Operator)
    (operands : List Operand) :
    Yields (fun reduced => operandTokens kind reduced =
        token.keptOf kind + operandTokens kind operands)
      (reduce L floor token operator operands) := by
  simp only [reduce]
  split
  · exact .error
  · exact pushOperand_tokens_nil _ operands _

theorem reduceWhile_tokens (floor : Nat) (now : Operator → Bool) (pending : List Pending)
    (operands : List Operand) :
    Yields (fun left => pendingTokens kind left.1 + operandTokens kind left.2 =
        pendingTokens kind pending + operandTokens kind operands)
      (reduceWhile L floor now pending operands) := by
  induction pending generalizing operands with
  | nil => exact .ok rfl
  | cons entry rest ih =>
    cases entry with
    | operator token operator =>
      simp only [reduceWhile]
      split
      · refine (@reduce_tokens L kind floor token operator operands).bind fun reduced hreduced => ?_
        intro left hleft
        rw [ih reduced left hleft, hreduced, pendingTokens]
        abel
      · exact .ok rfl
    | group | call | index => exact .ok rfl

/-! ## Steps that lose nothing -/

/-- The token of a kind that the parser waits with. -/
def waiting (kind : TokenKind) (parser : Parser) : Option Token :=
  match kind with
  | .function => parser.awaitedCall
  | .separator => parser.awaitedField
  | _ => none

/-- The tokens of the kind that are on the stacks stay there, and none of them begins or ends
    waiting. -/
structure Keeps (kind : TokenKind) (parser next : Parser) : Prop where
  held : next.held kind = parser.held kind
  waiting : next.waiting kind = parser.waiting kind

namespace Keeps

theorem refl : Keeps kind parser parser := ⟨rfl, rfl⟩

theorem trans {last : Parser} (h : Keeps kind parser next) (hlast : Keeps kind next last) :
    Keeps kind parser last :=
  ⟨hlast.held.trans h.held, hlast.waiting.trans h.waiting⟩

end Keeps

theorem settle_keeps (kind : TokenKind) (now : Operator → Bool) (parser : Parser) :
    Yields (Keeps kind parser) (settle L now parser) :=
  (reduceWhile_tokens _ now _ _).bind fun _ hleft => .ok ⟨hleft, rfl⟩

theorem pushOperator_keeps {token : Token} (htoken : token.kind ≠ kind) (operator : Operator)
    (parser : Parser) : Yields (Keeps kind parser) (pushOperator L token operator parser) := by
  refine (settle_keeps kind _ parser).bind fun settled hsettled => .ok (hsettled.trans ⟨?_, rfl⟩)
  simp only [Parser.held, pendingTokens, Token.keptOf_of_ne htoken, zero_add]

theorem join_keeps (hkind : .infixOperator ≠ kind) (token : Token) (parser : Parser) :
    Yields (Keeps kind parser) (join L token parser) := by
  unfold join
  split
  · unfold joinAdjacent
    split
    · exact .ok .refl
    · simp only
      split
      · exact .ok .refl
      · split
        · exact .error
        · split
          · exact .error
          · exact pushOperator_keeps hkind _ parser
  · exact .ok .refl

theorem comma_keeps (token : Token) (parser : Parser) :
    Yields (Keeps kind parser) (comma L token parser) := by
  refine (settle_keeps kind _ parser).bind fun settled hsettled => ?_
  simp only
  split
  · rename_i hpending
    split
    · exact .error
    · refine .ok (hsettled.trans ⟨?_, rfl⟩)
      simp only [Parser.held, hpending, pendingTokens]
  · exact .error

/-- The token of a call goes from the pending entries to the tree of the call. -/
theorem closeParen_keeps (token : Token) (parser : Parser) :
    Yields (Keeps kind parser) (closeParen L token parser) := by
  refine (settle_keeps kind _ parser).bind fun settled hsettled => ?_
  simp only
  split
  · rename_i hpending
    split
    · refine .ok (hsettled.trans ⟨?_, rfl⟩)
      simp only [Parser.held, hpending, pendingTokens]
    · exact .error
  · rename_i call function base slot commas rest hpending
    split
    · exact .error
    · split
      · exact .error
      · refine (@pushOperand_tokens_nil L kind _ settled.operands _).bind fun result hresult => ?_
        refine .ok (hsettled.trans ⟨?_, rfl⟩)
        simp only [Parser.held, hpending, pendingTokens, hresult]
        rw [Token.keptOf_bind]
        abel
  · exact .error
  · exact .error
  · exact .error

theorem openBracket_keeps (token : Token) (parser : Parser) :
    Yields (Keeps kind parser) (openBracket L token parser) :=
  (settle_keeps kind _ parser).bind fun _ hsettled => .ok (hsettled.trans ⟨rfl, rfl⟩)

theorem closeBracket_keeps (hkind : .arrayIndex ≠ kind) (token : Token) (parser : Parser) :
    Yields (Keeps kind parser) (closeBracket L token parser) := by
  refine (settle_keeps kind _ parser).bind fun settled hsettled => ?_
  simp only
  split
  · rename_i hpending
    split
    · exact .error
    · refine (@pushOperand_tokens_nil L kind _ settled.operands _).bind fun result hresult => ?_
      refine .ok (hsettled.trans ⟨?_, rfl⟩)
      rw [Token.keptOf_of_ne hkind, zero_add] at hresult
      simp only [Parser.held, hpending, pendingTokens, hresult]
  · exact .error
  · exact .error
  · exact .error

/-! ## Steps that begin or end waiting -/

/-- What the waiting token adds when it is answered. -/
def due (kind : TokenKind) (waiting : Option Token) : Multiset Token :=
  waiting.elim 0 (Token.keptOf kind)

/-- The parser waits with tokens of the right kinds. -/
def Sorted (parser : Parser) : Prop :=
  ∀ kind awaited, TokenKind.awaits? kind = some awaited →
    ∀ token, parser.waiting kind = some token → token.kind = kind

/-- What a token does to those of a kind that waits: one of the kind waits from now on, and one that
    is awaited puts the waiting token on the stacks. -/
structure Answers (kind awaited : TokenKind) (token : Token) (parser next : Parser) : Prop where
  held (sorted : parser.Sorted) : next.held kind =
    (if token.kind = awaited then due kind (parser.waiting kind) else 0) + parser.held kind
  waiting : next.waiting kind =
    if token.kind = kind then some token
    else if token.kind = awaited then none else parser.waiting kind

variable {awaited : TokenKind} {token : Token}

theorem Keeps.answers (h : Keeps kind parser next) (hkind : token.kind ≠ kind)
    (hawaited : token.kind ≠ awaited) : Answers kind awaited token parser next where
  held _ := by rw [if_neg hawaited, zero_add, h.held]
  waiting := by rw [if_neg hkind, if_neg hawaited, h.waiting]

/-- A parenthesis begins the call that waits for it. -/
theorem openParen_yields (token : Token) (parser : Parser) :
    Yields (fun next => next.held kind = due kind parser.awaitedCall + parser.held kind ∧
        next.awaitedCall = none ∧ next.awaitedField = parser.awaitedField)
      (openParen L token parser) := by
  simp only [openParen]
  split
  · rename_i hcall
    refine .ok ⟨?_, hcall, rfl⟩
    simp only [Parser.held, pendingTokens, hcall, due, Option.elim_none, zero_add]
  · rename_i call hcall
    split
    · exact .error
    · refine .ok ⟨?_, rfl, rfl⟩
      simp only [Parser.held, pendingTokens, hcall, due, Option.elim_some]
      abel

/-- A name is the field of the separator that waits for it, and a variable otherwise. -/
theorem takeName_yields (hname : token.kind = .name) (hkind : token.kind ≠ kind)
    (parser : Parser) :
    Yields (fun next => next.held kind = due kind parser.awaitedField + parser.held kind ∧
        next.awaitedCall = parser.awaitedCall ∧ next.awaitedField = none)
      (take L token parser) := by
  simp only [take, hname]
  split
  · rename_i separator hfield
    simp only [accessField]
    split
    · exact .error
    · refine (@pushOperand_tokens L kind separator parser.operands [.leaf token] 1).bind
        fun result hresult => .ok ⟨?_, rfl, rfl⟩
      have hleaf : operandTokens kind [.leaf token] = 0 := operandTokens_leaf hkind []
      simp only [Parser.held, hresult, hleaf, hfield, due, Option.elim_some, add_zero]
      abel
  · rename_i hfield
    refine .ok ⟨?_, rfl, hfield⟩
    simp only [Parser.held, operandTokens_leaf hkind, hfield, due, Option.elim_none, zero_add]

theorem cases_of_awaits? (h : kind.awaits? = some awaited) :
    kind = .function ∧ awaited = .parenOpen ∨ kind = .separator ∧ awaited = .name := by
  cases kind <;> cases h
  · exact .inl ⟨rfl, rfl⟩
  · exact .inr ⟨rfl, rfl⟩

/-- A kind that waits for nothing is none that waits. -/
theorem ne_of_awaits? (h : kind.awaits? = some awaited) {other : TokenKind}
    (hother : other.awaits? = none) : other ≠ kind := by
  rintro rfl
  rw [hother] at h
  cases h

/-- A token that waits is of no other kind. -/
theorem due_of_ne {other : TokenKind} (hsorted : parser.Sorted)
    (hawaits : other.awaits? = some awaited) (h : other ≠ kind) :
    due kind (parser.waiting other) = 0 := by
  cases hwaiting : parser.waiting other with
  | none => rfl
  | some token =>
    have htoken := hsorted other awaited hawaits token hwaiting
    exact Token.keptOf_of_ne (by rw [htoken]; exact h)

/-- A token that neither waits nor is awaited makes no difference. -/
theorem answers_of_keeps (hawaits : kind.awaits? = some awaited) {other : TokenKind}
    (htoken : token.kind = other) (hplain : other ∉ [.function, .separator, .parenOpen, .name])
    {result : Except ParseError Parser} (h : Yields (Keeps kind parser) result) :
    Yields (Answers kind awaited token parser) result := by
  subst htoken
  intro next hnext
  simp only [List.mem_cons, List.not_mem_nil, or_false, not_or] at hplain
  obtain ⟨hfunction, hseparator, hparen, hname⟩ := hplain
  rcases cases_of_awaits? hawaits with ⟨rfl, rfl⟩ | ⟨rfl, rfl⟩
  · exact (h next hnext).answers hfunction hparen
  · exact (h next hnext).answers hseparator hname

theorem awaitCall_answers (hawaits : kind.awaits? = some awaited)
    (htoken : token.kind = .function) :
    Answers kind awaited token parser { parser with awaitedCall := some token } := by
  rcases cases_of_awaits? hawaits with ⟨rfl, rfl⟩ | ⟨rfl, rfl⟩
  · exact ⟨fun _ => by simp [htoken, held], by simp [htoken, waiting]⟩
  · exact Keeps.answers ⟨rfl, rfl⟩ (by rw [htoken]; decide) (by rw [htoken]; decide)

theorem awaitField_answers (hawaits : kind.awaits? = some awaited)
    (htoken : token.kind = .separator) (hkeeps : Keeps kind parser next) :
    Answers kind awaited token parser { next with awaitedField := some token } := by
  rcases cases_of_awaits? hawaits with ⟨rfl, rfl⟩ | ⟨rfl, rfl⟩
  · have hcall : Keeps .function parser { next with awaitedField := some token } :=
      hkeeps.trans ⟨rfl, rfl⟩
    exact hcall.answers (by rw [htoken]; decide) (by rw [htoken]; decide)
  · refine ⟨fun _ => ?_, by simp [htoken, waiting]⟩
    rw [if_neg (by rw [htoken]; decide), zero_add]
    exact hkeeps.held

theorem openParen_answers (hawaits : kind.awaits? = some awaited)
    (htoken : token.kind = .parenOpen) :
    Yields (Answers kind awaited token parser) (openParen L token parser) := by
  intro next hnext
  obtain ⟨hheld, hcall, hfield⟩ := @openParen_yields L kind token parser next hnext
  rcases cases_of_awaits? hawaits with ⟨rfl, rfl⟩ | ⟨rfl, rfl⟩
  · exact ⟨fun _ => by rw [hheld, if_pos htoken]; rfl, by simp [htoken, waiting, hcall]⟩
  · refine ⟨fun hsorted => ?_, by simp [htoken, waiting, hfield]⟩
    -- The function that is answered is no separator.
    have hdue : due .separator parser.awaitedCall = 0 :=
      @due_of_ne .separator parser .parenOpen .function hsorted rfl (by decide)
    rw [hheld, hdue, if_neg (by rw [htoken]; decide)]

theorem takeName_answers (hawaits : kind.awaits? = some awaited) (htoken : token.kind = .name) :
    Yields (Answers kind awaited token parser) (take L token parser) := by
  have hkind : token.kind ≠ kind := by
    rw [htoken]
    exact ne_of_awaits? hawaits rfl
  intro next hnext
  obtain ⟨hheld, hcall, hfield⟩ := takeName_yields htoken hkind parser next hnext
  rcases cases_of_awaits? hawaits with ⟨rfl, rfl⟩ | ⟨rfl, rfl⟩
  · refine ⟨fun hsorted => ?_, by simp [htoken, waiting, hcall]⟩
    -- The separator that is answered is no function.
    have hdue : due .function parser.awaitedField = 0 :=
      @due_of_ne .function parser .name .separator hsorted rfl (by decide)
    rw [hheld, hdue, if_neg (by rw [htoken]; decide)]
  · exact ⟨fun _ => by rw [hheld, if_pos htoken]; rfl, by simp [htoken, waiting, hfield]⟩

/-- What is awaited answers, a token of the kind waits, and nothing else makes a difference. -/
theorem take_answers (hawaits : kind.awaits? = some awaited) :
    Yields (Answers kind awaited token parser) (take L token parser) := by
  have hkind : ∀ {other : TokenKind}, token.kind = other → other.awaits? = none →
      token.kind ≠ kind := by
    rintro _ rfl hother
    exact ne_of_awaits? hawaits hother
  cases htoken : token.kind with
  | number | text =>
    refine answers_of_keeps hawaits htoken (by decide) ?_
    simp only [take, htoken]
    exact .ok ⟨by simp only [held, operandTokens_leaf (hkind htoken rfl)], rfl⟩
  | name => exact takeName_answers hawaits htoken
  | function =>
    simp only [take, htoken]
    exact .ok (awaitCall_answers hawaits htoken)
  | parenOpen =>
    simp only [take, htoken]
    exact openParen_answers hawaits htoken
  | parenClose =>
    refine answers_of_keeps hawaits htoken (by decide) ?_
    simp only [take, htoken]
    exact closeParen_keeps token parser
  | comma =>
    refine answers_of_keeps hawaits htoken (by decide) ?_
    simp only [take, htoken]
    exact comma_keeps token parser
  | prefixOperator =>
    refine answers_of_keeps hawaits htoken (by decide) ?_
    simp only [take, htoken]
    refine .last fun operator => .ok ⟨?_, rfl⟩
    simp only [held, pendingTokens, Token.keptOf_of_ne (hkind htoken rfl), zero_add]
  | infixOperator | postfixOperator =>
    refine answers_of_keeps hawaits htoken (by decide) ?_
    simp only [take, htoken]
    exact .last fun operator => pushOperator_keeps (hkind htoken rfl) operator parser
  | arrayOpen =>
    refine answers_of_keeps hawaits htoken (by decide) ?_
    simp only [take, htoken]
    exact openBracket_keeps token parser
  | arrayClose =>
    refine answers_of_keeps hawaits htoken (by decide) ?_
    simp only [take, htoken]
    exact closeBracket_keeps (ne_of_awaits? hawaits rfl) token parser
  | separator =>
    simp only [take, htoken]
    exact (settle_keeps kind _ parser).bind fun _ hsettled =>
      .ok (awaitField_answers hawaits htoken hsettled)
  | arrayIndex =>
    simp only [take, htoken]
    exact .error

theorem step_answers (hawaits : kind.awaits? = some awaited) :
    Yields (Answers kind awaited token parser) (step L parser token) := by
  rw [step_eq]
  intro next h
  obtain ⟨joined, hjoin, h⟩ := ok_of_bind h
  obtain ⟨taken, htake, h⟩ := ok_of_bind h
  cases h
  have hkeeps := join_keeps (ne_of_awaits? hawaits rfl) token parser joined hjoin
  have hanswers := take_answers hawaits taken htake
  refine ⟨fun hsorted => ?_, hanswers.waiting.trans (by rw [hkeeps.waiting])⟩
  have hjoined : joined.Sorted := by
    intro other awaited' hother
    rw [(join_keeps (ne_of_awaits? hother rfl) token parser joined hjoin).waiting]
    exact hsorted other awaited' hother
  exact (hanswers.held hjoined).trans (by rw [hkeeps.held, hkeeps.waiting])

theorem step_sorted (hsorted : parser.Sorted) : Yields Sorted (step L parser token) := by
  intro next h kind awaited hawaits other hother
  rw [(step_answers hawaits next h).waiting] at hother
  split at hother
  · cases hother
    assumption
  · split at hother
    · cases hother
    · exact hsorted kind awaited hawaits other hother

/-! ## Runs -/

/-- After any tokens the stacks have those of the kind that are answered, and first the one that was
    waiting, if it is. -/
theorem foldlM_answers (hawaits : kind.awaits? = some awaited) (tokens : List Token)
    (hsorted : parser.Sorted) :
    Yields (fun next => next.held kind =
        (if Token.isAnswered kind awaited tokens then due kind (parser.waiting kind) else 0) +
          (Token.answered kind awaited tokens).map Token.bare + parser.held kind)
      (tokens.foldlM (step L) parser) := by
  have hne : kind ≠ awaited := by
    rcases cases_of_awaits? hawaits with ⟨rfl, rfl⟩ | ⟨rfl, rfl⟩ <;> decide
  induction tokens generalizing parser with
  | nil =>
    refine .ok ?_
    simp [Token.isAnswered, Token.answered]
  | cons token tokens ih =>
    rw [List.foldlM_cons]
    intro next h
    obtain ⟨between, hstep, hrun⟩ := ok_of_bind h
    have hanswers := step_answers hawaits between hstep
    rw [ih (step_sorted hsorted between hstep) next hrun, hanswers.held hsorted, hanswers.waiting,
      Token.isAnswered, Token.answered]
    by_cases hkind : token.kind = kind
    · -- The token waits from now on, and what waited before it is forgotten.
      have hawaited : token.kind ≠ awaited := by rwa [hkind]
      have hdue : due kind (some token) = {token.bare} := if_pos hkind
      rw [if_pos hkind, if_neg hawaited]
      cases hanswered : Token.isAnswered kind awaited tokens with
      | true => simp [hkind, hne, hdue, ← Multiset.cons_coe, ← Multiset.singleton_add]
      | false => simp [hkind, hne]
    · by_cases hawaited : token.kind = awaited
      · simp [hawaited, due, hne.symm]
        abel
      · simp [hkind, hawaited]

/-- A token that waits goes on waiting if what it waits for does not come. -/
theorem foldlM_waiting (hawaits : kind.awaits? = some awaited) {tokens : List Token}
    (hnone : ∀ token ∈ tokens, token.kind ≠ awaited)
    (hwaiting : (parser.waiting kind).isSome = true) :
    Yields (fun next => (next.waiting kind).isSome = true) (tokens.foldlM (step L) parser) := by
  induction tokens generalizing parser with
  | nil => exact .ok hwaiting
  | cons token tokens ih =>
    obtain ⟨hfirst, hrest⟩ := List.forall_mem_cons.mp hnone
    rw [List.foldlM_cons]
    intro next h
    obtain ⟨between, hstep, hrun⟩ := ok_of_bind h
    refine ih hrest ?_ next hrun
    rw [(step_answers hawaits between hstep).waiting, if_neg hfirst]
    split
    · rfl
    · exact hwaiting

/-- At the end the tree has what is on the stacks, and nothing waits. -/
theorem finish_yields (hawaits : kind.awaits? = some awaited) (position : Nat) (parser : Parser) :
    Yields (fun tree => Tree.tokensOf kind tree = parser.held kind ∧ parser.waiting kind = none)
      (finish L position parser) := by
  unfold finish
  split
  · exact .error
  · rename_i hnone
    obtain ⟨hcall, hfield⟩ := Option.or_eq_none_iff.mp hnone
    have hwaiting : parser.waiting kind = none := by
      rcases cases_of_awaits? hawaits with ⟨rfl, -⟩ | ⟨rfl, -⟩
      · exact hcall
      · exact hfield
    refine (settle_keeps kind _ parser).bind fun settled hsettled => ?_
    split
    · exact .error
    · rename_i hpending
      split
      · exact .error
      · rename_i operand hoperands
        have hoperands : settled.operands = [operand] := List.reverse_eq_iff.mp hoperands
        refine .ok ⟨?_, hwaiting⟩
        rw [← hsettled.held, Parser.held, hpending, hoperands, pendingTokens, zero_add,
          operandTokens, List.map_singleton, Tree.tokensOfAll_singleton]
      · exact .error

theorem waiting_start (kind : TokenKind) : start.waiting kind = none := by
  cases kind <;> rfl

theorem sorted_start : start.Sorted := by
  intro kind awaited _ token h
  rw [waiting_start] at h
  cases h

end Parser

namespace Tree

variable {L : Language} {tokens : List Token} {tree : Tree} {kind awaited : TokenKind}

/-- Of any list of tokens that has a tree, the tree has the functions that are answered by a
    parenthesis before the next function comes, each as often as the list has it, and no others.
    Behind every function a parenthesis does come, so none is left waiting at the end. If it comes
    at once behind each of them, the tree has all functions of the list. The same holds of
    separators and the names that are their fields. -/
theorem tokensOf_of_ofTokens (h : ofTokens L tokens = .ok tree)
    (hawaits : kind.awaits? = some awaited) :
    (tree.tokensOf kind).Perm ((Token.answered kind awaited tokens).map Token.bare) ∧
    (∀ before token rest, tokens = before ++ token :: rest → token.kind = kind →
      ∃ later ∈ rest, later.kind = awaited) ∧
    (Token.AnsweredAtOnce kind awaited tokens →
      (tree.tokensOf kind).Perm ((tokens.filter (·.kind = kind)).map Token.bare)) := by
  obtain ⟨parser, hrun, hfinish⟩ := ok_of_bind h
  obtain ⟨htree, hwaiting⟩ := Parser.finish_yields hawaits _ parser tree hfinish
  have hanswered : (tree.tokensOf kind).Perm
      ((Token.answered kind awaited tokens).map Token.bare) := by
    have hheld : parser.held kind = (Token.answered kind awaited tokens).map Token.bare := by
      have hstart : Parser.start.held kind = 0 := rfl
      rw [Parser.foldlM_answers hawaits tokens Parser.sorted_start parser hrun, hstart,
        Parser.waiting_start, Parser.due, Option.elim_none, ite_self, zero_add, add_zero]
    exact Multiset.coe_eq_coe.mp (htree.trans hheld)
  refine ⟨hanswered, ?_, ?_⟩
  · rintro before token rest rfl hkind
    by_contra hnone
    rw [List.foldlM_append] at hrun
    obtain ⟨reached, hbefore, hrun⟩ := ok_of_bind hrun
    rw [List.foldlM_cons] at hrun
    obtain ⟨behind, hstep, hrun⟩ := ok_of_bind hrun
    have hbehind : behind.waiting kind = some token := by
      rw [(Parser.step_answers hawaits behind hstep).waiting, if_pos hkind]
    have hlast : (parser.waiting kind).isSome = true :=
      Parser.foldlM_waiting hawaits (by simpa using hnone) (by rw [hbehind]; rfl) parser hrun
    rw [hwaiting] at hlast
    cases hlast
  · intro hatOnce
    rwa [← Token.answered_of_atOnce hatOnce]

/-- One function that is not answered, and one that is answered behind other tokens. -/
def strayTokens : List Token :=
  [⟨.function, "SQRT", 0, none⟩, ⟨.function, "ABS", 5, none⟩, ⟨.number, "2", 9, none⟩,
    ⟨.infixOperator, "*", 11, none⟩, ⟨.parenOpen, "(", 13, none⟩, ⟨.number, "3", 14, none⟩,
    ⟨.parenClose, ")", 15, none⟩]

/-- The tree has the second function only. -/
theorem tokensOf_of_ofTokens_stray : ∃ tree,
    ofTokens Configuration.standard.toLanguage strayTokens = .ok tree ∧
    (tree.tokensOf .function).Perm [⟨.function, "ABS", 5, none⟩] ∧
    ¬ Token.AnsweredAtOnce .function .parenOpen strayTokens := by
  have hrun : (ofTokens Configuration.standard.toLanguage strayTokens).toOption.any
      (fun _ => true) = true := by
    decide +kernel
  obtain ⟨tree, htree, -⟩ := ok_of_any hrun
  obtain ⟨hanswered, -, hall⟩ := tokensOf_of_ofTokens htree (rfl : TokenKind.awaits? .function = _)
  refine ⟨tree, htree, hanswered, fun hatOnce => ?_⟩
  have hlength := (hanswered.symm.trans (hall hatOnce)).length_eq
  revert hlength
  decide

end Tree
end Formula

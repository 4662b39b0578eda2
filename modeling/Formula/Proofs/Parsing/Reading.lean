-- SUMMARY: Reading a tree in order yields the tokens of the text, if operators behind their operand bind tightly enough.
import Formula.BuiltIn.Functions
import Formula.BuiltIn.Operators
import Formula.Configuration
import Formula.Proofs.Parsing.Build
import Formula.Proofs.Tree.Nodes
import Mathlib.Data.List.Chain

/-!
# Reading a tree in order

No token is lost or moved on the way into a tree: read in order, the tree has the tokens of the
text, but for the brackets and commas that its shape stands for. The one thing that can go wrong is
an operator behind its operand. It waits on the stack like any other, and where the next operator
binds more tightly it is applied too late. `Released` says that it is not.
-/

namespace Formula

/-! ## What is kept of a token -/

namespace Token

/-- A token without what it was resolved to. -/
def bare (token : Token) : Token := { token with binding := none }

/-- What a tree keeps of a token: nothing of a bracket or a comma, but for the one that begins an
    index. -/
def kept? (token : Token) : Option Token :=
  match token.kind with
  | .parenOpen | .parenClose | .comma | .arrayClose => none
  | .arrayOpen => some (Parser.indexToken token)
  | _ => some token.bare

/-- What a tree keeps of a list of tokens. -/
def written (tokens : List Token) : List Token := tokens.filterMap kept?

theorem written_concat (tokens : List Token) (token : Token) :
    written (tokens ++ [token]) = written tokens ++ token.kept?.toList := by
  simp only [written, List.filterMap_append]
  cases h : token.kept? <;> simp [h]

end Token

@[simp] theorem Sign.bare_bound {L : Language} {fixity : Fixity} (sign : Sign L fixity) :
    sign.bound.bare = sign.token.bare := rfl

@[simp] theorem Sign.kept?_token {L : Language} {fixity : Fixity} (sign : Sign L fixity) :
    sign.token.kept? = some sign.token.bare := by
  cases fixity <;> simp [Token.kept?, sign.kind_eq, Fixity.tokenKind]

@[simp] theorem Callee.bare_bound {L : Language} (callee : Callee L) :
    callee.bound.bare = callee.token.bare := rfl

@[simp] theorem Parser.bare_indexToken (bracket : Token) :
    (Parser.indexToken bracket).bare = Parser.indexToken bracket := rfl

/-! ## Operators that are applied in time -/

namespace Language

/-- Whether an operator that waits is applied before another one is read. -/
def Outranks (L : Language) (waiting next : Operator) : Prop :=
  L.precedenceOf next < L.precedenceOf waiting ∨
    L.precedenceOf waiting = L.precedenceOf next ∧ next.rule.leftAssociative = true

/-- Every operator behind its operand outranks every operator that can come after it. -/
def PostfixFirst (L : Language) : Prop :=
  ∀ {name : String} {waiting : Operator}, L.operators.find? .after name = some waiting →
    ∀ {fixity : Fixity} {other : String} {next : Operator}, fixity ≠ .before →
      L.operators.find? fixity other = some next → L.Outranks waiting next

end Language

theorem Sign.releases_iff {L : Language} {fixity : Fixity} (sign : Sign L fixity)
    (waiting : Operator) : sign.releases waiting = true ↔ L.Outranks waiting sign.operator := by
  simp [releases, Parser.bindsTighter, Language.Outranks]

/-- If the first token is an operator behind its operand and the second one an operator behind an
    operand or between two, then the first one is applied in time. -/
def Token.Released (L : Language) (t u : Token) : Prop :=
  ∀ {fixity : Fixity} (p : Sign L .after) (q : Sign L fixity), fixity ≠ .before →
    p.token = t → q.token = u → L.Outranks p.operator q.operator

theorem Language.PostfixFirst.isChain {L : Language} (h : L.PostfixFirst) (tokens : List Token) :
    tokens.IsChain (Token.Released L) := by
  have hreleased : ∀ t u, Token.Released L t u := by
    intro t u fixity p q hfixity _ _
    exact h p.found hfixity q.found
  exact (List.pairwise_of_forall hreleased).isChain

namespace Parser

open Cursor (due called read fielded)

variable {L : Language}

/-! ## Reading a context -/

namespace Context

/-- What is read before the open place. -/
def spine : Context L → List Token
  | top => []
  | before sign outer => outer.spine ++ [sign.bound]
  | after _ outer => outer.spine
  | between left sign outer => outer.spine ++ (left.inorder ++ [sign.bound])
  | group _ outer => outer.spine
  | call callee arguments outer => outer.spine ++ callee.bound :: Tree.inorderAll arguments
  | index array bracket outer => outer.spine ++ (array.inorder ++ [indexToken bracket])

/-- What is read behind the open place. -/
def trail : Context L → List Token
  | after sign outer => sign.bound :: outer.trail
  | _ => []

/-- No operator behind its operand waits. -/
def Clear : Context L → Prop
  | top => True
  | after _ _ => False
  | before _ outer | between _ _ outer | group _ outer | call _ _ outer | index _ _ outer =>
    outer.Clear

/-- No operator behind its operand waits but the last one. -/
def Orderly : Context L → Prop
  | after _ outer => outer.Clear
  | c => c.Clear

theorem Clear.trail_eq {c : Context L} (h : c.Clear) : c.trail = [] := by
  cases c with
  | after sign outer => cases h
  | _ => rfl

theorem Clear.orderly {c : Context L} (h : c.Clear) : c.Orderly := by
  cases c with
  | after sign outer => cases h
  | _ => exact h

/-- Applying operators changes nothing in the order of the tokens. -/
theorem settle_reading {now : Operator → Bool} {c d : Context L} {x y : Tree} (h : c.Orderly)
    (hsettled : c.settle now x = (d, y)) :
    d.Orderly ∧ d.spine ++ (y.inorder ++ d.trail) = c.spine ++ (x.inorder ++ c.trail) := by
  refine settle_keeps (I := fun d y => d.Orderly ∧
    d.spine ++ (y.inorder ++ d.trail) = c.spine ++ (x.inorder ++ c.trail)) hsettled ⟨h, rfl⟩
    ?_ ?_ ?_
  · rintro sign outer z - ⟨hclear, hread⟩
    have hclear : outer.Clear := hclear
    refine ⟨hclear.orderly, ?_⟩
    rw [← hread, hclear.trail_eq]
    simp [spine, trail, Tree.inorder, Tree.inorderAll, Fixity.tokenKind]
  · rintro sign outer z - ⟨hclear, hread⟩
    have hclear : outer.Clear := hclear
    refine ⟨hclear.orderly, ?_⟩
    rw [← hread]
    simp [spine, trail, Tree.inorder, Tree.inorderAll, Fixity.tokenKind]
  · rintro left sign outer z - ⟨hclear, hread⟩
    have hclear : outer.Clear := hclear
    refine ⟨hclear.orderly, ?_⟩
    rw [← hread, hclear.trail_eq]
    simp [spine, trail, Tree.inorder, Tree.inorderAll, Fixity.tokenKind]

theorem Clear.settle {c : Context L} (h : c.Clear) (now : Operator → Bool) (x : Tree) :
    (c.settle now x).1.Clear :=
  settle_induct (I := fun d _ => d.Clear) (fun _ _ _ _ h => h) (fun _ _ _ _ h => h.elim)
    (fun _ _ _ _ _ h => h) h

/-- If the operator that waits behind its operand is applied, none is left that does. -/
theorem Orderly.settle {c : Context L} (h : c.Orderly) {now : Operator → Bool}
    (hnow : ∀ sign outer, c = after sign outer → now sign.operator = true) (x : Tree) :
    (c.settle now x).1.Clear := by
  cases c with
  | after sign outer =>
    have hclear : outer.Clear := h
    rw [Context.settle, if_pos (hnow sign outer rfl)]
    exact hclear.settle now _
  | before | between | group | call | index | top => exact Clear.settle h now x

end Context

/-! ## Reading a cursor -/

namespace Cursor

/-- The tokens up to the cursor, as they are read, are the given ones. No operator waits behind its
    operand, but for one that is the last token. -/
def Reads (tokens : List Token) : Cursor L → Prop
  | due c => c.Clear ∧ c.spine.map Token.bare = Token.written tokens
  | called call c => c.Clear ∧ (c.spine ++ [call]).map Token.bare = Token.written tokens
  | read c x =>
    c.Orderly ∧
      (∀ sign outer, c = .after sign outer → tokens.getLast? = some sign.token) ∧
      (c.spine ++ (x.inorder ++ c.trail)).map Token.bare = Token.written tokens
  | fielded separator c x =>
    c.Clear ∧ separator.kind = .separator ∧
      (c.spine ++ (x.inorder ++ [separator])).map Token.bare = Token.written tokens

theorem Reads.read_clear {tokens : List Token} {c : Context L} {x : Tree} (h : c.Clear)
    (hread : (c.spine ++ x.inorder).map Token.bare = Token.written tokens) :
    (read c x).Reads tokens := by
  refine ⟨h.orderly, ?_, by rwa [h.trail_eq, List.append_nil]⟩
  rintro sign outer rfl
  cases h

/-- After a move in which every operator that waits behind its operand is applied, the operand and
    its context are read as before. -/
theorem Reads.settle {tokens : List Token} {c d : Context L} {x y : Tree}
    (h : (read c x).Reads tokens) {now : Operator → Bool} (hsettled : c.settle now x = (d, y))
    (hnow : ∀ sign outer, c = .after sign outer → now sign.operator = true) :
    d.Clear ∧ (d.spine ++ y.inorder).map Token.bare = Token.written tokens := by
  obtain ⟨horderly, -, hread⟩ := h
  obtain ⟨-, hsame⟩ := Context.settle_reading horderly hsettled
  have hclear : d.Clear := by
    have := horderly.settle hnow x
    rwa [hsettled] at this
  rw [← hread, ← hsame, hclear.trail_eq, List.append_nil]
  exact ⟨hclear, rfl⟩

theorem isTrailing_of_after (sign : Sign L .after) : isTrailing sign.operator = true := by
  simp [isTrailing, sign.fixity_eq]

/-- The operator that waits behind its operand is the last token, so it is applied in time. -/
theorem releases_of_released {tokens : List Token} {c : Context L} {x : Tree} {fixity : Fixity}
    {sign : Sign L fixity} (hfixity : fixity ≠ .before) (h : (read c x).Reads tokens)
    (hreleased : ∀ s, tokens.getLast? = some s → Token.Released L s sign.token) :
    ∀ waiting outer, c = .after waiting outer → sign.releases waiting.operator = true := by
  intro waiting outer hc
  have hlast := h.2.1 waiting outer hc
  exact (sign.releases_iff _).mpr (hreleased _ hlast waiting sign hfixity rfl rfl)

/-- A move adds its token to what is read. -/
theorem Move.reads {t : Token} {cursor next : Cursor L} (hmove : Move L t cursor next)
    {tokens : List Token} (h : cursor.Reads tokens)
    (hreleased : ∀ s, tokens.getLast? = some s → Token.Released L s t) :
    next.Reads (tokens ++ [t]) := by
  cases hmove with
  | leaf kind =>
    refine .read_clear h.1 ?_
    rw [Token.written_concat, ← h.2]
    rcases kind with kind | kind | kind <;>
      simp [Tree.leaf, Tree.inorder, Tree.inorderAll, Token.kept?, kind]
  | function kind =>
    refine ⟨h.1, ?_⟩
    rw [Token.written_concat, ← h.2]
    simp [Token.kept?, kind, Token.bare]
  | openGroup kind =>
    refine ⟨h.1, ?_⟩
    rw [Token.written_concat, ← h.2]
    simp [Token.kept?, kind, Context.spine]
  | openCall callee kind =>
    refine ⟨h.1, ?_⟩
    rw [Token.written_concat, ← h.2]
    simp [Token.kept?, kind, Context.spine, Tree.inorderAll]
  | before sign =>
    refine ⟨h.1, ?_⟩
    rw [Token.written_concat, ← h.2]
    simp [Context.spine]
  | between sign settled =>
    have hnow := releases_of_released (by decide) h hreleased
    obtain ⟨hclear, hread⟩ := h.settle settled hnow
    refine ⟨hclear, ?_⟩
    rw [Token.written_concat, ← hread]
    simp [Context.spine]
  | after sign settled =>
    have hnow := releases_of_released (by decide) h hreleased
    obtain ⟨hclear, hread⟩ := h.settle settled hnow
    refine ⟨hclear, ?_, ?_⟩
    · rintro _ _ ⟨⟩
      simp
    · rw [Token.written_concat, ← hread]
      simp [Context.spine, Context.trail, hclear.trail_eq]
  | openIndex kind settled =>
    obtain ⟨hclear, hread⟩ := h.settle settled (fun sign _ _ => isTrailing_of_after sign)
    refine ⟨hclear, ?_⟩
    rw [Token.written_concat, ← hread]
    simp [Context.spine, Token.kept?, kind]
  | separator kind settled =>
    obtain ⟨hclear, hread⟩ := h.settle settled (fun sign _ _ => isTrailing_of_after sign)
    refine ⟨hclear, kind, ?_⟩
    rw [Token.written_concat, ← hread]
    simp [Token.kept?, kind, Token.bare]
  | field kind =>
    obtain ⟨hclear, hseparator, hread⟩ := h
    refine .read_clear hclear ?_
    rw [Token.written_concat, ← hread]
    simp [Tree.leaf, Tree.inorder, Tree.inorderAll, Token.kept?, kind, hseparator]
  | comma kind settled =>
    obtain ⟨hclear, hread⟩ := h.settle settled (fun _ _ _ => rfl)
    refine ⟨hclear, ?_⟩
    rw [Token.written_concat, ← hread]
    simp [Context.spine, Tree.inorderAll_append, Tree.inorderAll, Token.kept?, kind]
  | closeGroup kind settled =>
    obtain ⟨hclear, hread⟩ := h.settle settled (fun _ _ _ => rfl)
    refine .read_clear hclear ?_
    rw [Token.written_concat, ← hread]
    simp [Context.spine, Token.kept?, kind]
  | closeCall kind settled accepted =>
    obtain ⟨hclear, hread⟩ := h.settle settled (fun _ _ _ => rfl)
    refine .read_clear hclear ?_
    rw [Token.written_concat, ← hread]
    simp [Context.spine, Tree.inorder, Tree.inorderAll_append, Tree.inorderAll, Token.kept?, kind]
  | closeEmpty kind accepted =>
    refine .read_clear h.1 ?_
    rw [Token.written_concat, ← h.2]
    simp [Context.spine, Tree.inorder, Tree.inorderAll, Token.kept?, kind]
  | closeIndex kind settled =>
    obtain ⟨hclear, hread⟩ := h.settle settled (fun _ _ _ => rfl)
    refine .read_clear hclear ?_
    rw [Token.written_concat, ← hread]
    simp [Context.spine, Tree.inorder, Tree.inorderAll, Token.kept?, kind, indexToken]

/-- Where every operator behind its operand is applied in time, the cursor keeps all tokens in
    their order. -/
theorem Moves.reads {tokens : List Token} {cursor : Cursor L} (h : Moves L tokens cursor)
    (hchain : tokens.IsChain (Token.Released L)) : cursor.Reads tokens := by
  induction h with
  | start => exact ⟨trivial, rfl⟩
  | @move tokens t cursor next _ hmove ih =>
    obtain ⟨hbefore, -, hlast⟩ := List.isChain_append.mp hchain
    apply hmove.reads (ih hbefore)
    intro s hs
    exact hlast s hs t rfl

end Cursor
end Parser

/-! ## Reading a formula -/

namespace Tree

variable {L : Language}

/-- A tree that is built from tokens has all of them in their order, if every operator behind its
    operand is applied in time. -/
theorem inorder_of_moves {tokens : List Token} {c : Parser.Context L} {x tree : Tree}
    (h : Parser.Cursor.Moves L tokens (.read c x))
    (hsettled : c.settle (fun _ => true) x = (.top, tree))
    (hchain : tokens.IsChain (Token.Released L)) :
    tree.inorder.map Token.bare = Token.written tokens :=
  ((h.reads hchain).settle hsettled (fun _ _ _ => rfl)).2

end Tree

/-! ## Languages in which these operators come first -/

namespace BuiltIn

/-- No built-in operator stands behind its operand. -/
theorem not_find?_after (name : String) : operatorTable.find? .after name = none := by
  let P := fun operator : Operator => operator.rule.fixity ≠ .after
  have hnone : ∀ entry ∈ operatorTable.part .after, P entry.2 :=
    OperatorTable.forall_extend P (OperatorTable.forall_empty P) (by decide) .after
  cases hfound : operatorTable.find? .after name with
  | none => rfl
  | some operator =>
    exact absurd (OperatorTable.fixity_of_find? hfound) (hnone _ (Dictionary.mem_of_find? hfound))

theorem postfixFirst (settings : Settings) (functions : FunctionTable) :
    (Language.mk settings operatorTable functions).PostfixFirst := by
  intro name waiting hfound
  rw [not_find?_after] at hfound
  cases hfound

/-- An operator behind its operand with the usual rule, or one of another place that binds less
    tightly. -/
def Modest (settings : Settings) (operator : Operator) : Prop :=
  operator.rule = .after ∨
    operator.rule.fixity ≠ .after ∧ operator.rule.precedenceIn settings < Precedence.trailing

variable {settings : Settings}

theorem modest_operators (hpower : settings.powerPrecedence < Precedence.trailing) :
    ∀ entry ∈ operators, Modest settings entry.2 := by
  have hless : Precedence.multiplicative < Precedence.trailing ∧
      Precedence.additive < Precedence.trailing ∧ Precedence.comparison < Precedence.trailing ∧
      Precedence.conjunction < Precedence.trailing ∧ Precedence.disjunction < Precedence.trailing ∧
      Precedence.unary < Precedence.trailing := by
    decide
  simp [operators, Modest, OperatorRule.precedenceIn, OperatorRule.between, OperatorRule.before,
    OperatorRule.rightAssociative, OperatorRule.onTrees, OperatorRule.adjustedBy, hpower, hless]

/-- Operators behind their operand that the host adds with their usual rule come first, as long as
    the power operator does not bind as tightly. -/
theorem postfixFirst_extend (settings : Settings) (functions : FunctionTable)
    {added : List (String × Operator)} (hpower : settings.powerPrecedence < Precedence.trailing)
    (hadded : ∀ entry ∈ added, ∃ number, entry.2 = ⟨.after, .host number⟩) :
    (Language.mk settings (operatorTable.extend added) functions).PostfixFirst := by
  have hmodest : ∀ fixity, ∀ entry ∈ (operatorTable.extend added).part fixity,
      Modest settings entry.2 := by
    refine OperatorTable.forall_extend (Modest settings)
      (OperatorTable.forall_extend (Modest settings) (OperatorTable.forall_empty _)
        (modest_operators hpower)) ?_
    intro entry hentry
    obtain ⟨number, hoperator⟩ := hadded entry hentry
    rw [hoperator]
    exact .inl rfl
  intro name waiting hwaiting fixity other next _ hnext
  have hbehind : Modest settings waiting := hmodest .after _ (Dictionary.mem_of_find? hwaiting)
  have hother : Modest settings next := hmodest fixity _ (Dictionary.mem_of_find? hnext)
  have hprecedence : (Language.mk settings (operatorTable.extend added) functions).precedenceOf
      waiting = Precedence.trailing := by
    rcases hbehind with hrule | ⟨hfixity, _⟩
    · rw [Language.precedenceOf, hrule]
      rfl
    · exact absurd (OperatorTable.fixity_of_find? hwaiting) hfixity
  unfold Language.Outranks
  rw [hprecedence]
  rcases hother with hrule | ⟨_, hless⟩
  · right
    rw [Language.precedenceOf, hrule]
    exact ⟨rfl, rfl⟩
  · exact .inl hless

end BuiltIn

/-- The built-in operators and functions with an operator `!` behind its operand. -/
def Language.exclaiming (settings : Settings) : Language where
  settings := settings
  operators := BuiltIn.operatorTable.extend [("!", ⟨.after, .host 0⟩)]
  functions := BuiltIn.functionTable

namespace Tree

/-- The tree of a formula has the tokens of the text in their order, with a multiplication sign
    where two operands stand side by side, if every operator behind its operand outranks those that
    can follow it. The built-in operators satisfy this, and so do the usual operators that a host
    adds behind their operand while the power operator does not bind as tightly as these. -/
theorem inorder_of_parse :
    (∀ {L : Language} {text : String} {tree : Tree}, L.PostfixFirst → parse L text = .ok tree →
      ∃ tokens, Token.scan L text = .ok tokens ∧
        tree.inorder.map Token.bare = Token.written (Token.joined none tokens)) ∧
    (∀ settings functions,
      (Language.mk settings BuiltIn.operatorTable functions).PostfixFirst) ∧
    (∀ settings functions added, settings.powerPrecedence < Precedence.trailing →
      (∀ entry ∈ added, ∃ number, entry.2 = ⟨.after, .host number⟩) →
      (Language.mk settings (BuiltIn.operatorTable.extend added) functions).PostfixFirst) := by
  refine ⟨?_, BuiltIn.postfixFirst, fun settings functions added => ?_⟩
  · intro L text tree hfirst h
    obtain ⟨tokens, c, x, hscan, hmoves, hsettled⟩ := moves_of_parse h
    exact ⟨tokens, hscan, inorder_of_moves hmoves hsettled (hfirst.isChain _)⟩
  · exact BuiltIn.postfixFirst_extend settings functions

set_option maxRecDepth 4000 in
theorem inorder_of_parse_exclaiming : ∃ tree tokens,
    parse (.exclaiming .standard) "a! + 2(b*3)" = .ok tree ∧
    Token.scan (.exclaiming .standard) "a! + 2(b*3)" = .ok tokens ∧
    tree.inorder.map Token.bare = Token.written (Token.joined none tokens) := by
  have hfirst : (Language.exclaiming .standard).PostfixFirst :=
    inorder_of_parse.2.2 _ _ _ (by decide) (by simp)
  have hparse : (parse (.exclaiming .standard) "a! + 2(b*3)").toBool = true := by decide +kernel
  cases h : parse (.exclaiming .standard) "a! + 2(b*3)" with
  | error error =>
    rw [h] at hparse
    cases hparse
  | ok tree =>
    obtain ⟨tokens, hscan, hread⟩ := inorder_of_parse.1 hfirst h
    exact ⟨tree, tokens, rfl, hscan, hread⟩

end Tree
end Formula

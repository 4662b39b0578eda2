-- SUMMARY: A formula in parentheses takes the place of a name: the tree is the same but for that operand.
import Formula.Proofs.Parsing.Acceptance
import Formula.Proofs.Result
import Formula.Proofs.Tree.Replacement

/-!
# Operands in parentheses

If a name in a formula is exchanged for a formula in parentheses, then the tree changes in that
operand only. Two maps on cursors carry the proof, and both are kept by moves. `Cursor.inside` puts
an open bracket around a walk, so the walk inside the parentheses is the walk over the inner formula
alone. `Cursor.exchange` replaces the name by the inner tree, so the walk behind the closing
parenthesis is the walk behind the name.
-/

namespace Formula

namespace Token

/-- Moves the infix operator in one place to another place. -/
def moveSign (source target : Nat) (token : Token) : Token :=
  if token.kind = .infixOperator ∧ token.position = source then { token with position := target }
  else token

section MoveSign

variable {source target : Nat} {token : Token}

@[simp] theorem moveSign_kind : (moveSign source target token).kind = token.kind := by
  unfold moveSign
  split <;> rfl

@[simp] theorem moveSign_lexeme : (moveSign source target token).lexeme = token.lexeme := by
  unfold moveSign
  split <;> rfl

theorem moveSign_bind (binding : Binding) :
    moveSign source target (token.bind binding) = (moveSign source target token).bind binding := by
  unfold moveSign bind
  split <;> rfl

theorem moveSign_of_kind (h : token.kind ≠ .infixOperator) :
    moveSign source target token = token :=
  if_neg fun hboth => h hboth.1

theorem moveSign_of_position (h : token.position ≠ source) :
    moveSign source target token = token :=
  if_neg fun hboth => h hboth.2

end MoveSign

theorem same_self (token : Token) : token.same token = true := by
  simp [same]

theorem kind_of_same {a b : Token} (h : a.same b = true) : b.kind = a.kind := by
  simp only [same, Bool.and_eq_true, beq_iff_eq] at h
  exact h.1.2.symm

theorem not_same_of_kind {a b : Token} (h : b.kind ≠ a.kind) : a.same b = false :=
  Bool.eq_false_iff.mpr fun hsame => h (kind_of_same hsame)

theorem not_same_of_position {a b : Token} (h : b.position ≠ a.position) : a.same b = false := by
  rw [Bool.eq_false_iff]
  intro hsame
  simp only [same, Bool.and_eq_true, beq_iff_eq] at hsame
  exact h hsame.1.1.symm

end Token

namespace Parser

open Cursor (due called read fielded)

variable {L : Language}

namespace Cursor

/-! ## Maps that moves keep -/

/-- A move is what its token causes. -/
theorem Move.take_eq {t : Token} {cursor next : Cursor L} (h : Move L t cursor next) :
    cursor.take t = some next := by
  cases h with
  | leaf kind => rcases kind with kind | kind | kind <;> simp [take, kind]
  | function kind => simp [take, kind]
  | openGroup kind => simp [take, kind]
  | openCall callee kind => simp [take, kind]
  | before sign => simp [take, sign.kind_eq, Fixity.tokenKind]
  | between sign settled => simp [take, sign.kind_eq, Fixity.tokenKind, settled]
  | after sign settled => simp [take, sign.kind_eq, Fixity.tokenKind, settled]
  | openIndex kind settled => simp [take, kind, settled]
  | separator kind settled => simp [take, kind, settled]
  | field kind => simp [take, kind]
  | comma kind settled => simp [take, kind, settled, nextArgument]
  | closeGroup kind settled => simp [take, kind, settled, closeParen]
  | closeCall kind settled accepted => simp [take, kind, settled, closeParen, accepted]
  | closeEmpty kind accepted => simp [take, kind, Cursor.closeEmpty, accepted]
  | closeIndex kind settled => simp [take, kind, settled, closeBracket]

/-- A map of cursors is kept by the moves over the tokens that satisfy a condition. -/
def Kept (P : Token → Prop) (f : Cursor L → Cursor L) : Prop :=
  ∀ previous t cursor next, P t → cursor.Agrees previous → Move L t cursor next →
    Move L t (f cursor) (f next)

theorem step_map {P : Token → Prop} {f : Cursor L → Cursor L} (hf : Kept P f)
    {previous : Option TokenKind} {t : Token} {cursor next : Cursor L} (ht : P t)
    (hstar : P (Token.star t)) (hagrees : cursor.Agrees previous)
    (h : cursor.step previous t = some next) : (f cursor).step previous t = some (f next) := by
  unfold step
  rcases step_cases h with ⟨hadjacent, htake⟩ | ⟨hadjacent, hjoin, between, hbetween, htake⟩
  · rw [if_neg (by simp [hadjacent])]
    exact (hf _ _ _ _ ht hagrees (move_of_take htake)).take_eq
  · rw [if_pos hadjacent, if_pos hjoin]
    have hfirst := hf _ _ _ _ hstar hagrees (move_of_take hbetween)
    have hsecond := hf _ _ _ _ ht (take_agrees hbetween) (move_of_take htake)
    exact Option.bind_eq_some_iff.mpr ⟨_, hfirst.take_eq, hsecond.take_eq⟩

/-- A walk over such tokens keeps the map. -/
theorem run_map {P : Token → Prop} {f : Cursor L → Cursor L} (hf : Kept P f)
    {previous : Option TokenKind} {ts : List Token} {cursor last : Cursor L}
    (hts : ∀ t ∈ ts, P t ∧ P (Token.star t)) (hagrees : cursor.Agrees previous)
    (h : run previous cursor ts = some last) : run previous (f cursor) ts = some (f last) := by
  induction ts generalizing previous cursor with
  | nil =>
    cases h
    rfl
  | cons t ts ih =>
    obtain ⟨⟨ht, hstar⟩, hts⟩ := List.forall_mem_cons.mp hts
    obtain ⟨next, hstep, h⟩ := step_of_run h
    simp only [run, step_map hf ht hstar hagrees hstep]
    exact ih hts (step_agrees hstep) h

/-- What a walk makes of the token before it is whether and how the first token is joined to it. -/
theorem run_congr {p q : Option TokenKind}
    (hadjacent : ∀ t, Token.isAdjacent p t = Token.isAdjacent q t)
    (hjoin : ∀ t, Token.isAdjacent q t = true → L.mayJoin p t = L.mayJoin q t)
    (cursor : Cursor L) (ts : List Token) : run p cursor ts = run q cursor ts := by
  cases ts with
  | nil => rfl
  | cons t ts =>
    have hstep : cursor.step p t = cursor.step q t := by
      unfold step
      rw [hadjacent]
      split
      · rw [hjoin t ‹_›]
      · rfl
    simp only [run, hstep]

end Cursor

/-! ## A bracket around a walk -/

namespace Context

/-- The context inside of another one. -/
def inside : Context L → Context L → Context L
  | top, base => base
  | before sign outer, base => before sign (outer.inside base)
  | after sign outer, base => after sign (outer.inside base)
  | between left sign outer, base => between left sign (outer.inside base)
  | group paren outer, base => group paren (outer.inside base)
  | call callee arguments outer, base => call callee arguments (outer.inside base)
  | index array bracket outer, base => index array bracket (outer.inside base)

/-- The operators around a bracket wait for the operand that it holds. -/
theorem settle_inside {base : Context L} (hbase : base.isFrame = true) {now : Operator → Bool}
    {c d : Context L} {x y : Tree} (h : c.settle now x = (d, y)) :
    (c.inside base).settle now x = (d.inside base, y) := by
  induction c generalizing x with
  | before _ _ ih | after _ _ ih | between _ _ _ ih =>
    simp only [inside, settle] at h ⊢
    split at h
    · rw [if_pos ‹_›, ih h]
    · rw [if_neg ‹_›]
      cases h
      rfl
  | top =>
    cases h
    cases base with
    | before | after | between => cases hbase
    | top | group | call | index => rfl
  | group | call | index =>
    cases h
    rfl

end Context

namespace Cursor

/-- The cursor with a context around it. -/
def inside (base : Context L) : Cursor L → Cursor L
  | due c => due (c.inside base)
  | called call c => called call (c.inside base)
  | read c x => read (c.inside base) x
  | fielded separator c x => fielded separator (c.inside base) x

/-- What happens inside a bracket does not depend on what is around it. -/
theorem inside_kept {base : Context L} (hbase : base.isFrame = true) :
    Kept (fun _ => True) (inside base) := by
  intro previous t cursor next _ _ h
  have hsettle := @Context.settle_inside L base hbase
  cases h with
  | leaf kind => exact .leaf kind
  | function kind => exact .function kind
  | openGroup kind => exact .openGroup kind
  | openCall callee kind => exact .openCall callee kind
  | before sign => exact .before sign
  | between sign settled => exact .between sign (hsettle settled)
  | after sign settled => exact .after sign (hsettle settled)
  | openIndex kind settled => exact .openIndex kind (hsettle settled)
  | separator kind settled => exact .separator kind (hsettle settled)
  | field kind => exact .field kind
  | comma kind settled => exact .comma kind (hsettle settled)
  | closeGroup kind settled => exact .closeGroup kind (hsettle settled)
  | closeCall kind settled accepted => exact .closeCall kind (hsettle settled) accepted
  | closeEmpty kind accepted => exact .closeEmpty kind accepted
  | closeIndex kind settled => exact .closeIndex kind (hsettle settled)

/-- A formula in parentheses is walked over as it is alone. -/
theorem run_group {opening closing : Token} (hopening : opening.kind = .parenOpen)
    (hclosing : closing.kind = .parenClose) {inner : List Token} {tree : Tree}
    (h : Tree.build? L inner = some tree) (c : Context L) (behind : List Token) :
    run (some opening.kind) (due (.group opening c)) (inner ++ closing :: behind) =
      run (some .parenClose) (read c tree) behind := by
  obtain ⟨last, hrun, hfinish⟩ := Option.bind_eq_some_iff.mp h
  have hinside := run_map (@inside_kept L (.group opening c) rfl)
    (fun _ _ => ⟨trivial, trivial⟩) agrees_start hrun
  have hstart : run (some opening.kind) (due (.group opening c)) inner =
      some (inside (.group opening c) last) := by
    rw [← hinside]
    apply run_congr
    · intro t
      simp [Token.isAdjacent, hopening, TokenKind.endsValue]
    · intro t hadjacent
      cases hadjacent
  obtain ⟨d, x, rfl, hsettled⟩ := settled_of_finish hfinish
  have hsettled : (d.inside (.group opening c)).settle (fun _ => true) x =
      (.group opening c, tree) := Context.settle_inside rfl hsettled
  have hclose := (Move.closeGroup hclosing hsettled).take_eq
  rw [run_behind hstart hclosing rfl hclose, hclosing]

end Cursor

/-! ## The exchange of an operand -/

/-- A name is exchanged for an operand. The multiplication sign that is understood before the name
    is then understood before what begins the operand. -/
structure Exchange where
  name : Token
  kind_eq : name.kind = .name
  position : Nat
  operand : Tree

namespace Exchange

variable (e : Exchange)

def token (token : Token) : Token := token.moveSign e.name.position e.position

def tree (tree : Tree) : Tree := .replace e.name.same e.operand (tree.mapTokens e.token)

/-- The exchange acts below every node but a name and a field. -/
theorem tree_node {token : Token} (hname : token.kind ≠ .name) (hfield : token.kind ≠ .separator)
    (children : List Tree) :
    e.tree (.node token children) = .node (e.token token) (children.map e.tree) := by
  have hsame : e.name.same (e.token token) = false :=
    Token.not_same_of_kind (by rw [e.kind_eq, Exchange.token, Token.moveSign_kind]; exact hname)
  rw [tree, Tree.mapTokens_node, Tree.replace_node hsame, List.map_map]
  · rfl
  · rw [Exchange.token, Token.moveSign_kind]
    exact hfield

theorem tree_leaf_self : e.tree (Tree.leaf e.name) = e.operand := by
  rw [tree, Tree.leaf, Tree.mapTokens_node, Exchange.token,
    Token.moveSign_of_kind (by rw [e.kind_eq]; decide), Tree.replace_chosen (Token.same_self _)]

/-- The exchange leaves the operands in other places alone. -/
theorem tree_leaf {token : Token} (hsign : token.kind ≠ .infixOperator)
    (hfield : token.kind ≠ .separator) (hposition : token.position ≠ e.name.position) :
    e.tree (Tree.leaf token) = Tree.leaf token := by
  rw [tree, Tree.leaf, Tree.mapTokens_node, Exchange.token, Token.moveSign_of_kind hsign,
    Tree.replace_node (Token.not_same_of_position hposition) hfield]
  rfl

/-- The name of a field is no operand. -/
theorem tree_field {separator field : Token} (hkind : separator.kind = .separator)
    (hfield : field.kind = .name) (base : Tree) :
    e.tree (.node separator [base, Tree.leaf field]) =
      .node separator [e.tree base, Tree.leaf field] := by
  have hsame : e.name.same separator = false :=
    Token.not_same_of_kind (by rw [e.kind_eq, hkind]; decide)
  rw [tree, Tree.mapTokens_node, Exchange.token,
    Token.moveSign_of_kind (by rw [hkind]; decide), List.map_cons,
    Tree.replace_field hsame hkind, List.map_singleton, Tree.leaf, Tree.mapTokens_node,
    Exchange.token, Token.moveSign_of_kind (by rw [hfield]; decide)]
  rfl

/-- The sign in its new place. -/
def sign {fixity : Fixity} (sign : Sign L fixity) : Sign L fixity where
  token := e.token sign.token
  operator := sign.operator
  kind_eq := by rw [Exchange.token, Token.moveSign_kind, sign.kind_eq]
  found := by rw [Exchange.token, Token.moveSign_lexeme, sign.found]

theorem tree_bound {fixity : Fixity} (sign : Sign L fixity) (children : List Tree) :
    e.tree (.node sign.bound children) = .node (e.sign sign).bound (children.map e.tree) := by
  rw [tree_node e]
  · rw [Sign.bound, Exchange.token, Token.moveSign_bind]
    rfl
  · cases fixity <;> simp [Fixity.tokenKind]
  · cases fixity <;> simp [Fixity.tokenKind]

theorem tree_call (callee : Callee L) (arguments : List Tree) :
    e.tree (.node callee.bound arguments) = .node callee.bound (arguments.map e.tree) := by
  rw [tree_node e (by simp) (by simp), Exchange.token, Token.moveSign_of_kind (by simp)]

theorem tree_index (bracket : Token) (children : List Tree) :
    e.tree (.node (indexToken bracket) children) =
      .node (indexToken bracket) (children.map e.tree) := by
  rw [tree_node e (by simp [indexToken]) (by simp [indexToken]), Exchange.token,
    Token.moveSign_of_kind (by simp [indexToken])]

/-- A sign that stands elsewhere keeps its place. -/
theorem sign_eq {fixity : Fixity} {sign : Sign L fixity}
    (h : e.token sign.token = sign.token) : e.sign sign = sign :=
  Sign.eq_of_token h

end Exchange

namespace Context

/-- The context after an exchange. -/
def exchange (e : Exchange) : Context L → Context L
  | top => top
  | before sign outer => before (e.sign sign) (outer.exchange e)
  | after sign outer => after (e.sign sign) (outer.exchange e)
  | between left sign outer => between (e.tree left) (e.sign sign) (outer.exchange e)
  | group paren outer => group paren (outer.exchange e)
  | call callee arguments outer => call callee (arguments.map e.tree) (outer.exchange e)
  | index array bracket outer => index (e.tree array) bracket (outer.exchange e)

/-- Operators are applied to the exchanged operand as to the one before. -/
theorem settle_exchange (e : Exchange) {now : Operator → Bool} {c d : Context L} {x y : Tree}
    (h : c.settle now x = (d, y)) :
    (c.exchange e).settle now (e.tree x) = (d.exchange e, e.tree y) := by
  induction c generalizing x with
  | before _ _ ih | after _ _ ih | between _ _ _ ih =>
    simp only [exchange, settle, Exchange.sign] at h ⊢
    split at h
    · rw [if_pos ‹_›, ← ih h, e.tree_bound]
      rfl
    · rw [if_neg ‹_›]
      cases h
      rfl
  | top | group | call | index =>
    cases h
    rfl

end Context

namespace Cursor

/-- The cursor after an exchange. -/
def exchange (e : Exchange) : Cursor L → Cursor L
  | due c => due (c.exchange e)
  | called call c => called call (c.exchange e)
  | read c x => read (c.exchange e) (e.tree x)
  | fielded separator c x => fielded separator (c.exchange e) (e.tree x)

/-- A sign is taken in its new place. -/
theorem Move.exchange_sign (e : Exchange) {sign : Sign L .between} {c d : Context L} {x y : Tree}
    (settled : c.settle sign.releases x = (d, y)) :
    Move L (e.token sign.token) (exchange e (read c x))
      (due (.between (e.tree y) (e.sign sign) (d.exchange e))) :=
  .between (e.sign sign) (c.settle_exchange e settled)

/-- Tokens in other places cause the same moves after the exchange. -/
theorem exchange_kept (e : Exchange) :
    Kept (L := L) (fun t => t.position ≠ e.name.position) (exchange e) := by
  intro previous t cursor next hposition hagrees h
  have htoken : e.token t = t := Token.moveSign_of_position hposition
  cases h with
  | leaf kind =>
    have hleaf : e.tree (Tree.leaf t) = Tree.leaf t := by
      rcases kind with kind | kind | kind <;>
        exact e.tree_leaf (by simp [kind]) (by simp [kind]) hposition
    simp only [exchange, hleaf]
    exact .leaf kind
  | function kind => exact .function kind
  | openGroup kind => exact .openGroup kind
  | openCall callee kind => exact .openCall callee kind
  | before sign =>
    simp only [exchange, Context.exchange, e.sign_eq htoken]
    exact .before sign
  | between sign settled =>
    have hmove := Move.exchange_sign e settled
    rwa [htoken] at hmove
  | after sign settled =>
    simp only [exchange, Context.exchange, e.sign_eq htoken]
    exact .after sign (Context.settle_exchange e settled)
  | openIndex kind settled => exact .openIndex kind (Context.settle_exchange e settled)
  | separator kind settled => exact .separator kind (Context.settle_exchange e settled)
  | field kind =>
    simp only [exchange, e.tree_field hagrees.2 kind]
    exact .field kind
  | comma kind settled =>
    simp only [exchange, Context.exchange, List.map_append, List.map_singleton]
    exact .comma kind (Context.settle_exchange e settled)
  | closeGroup kind settled => exact .closeGroup kind (Context.settle_exchange e settled)
  | closeCall kind settled accepted =>
    simp only [exchange, e.tree_call, List.map_append, List.map_singleton]
    refine .closeCall kind (Context.settle_exchange e settled) ?_
    rwa [List.length_map]
  | closeEmpty kind accepted =>
    simp only [exchange, e.tree_call]
    exact .closeEmpty kind accepted
  | closeIndex kind settled =>
    simp only [exchange, e.tree_index]
    exact .closeIndex kind (Context.settle_exchange e settled)

/-- Where the name is read, the parenthesis opens instead. -/
theorem step_opening {e : Exchange} {previous : Option TokenKind} {opening : Token}
    {cursor next : Cursor L} (hopening : opening.kind = .parenOpen)
    (hposition : opening.position = e.position) (hagrees : cursor.Agrees previous)
    (hbefore : previous ≠ some .separator) (hfixed : cursor.exchange e = cursor)
    (h : cursor.step previous e.name = some next) :
    ∃ d, next = read d (Tree.leaf e.name) ∧
      cursor.step previous opening = some (due (.group opening (d.exchange e))) := by
  have hadjacent : Token.isAdjacent previous opening = Token.isAdjacent previous e.name := by
    cases previous <;> simp [Token.isAdjacent, hopening, e.kind_eq, TokenKind.startsValue]
  have hjoin : L.mayJoin previous opening = L.mayJoin previous e.name := by
    rw [Language.mayJoin, Language.mayJoin, hopening, e.kind_eq]
    rfl
  have htake : ∀ d : Context L, (due d).take opening = some (due (.group opening d)) :=
    fun d => (Move.openGroup hopening).take_eq
  have hleaf : ∀ d : Context L, (due d).take e.name = some (read d (Tree.leaf e.name)) :=
    fun d => (Move.leaf (.inr (.inr e.kind_eq))).take_eq
  unfold step
  rw [hadjacent, hjoin]
  rcases step_cases h with ⟨hapart, hname⟩ | ⟨hbeside, hmay, between, hstar, hname⟩
  · rw [if_neg (by simp [hapart])]
    cases cursor with
    | due c =>
      have hcontext : c.exchange e = c := due.inj hfixed
      exact ⟨c, Option.some.inj (hname.symm.trans (hleaf c)), by rw [htake, hcontext]⟩
    | called call c => simp [take, e.kind_eq] at hname
    | read c x => simp [take, e.kind_eq] at hname
    | fielded separator c x => exact absurd hagrees.1 hbefore
  · rw [if_pos hbeside, if_pos hmay]
    obtain ⟨c, x, rfl⟩ := read_of_adjacent hagrees hbeside
    obtain ⟨sign, hsign, rfl⟩ := Option.map_eq_some_iff.mp hstar
    have hmoved : e.token sign.token = Token.star opening := by
      rw [Sign.token_of? hsign, Exchange.token, Token.moveSign, if_pos ⟨rfl, rfl⟩, ← hposition]
      rfl
    have hstar := (@Move.exchange_sign L e sign c _ x _ rfl).take_eq
    rw [hmoved, hfixed] at hstar
    refine ⟨_, Option.some.inj (hname.symm.trans (hleaf _)), ?_⟩
    rw [hstar, Option.bind_some, htake]
    rfl

/-- Behind the closing parenthesis the walk is that behind the name. -/
theorem run_exchange {e : Exchange} {opening closing : Token} {before inner behind : List Token}
    {last : Cursor L} (hopening : opening.kind = .parenOpen)
    (hposition : opening.position = e.position) (hclosing : closing.kind = .parenClose)
    (hbefore : ∀ t ∈ before, t.position ≠ e.name.position)
    (hbehind : ∀ t ∈ behind, t.position ≠ e.name.position)
    (hfield : Token.kindAfter none before ≠ some .separator)
    (hinner : Tree.build? L inner = some e.operand)
    (h : run none start (before ++ e.name :: behind) = some last) :
    run none start (before ++ opening :: (inner ++ closing :: behind)) =
      some (last.exchange e) := by
  rw [run_append] at h
  obtain ⟨cursor, hrun, hrest⟩ := Option.bind_eq_some_iff.mp h
  obtain ⟨next, hstep, hrest⟩ := step_of_run hrest
  -- Up to the name the two walks are the same, so nothing is exchanged there.
  have hfixed : cursor.exchange e = cursor := by
    have hmapped := run_map (exchange_kept e) (fun t ht => ⟨hbefore t ht, hbefore t ht⟩)
      agrees_start hrun
    exact Option.some.inj (hmapped.symm.trans hrun)
  obtain ⟨d, rfl, hopen⟩ := step_opening hopening hposition (run_agrees agrees_start hrun)
    hfield hfixed hstep
  have hmapped := run_map (exchange_kept e) (fun t ht => ⟨hbehind t ht, hbehind t ht⟩)
    (step_agrees hstep) hrest
  have hsame : (read d (Tree.leaf e.name)).exchange e = read (d.exchange e) e.operand := by
    rw [exchange, e.tree_leaf_self]
  rw [run_append, hrun, Option.bind_some, run, hopen]
  simp only [run_group hopening hclosing hinner, ← hmapped, hsame, e.kind_eq]
  apply run_congr
  · intro t
    rfl
  · intro t _
    rfl

theorem finish_exchange {e : Exchange} {cursor : Cursor L} {tree : Tree}
    (h : cursor.finish = some tree) : (cursor.exchange e).finish = some (e.tree tree) := by
  obtain ⟨c, x, rfl, hsettled⟩ := settled_of_finish h
  simp only [exchange, finish, Context.settle_exchange e hsettled, Context.exchange]

end Cursor

/-! ## Occurrences -/

section Occurrences

variable {chosen : Token → Bool}

theorem occurrences_inner (hnames : ∀ t, chosen t = true → t.kind = .name) {token : Token}
    (hname : token.kind ≠ .name) (hfield : token.kind ≠ .separator) (children : List Tree) :
    Tree.occurrences chosen (.node token children) = Tree.occurrencesAll chosen children :=
  Tree.occurrences_node (Bool.eq_false_iff.mpr fun h => hname (hnames _ h)) hfield _

theorem occurrences_bound (hnames : ∀ t, chosen t = true → t.kind = .name) {fixity : Fixity}
    (sign : Sign L fixity) (children : List Tree) :
    Tree.occurrences chosen (.node sign.bound children) = Tree.occurrencesAll chosen children := by
  apply occurrences_inner hnames
  all_goals
    rw [sign.bound_kind]
    cases fixity <;> decide

theorem occurrences_call (hnames : ∀ t, chosen t = true → t.kind = .name) (callee : Callee L)
    (arguments : List Tree) :
    Tree.occurrences chosen (.node callee.bound arguments) =
      Tree.occurrencesAll chosen arguments := by
  apply occurrences_inner hnames
  all_goals
    rw [callee.bound_kind]
    decide

namespace Context

/-- How many operands that are read so far have a chosen token. -/
def occurrences (chosen : Token → Bool) : Context L → Nat
  | top => 0
  | before _ outer | after _ outer | group _ outer => outer.occurrences chosen
  | between left _ outer => left.occurrences chosen + outer.occurrences chosen
  | call _ arguments outer => Tree.occurrencesAll chosen arguments + outer.occurrences chosen
  | index array _ outer => array.occurrences chosen + outer.occurrences chosen

theorem settle_occurrences (hnames : ∀ t, chosen t = true → t.kind = .name)
    {now : Operator → Bool} {c d : Context L} {x y : Tree} (h : c.settle now x = (d, y)) :
    y.occurrences chosen + d.occurrences chosen = x.occurrences chosen + c.occurrences chosen := by
  refine settle_keeps (I := fun d y => y.occurrences chosen + d.occurrences chosen =
    x.occurrences chosen + c.occurrences chosen) h rfl ?_ ?_ ?_
  all_goals
    intros
    simp_all only [occurrences, occurrences_bound hnames, Tree.occurrencesAll]
    omega

end Context

namespace Cursor

def occurrences (chosen : Token → Bool) : Cursor L → Nat
  | due c | called _ c => c.occurrences chosen
  | read c x | fielded _ c x => x.occurrences chosen + c.occurrences chosen

/-- A chosen name is one more operand unless it names a field. -/
theorem Move.occurrences_eq (hnames : ∀ t, chosen t = true → t.kind = .name)
    {previous : Option TokenKind} {t : Token} {cursor next : Cursor L}
    (hagrees : cursor.Agrees previous) (hfield : previous = some .separator → chosen t = false)
    (h : Move L t cursor next) :
    next.occurrences chosen = cursor.occurrences chosen + (chosen t).toNat := by
  have hsettle : ∀ {now : Operator → Bool} {c d : Context L} {x y : Tree},
      c.settle now x = (d, y) → y.occurrences chosen + d.occurrences chosen =
        x.occurrences chosen + c.occurrences chosen + 0 :=
    Context.settle_occurrences hnames
  have hnone : t.kind ≠ .name → (chosen t).toNat = 0 := by
    intro hkind
    rw [Bool.eq_false_iff.mpr fun h => hkind (hnames t h), Bool.toNat_false]
  cases h with
  | leaf kind =>
    simp only [occurrences, Tree.occurrences_leaf]
    omega
  | function kind | openGroup kind =>
    rw [hnone (by simp [kind])]
    rfl
  | openCall callee kind =>
    rw [hnone (by simp [kind])]
    simp [occurrences, Context.occurrences, Tree.occurrencesAll]
  | before sign =>
    rw [hnone (by simp [sign.kind_eq, Fixity.tokenKind])]
    rfl
  | between sign settled =>
    rw [hnone (by simp [sign.kind_eq, Fixity.tokenKind])]
    exact hsettle settled
  | after sign settled =>
    have hcount := hsettle settled
    rw [hnone (by simp [sign.kind_eq, Fixity.tokenKind])]
    simpa only [occurrences, Context.occurrences] using hcount
  | openIndex kind settled | separator kind settled =>
    rw [hnone (by simp [kind])]
    exact hsettle settled
  | field kind =>
    have hseparator : chosen _ = false := Bool.eq_false_iff.mpr fun h => by
      have hkind := hnames _ h
      rw [hagrees.2] at hkind
      cases hkind
    simp only [occurrences, Tree.occurrences_field hseparator hagrees.2, hfield hagrees.1,
      Bool.toNat_false, Nat.add_zero]
  | comma kind settled =>
    have hcount := hsettle settled
    rw [hnone (by simp [kind])]
    simp only [occurrences, Context.occurrences, Tree.occurrencesAll_append, Tree.occurrencesAll]
      at hcount ⊢
    omega
  | closeGroup kind settled =>
    have hcount := hsettle settled
    rw [hnone (by simp [kind])]
    simpa only [occurrences, Context.occurrences] using hcount
  | closeCall kind settled accepted =>
    have hcount := hsettle settled
    rw [hnone (by simp [kind])]
    simp only [occurrences, Context.occurrences, occurrences_call hnames,
      Tree.occurrencesAll_append, Tree.occurrencesAll] at hcount ⊢
    omega
  | closeEmpty kind accepted =>
    rw [hnone (by simp [kind])]
    simp only [occurrences, Context.occurrences, occurrences_call hnames, Nat.add_zero]
  | closeIndex kind settled =>
    have hcount := hsettle settled
    rw [hnone (by simp [kind]), occurrences, occurrences_inner hnames (by simp [indexToken])
      (by simp [indexToken])]
    simp only [occurrences, Context.occurrences, Tree.occurrencesAll] at hcount ⊢
    omega

theorem step_occurrences (hnames : ∀ t, chosen t = true → t.kind = .name)
    {previous : Option TokenKind} {t : Token} {cursor next : Cursor L}
    (hagrees : cursor.Agrees previous) (hfield : previous = some .separator → chosen t = false)
    (h : cursor.step previous t = some next) :
    next.occurrences chosen = cursor.occurrences chosen + (chosen t).toNat := by
  have hstar : chosen (Token.star t) = false := Bool.eq_false_iff.mpr fun h => by
    cases hnames _ h
  rcases step_cases h with ⟨_, htake⟩ | ⟨_, _, between, hbetween, htake⟩
  · exact (move_of_take htake).occurrences_eq hnames hagrees hfield
  · have hfirst := (move_of_take hbetween).occurrences_eq hnames hagrees fun _ => hstar
    have hsecond := (move_of_take htake).occurrences_eq hnames (take_agrees hbetween) (by
      intro hseparator
      cases hseparator)
    rw [hsecond, hfirst, hstar, Bool.toNat_false, Nat.add_zero]

theorem run_occurrences (hnames : ∀ t, chosen t = true → t.kind = .name)
    {previous : Option TokenKind} {ts : List Token} {cursor last : Cursor L}
    (hts : ∀ t ∈ ts, chosen t = false) (hagrees : cursor.Agrees previous)
    (h : run previous cursor ts = some last) :
    last.occurrences chosen = cursor.occurrences chosen := by
  induction ts generalizing previous cursor with
  | nil =>
    cases h
    rfl
  | cons t ts ih =>
    obtain ⟨ht, hts⟩ := List.forall_mem_cons.mp hts
    obtain ⟨next, hstep, h⟩ := step_of_run h
    rw [ih hts (step_agrees hstep) h, step_occurrences hnames hagrees (fun _ => ht) hstep, ht,
      Bool.toNat_false, Nat.add_zero]

theorem finish_occurrences (hnames : ∀ t, chosen t = true → t.kind = .name)
    {cursor : Cursor L} {tree : Tree} (h : cursor.finish = some tree) :
    tree.occurrences chosen = cursor.occurrences chosen := by
  obtain ⟨c, x, rfl, hsettled⟩ := settled_of_finish h
  exact Context.settle_occurrences hnames hsettled

end Cursor
end Occurrences
end Parser

namespace Tree

open Formula.Parser (Cursor Exchange)

variable {L : Language}

/-- A name that is no field is one operand of the tree. -/
theorem occurrences_of_build? {before behind : List Token} {name : Token} {tree : Tree}
    (hname : name.kind = .name) (hfield : Token.kindAfter none before ≠ some .separator)
    (hbefore : ∀ t ∈ before, t.position ≠ name.position)
    (hbehind : ∀ t ∈ behind, t.position ≠ name.position)
    (h : build? L (before ++ name :: behind) = some tree) : tree.occurrences name.same = 1 := by
  have hnames : ∀ t, name.same t = true → t.kind = .name :=
    fun t hsame => (Token.kind_of_same hsame).trans hname
  have hothers : ∀ {ts : List Token}, (∀ t ∈ ts, t.position ≠ name.position) →
      ∀ t ∈ ts, name.same t = false :=
    fun hts t ht => Token.not_same_of_position (hts t ht)
  obtain ⟨last, hrun, hfinish⟩ := Option.bind_eq_some_iff.mp h
  rw [Cursor.run_append] at hrun
  obtain ⟨cursor, hfirst, hrest⟩ := Option.bind_eq_some_iff.mp hrun
  obtain ⟨next, hstep, hrest⟩ := Cursor.step_of_run hrest
  have hagrees := Cursor.run_agrees Cursor.agrees_start hfirst
  calc tree.occurrences name.same
      = last.occurrences name.same := Cursor.finish_occurrences hnames hfinish
    _ = next.occurrences name.same :=
      Cursor.run_occurrences hnames (hothers hbehind) (Cursor.step_agrees hstep) hrest
    _ = cursor.occurrences name.same + (name.same name).toNat :=
      Cursor.step_occurrences hnames hagrees (fun h => absurd h hfield) hstep
    _ = 0 + 1 := by
      rw [Cursor.run_occurrences hnames (hothers hbefore) Cursor.agrees_start hfirst,
        Token.same_self]
      rfl

/-- A formula in parentheses takes the place of a name. The tree is that of the formula with the
    name, with the tree of the inner formula in the place of the one operand that is the name. A
    multiplication sign that is understood before the name is now understood before the
    parenthesis. -/
theorem ofTokens_group {text innerText : String} {before behind inner : List Token}
    {name opening closing : Token} {tree operand : Tree}
    (hscan : Token.scan L text = .ok (before ++ name :: behind)) (hname : name.kind = .name)
    (hfield : before.getLast?.map (·.kind) ≠ some .separator)
    (htree : ofTokens L (before ++ name :: behind) = .ok tree)
    (hinnerScan : Token.scan L innerText = .ok inner) (hoperand : ofTokens L inner = .ok operand)
    (hopening : opening.kind = .parenOpen) (hclosing : closing.kind = .parenClose)
    (hdepth : (replace name.same operand
      (tree.mapTokens (Token.moveSign name.position opening.position))).depth ≤
        L.settings.maxNesting) :
    ofTokens L (before ++ opening :: (inner ++ closing :: behind)) =
      .ok (replace name.same operand
        (tree.mapTokens (Token.moveSign name.position opening.position))) ∧
    tree.occurrences name.same = 1 := by
  have hfield : Token.kindAfter none before ≠ some .separator := by
    rwa [Token.kindAfter_eq, Option.or_none]
  obtain ⟨-, hlater, hearlier⟩ := List.pairwise_append.mp (Token.scan_positions hscan)
  have hbefore : ∀ t ∈ before, t.position ≠ name.position :=
    fun t ht => Nat.ne_of_lt (hearlier t ht name List.mem_cons_self)
  have hbehind : ∀ t ∈ behind, t.position ≠ name.position :=
    fun t ht => Nat.ne_of_gt (List.rel_of_pairwise_cons hlater ht)
  have hbuild := build?_of_ofTokens (Token.scan_stream hscan) htree
  have hinner := build?_of_ofTokens (Token.scan_stream hinnerScan) hoperand
  refine ⟨?_, occurrences_of_build? hname hfield hbefore hbehind hbuild⟩
  obtain ⟨last, hrun, hfinish⟩ := Option.bind_eq_some_iff.mp hbuild
  let e : Exchange := ⟨name, hname, opening.position, operand⟩
  have hgrouped : build? L (before ++ opening :: (inner ++ closing :: behind)) =
      some (e.tree tree) :=
    Option.bind_eq_some_iff.mpr ⟨_, Cursor.run_exchange (e := e) hopening rfl hclosing hbefore
      hbehind hfield hinner hrun, Cursor.finish_exchange hfinish⟩
  rcases ofTokens_of_build? hgrouped with hok | ⟨htoo, _⟩
  · exact hok
  · exact absurd hdepth (Nat.not_le_of_lt htoo)

/-- In `2 a ^ 3` the name is exchanged for `(b + 1)`. -/
theorem ofTokens_group_standard : ∃ before name behind inner opening closing,
    ∃ tree operand : Tree,
    Token.scan Configuration.standard.toLanguage "2 a ^ 3" = .ok (before ++ name :: behind) ∧
    name.lexeme = "a" ∧
    ofTokens Configuration.standard.toLanguage (before ++ name :: behind) = .ok tree ∧
    Token.scan Configuration.standard.toLanguage "b + 1" = .ok inner ∧
    ofTokens Configuration.standard.toLanguage inner = .ok operand ∧
    ofTokens Configuration.standard.toLanguage (before ++ opening :: (inner ++ closing :: behind)) =
      .ok (replace name.same operand
        (tree.mapTokens (Token.moveSign name.position opening.position))) ∧
    tree.occurrences name.same = 1 := by
  have hrun : ((Token.scan Configuration.standard.toLanguage "2 a ^ 3").toOption.any fun tokens =>
      (parse Configuration.standard.toLanguage "2 a ^ 3").toOption.any fun tree =>
      (Token.scan Configuration.standard.toLanguage "b + 1").toOption.any fun _ =>
      (parse Configuration.standard.toLanguage "b + 1").toOption.any fun operand =>
      (tokens.drop 1).head?.any fun name =>
        decide (name.kind = .name ∧ name.lexeme = "a" ∧
          (tokens.take 1).getLast?.map (·.kind) ≠ some .separator ∧
          (replace name.same operand (tree.mapTokens (Token.moveSign name.position 2))).depth ≤
            Configuration.standard.toLanguage.settings.maxNesting)) = true := by
    decide +kernel
  obtain ⟨tokens, hscan, hrun⟩ := ok_of_any hrun
  obtain ⟨tree, htree, hrun⟩ := ok_of_any hrun
  obtain ⟨inner, hinner, hrun⟩ := ok_of_any hrun
  obtain ⟨operand, hoperand, hrun⟩ := ok_of_any hrun
  obtain ⟨name, hhead, hrun⟩ := (Option.any_eq_true _ _).mp hrun
  obtain ⟨behind, hbehind⟩ := List.head?_eq_some_iff.mp hhead
  obtain ⟨hname, hlexeme, hfield, hdepth⟩ := of_decide_eq_true hrun
  rw [← List.take_append_drop 1 tokens, hbehind] at hscan
  rw [parse_of_scan hscan] at htree
  rw [parse_of_scan hinner] at hoperand
  exact ⟨tokens.take 1, name, behind, inner, ⟨.parenOpen, "(", 2, none⟩,
    ⟨.parenClose, ")", 8, none⟩, tree, operand, hscan, hlexeme, htree, hinner, hoperand,
    ofTokens_group hscan hname hfield htree hinner hoperand rfl rfl hdepth⟩

end Tree
end Formula

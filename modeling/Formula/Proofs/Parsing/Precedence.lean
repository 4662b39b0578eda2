-- SUMMARY: Precedence and associativity: which operators stand at the edges of an operator's operands.
import Formula.Proofs.BuiltIn.Table
import Formula.Proofs.Parsing.Reading

/-!
# Precedence

What precedences mean for the tree of a formula: an operator that ends the left operand of another
one outranks it, and one that begins the right operand does not give way to it. Operators in
brackets of their own do not count, so the statement is about operators with the same number of
open brackets before them (`Token.nesting`).

The cursor keeps what is needed for this. The tree that fills the open place begins with operators
for which the innermost waiting one waits (`Context.Accepts`), and an operator that waits between
two operands has a left operand whose last operators outrank it (`Context.Ranked`).
-/

namespace Formula

/-! ## Brackets -/

namespace Token

def isOpening (token : Token) : Bool :=
  match token.kind with
  | .parenOpen | .arrayOpen => true
  | _ => false

def isClosing (token : Token) : Bool :=
  match token.kind with
  | .parenClose | .arrayClose => true
  | _ => false

/-- The number of brackets that are open after some tokens. -/
def openBrackets (tokens : List Token) : Nat :=
  tokens.countP isOpening - tokens.countP isClosing

/-- The number of brackets that are open in front of a place. -/
def nesting (tokens : List Token) (position : Nat) : Nat :=
  openBrackets (tokens.filter (·.position < position))

/-- Tokens in front of a place can be counted with the multiplication signs or without, unless
    these are counted. -/
theorem countP_before {P : Token → Bool} (hstar : ∀ token, P (star token) = false)
    {tokens before behind : List Token} {t : Token}
    (hpositions : tokens.Pairwise fun a b => a.position < b.position)
    (hjoined : joined none tokens = before ++ t :: behind) (hkind : t.kind.startsValue = false) :
    (tokens.filter (·.position < t.position)).countP P = before.countP P := by
  have hpairs := @pairwise_joined none _ hpositions
  rw [hjoined, List.pairwise_append] at hpairs
  obtain ⟨-, hbehind, hacross⟩ := hpairs
  have hinside : ∀ token ∈ before, token.position < t.position := by
    intro token htoken
    exact (hacross token htoken t List.mem_cons_self).2 hkind
  have houtside : ∀ token ∈ t :: behind, ¬ token.position < t.position := by
    refine List.forall_mem_cons.mpr ⟨Nat.lt_irrefl _, fun token htoken => Nat.not_lt.mpr ?_⟩
    exact (List.rel_of_pairwise_cons hbehind htoken).1
  have hnone : (t :: behind).countP
      (fun token => P token && decide (token.position < t.position)) = 0 := by
    apply List.countP_eq_zero.mpr
    intro token htoken
    simp [houtside token htoken]
  rw [List.countP_filter, ← countP_joined (by simp [hstar]) none, hjoined, List.countP_append,
    hnone, Nat.add_zero]
  apply List.countP_congr
  intro token htoken
  simp [hinside token htoken]

/-- In front of an operator, the tokens and the multiplication signs leave the same brackets
    open. -/
theorem nesting_eq {tokens before behind : List Token} {t : Token}
    (hpositions : tokens.Pairwise fun a b => a.position < b.position)
    (hjoined : joined none tokens = before ++ t :: behind) (hkind : t.kind.startsValue = false) :
    nesting tokens t.position = openBrackets before := by
  unfold nesting openBrackets
  rw [countP_before (fun _ => rfl) hpositions hjoined hkind,
    countP_before (fun _ => rfl) hpositions hjoined hkind]

end Token

/-! ## Ranks -/

namespace Language

/-- Whether an operator that waits is not applied before another one is read. -/
def WaitsFor (L : Language) (waiting next : Operator) : Prop :=
  L.precedenceOf waiting < L.precedenceOf next ∨
    L.precedenceOf waiting = L.precedenceOf next ∧ next.rule.leftAssociative = false

variable {L : Language}

theorem waitsFor_of_not_outranks {waiting next : Operator} (h : ¬ L.Outranks waiting next) :
    L.WaitsFor waiting next := by
  rcases Int.lt_trichotomy (L.precedenceOf waiting) (L.precedenceOf next) with hlt | heq | hgt
  · exact .inl hlt
  · refine .inr ⟨heq, ?_⟩
    cases hassociative : next.rule.leftAssociative with
    | true => exact absurd (.inr ⟨heq, hassociative⟩) h
    | false => rfl
  · exact absurd (.inl hgt) h

theorem Outranks.trans {p q r : Operator} (hpq : L.Outranks p q) (hqr : L.Outranks q r) :
    L.Outranks p r := by
  unfold Outranks at *
  rcases hpq with hpq | ⟨hpq, _⟩ <;> rcases hqr with hqr | ⟨hqr, hassociative⟩
  · exact .inl (by omega)
  · exact .inl (by omega)
  · exact .inl (by omega)
  · exact .inr ⟨by omega, hassociative⟩

end Language

/-! ## Edges -/

namespace Tree

/-- The nodes that the text of a tree ends with, from the outside in, up to a bracket. -/
def rightEdge : Tree → List Tree
  | node token children =>
    node token children ::
      match token.kind, children with
      | .infixOperator, [_, right] => right.rightEdge
      | .prefixOperator, [operand] => operand.rightEdge
      | .postfixOperator, [operand] => operand.rightEdge
      | _, _ => []

/-- The nodes that the text of a tree begins with, from the outside in. -/
def leftEdge : Tree → List Tree
  | node token children =>
    node token children ::
      match token.kind, children with
      | .infixOperator, left :: _ => left.leftEdge
      | .postfixOperator, operand :: _ => operand.leftEdge
      | .arrayIndex, array :: _ => array.leftEdge
      | .separator, base :: _ => base.leftEdge
      | _, _ => []

theorem rightEdge_subset (tree : Tree) : tree.rightEdge ⊆ tree.preorder := by
  induction tree using induction with
  | node token children ih =>
    unfold rightEdge
    rw [preorder_node]
    apply List.cons_subset_cons _
    split
    all_goals first
      | exact fun s hs => mem_preorderAll.mpr ⟨_, by simp, ih _ (by simp) hs⟩
      | exact List.nil_subset _

theorem leftEdge_subset (tree : Tree) : tree.leftEdge ⊆ tree.preorder := by
  induction tree using induction with
  | node token children ih =>
    unfold leftEdge
    rw [preorder_node]
    apply List.cons_subset_cons _
    split
    all_goals first
      | exact fun s hs => mem_preorderAll.mpr ⟨_, by simp, ih _ (by simp) hs⟩
      | exact List.nil_subset _

variable {L : Language} {level : Nat → Nat} {count : Nat} {accepts : Operator → Prop}

/-- Every operator before an operand or between two on the right edge, of the given level, is
    accepted. -/
def RightEdge (level : Nat → Nat) (count : Nat) (accepts : Operator → Prop) (tree : Tree) :
    Prop :=
  ∀ s ∈ tree.rightEdge, s.token.kind = .infixOperator ∨ s.token.kind = .prefixOperator →
    level s.token.position = count →
    ∃ operator, s.token.operator? = some operator ∧ accepts operator

/-- Every operator between two operands on the left edge, of the given level, is accepted. -/
def LeftEdge (level : Nat → Nat) (count : Nat) (accepts : Operator → Prop) (tree : Tree) :
    Prop :=
  ∀ s ∈ tree.leftEdge, s.token.kind = .infixOperator → level s.token.position = count →
    ∃ operator, s.token.operator? = some operator ∧ accepts operator

/-- Every operator before an operand or between two is at least of the given level. -/
def Deep (level : Nat → Nat) (count : Nat) (tree : Tree) : Prop :=
  ∀ s ∈ tree.preorder, s.token.kind = .infixOperator ∨ s.token.kind = .prefixOperator →
    count ≤ level s.token.position

/-- Every operator ranks as its place in the tree demands. An operator that ends the left operand of
    another one outranks it; one that begins an operand behind another one makes it wait. -/
def Ranked (L : Language) (level : Nat → Nat) (tree : Tree) : Prop :=
  ∀ s ∈ tree.preorder,
    (s.token.kind = .infixOperator → ∃ left right operator,
      s.children = [left, right] ∧ s.token.operator? = some operator ∧
      left.RightEdge level (level s.token.position) (L.Outranks · operator) ∧
      right.LeftEdge level (level s.token.position) (L.WaitsFor operator)) ∧
    (s.token.kind = .prefixOperator → ∃ operand operator,
      s.children = [operand] ∧ s.token.operator? = some operator ∧
      operand.LeftEdge level (level s.token.position) (L.WaitsFor operator))

theorem RightEdge.of_deep {tree : Tree} (h : tree.Deep level (count + 1)) :
    tree.RightEdge level count accepts := by
  intro s hs hkind hlevel
  have := h s (rightEdge_subset tree hs) hkind
  omega

theorem LeftEdge.of_deep {tree : Tree} (h : tree.Deep level (count + 1)) :
    tree.LeftEdge level count accepts := by
  intro s hs hkind hlevel
  have := h s (leftEdge_subset tree hs) (.inl hkind)
  omega

/-- An operator comes in front of the right edge of its last operand. -/
theorem RightEdge.bound {fixity : Fixity} (sign : Sign L fixity) (before : List Tree) {last : Tree}
    (hcount : before.length + 1 = fixity.operandCount) (h : last.RightEdge level count accepts)
    (haccepts : accepts sign.operator) :
    RightEdge level count accepts (.node sign.bound (before ++ [last])) := by
  have hedge : ∀ s ∈ rightEdge (.node sign.bound (before ++ [last])),
      s = .node sign.bound (before ++ [last]) ∨ s ∈ last.rightEdge := by
    intro s hs
    unfold rightEdge at hs
    match before, fixity, hcount with
    | [], .before, _ => simpa [Fixity.tokenKind] using hs
    | [], .after, _ => simpa [Fixity.tokenKind] using hs
    | [_], .between, _ => simpa [Fixity.tokenKind] using hs
  intro s hs hkind hlevel
  rcases hedge s hs with rfl | hs
  · exact ⟨sign.operator, rfl, haccepts⟩
  · exact h s hs hkind hlevel

theorem RightEdge.imp {tree : Tree} {other : Operator → Prop}
    (h : tree.RightEdge level count accepts)
    (himp : ∀ operator, accepts operator → other operator) :
    tree.RightEdge level count other := by
  intro s hs hkind hlevel
  obtain ⟨operator, hoperator, haccepts⟩ := h s hs hkind hlevel
  exact ⟨operator, hoperator, himp operator haccepts⟩

theorem Deep.mono {tree : Tree} {fewer : Nat} (h : tree.Deep level count) (hle : fewer ≤ count) :
    tree.Deep level fewer :=
  fun s hs hkind => Nat.le_trans hle (h s hs hkind)

theorem Deep.of_children {token : Token} {children : List Tree}
    (htoken : token.kind = .infixOperator ∨ token.kind = .prefixOperator →
      count ≤ level token.position)
    (hchildren : ∀ child ∈ children, child.Deep level count) :
    Deep level count (.node token children) := by
  intro s hs
  rcases mem_preorder_node.mp hs with rfl | ⟨child, hchild, hs⟩
  · exact htoken
  · exact hchildren child hchild s hs

/-- A node that is neither an operator before an operand nor one between two ranks if its children
    do. -/
theorem Ranked.of_children {token : Token} {children : List Tree}
    (hbetween : token.kind ≠ .infixOperator) (hbefore : token.kind ≠ .prefixOperator)
    (hchildren : ∀ child ∈ children, child.Ranked L level) :
    Ranked L level (.node token children) := by
  intro s hs
  rcases mem_preorder_node.mp hs with rfl | ⟨child, hchild, hs⟩
  · exact ⟨fun h => absurd h hbetween, fun h => absurd h hbefore⟩
  · exact hchildren child hchild s hs

theorem Ranked.between {left right : Tree} (sign : Sign L .between)
    (hleft : left.Ranked L level) (hright : right.Ranked L level)
    (hends : left.RightEdge level (level sign.token.position) (L.Outranks · sign.operator))
    (hbegins : right.LeftEdge level (level sign.token.position) (L.WaitsFor sign.operator)) :
    Ranked L level (.node sign.bound [left, right]) := by
  intro s hs
  rcases mem_preorder_node.mp hs with rfl | ⟨child, hchild, hmem⟩
  · refine ⟨fun _ => ?_, fun hkind => ?_⟩
    · exact ⟨left, right, sign.operator, rfl, rfl, hends, hbegins⟩
    · simp [token, Fixity.tokenKind] at hkind
  · simp only [List.mem_cons, List.not_mem_nil, or_false] at hchild
    rcases hchild with rfl | rfl
    · exact hleft s hmem
    · exact hright s hmem

theorem Ranked.before {operand : Tree} (sign : Sign L .before) (hoperand : operand.Ranked L level)
    (hbegins : operand.LeftEdge level (level sign.token.position) (L.WaitsFor sign.operator)) :
    Ranked L level (.node sign.bound [operand]) := by
  intro s hs
  rcases mem_preorder_node.mp hs with rfl | ⟨child, hchild, hmem⟩
  · refine ⟨fun hkind => ?_, fun _ => ⟨operand, sign.operator, rfl, rfl, hbegins⟩⟩
    simp [token, Fixity.tokenKind] at hkind
  · rw [List.mem_singleton.mp hchild] at hmem
    exact hoperand s hmem

end Tree

namespace Parser

open Cursor (due called read fielded)

variable {L : Language} {level : Nat → Nat}

/-! ## Ranks around the cursor -/

namespace Context

/-- The innermost operator that waits for an operand behind it. -/
def waiting : Context L → Option Operator
  | before sign _ => some sign.operator
  | between _ sign _ => some sign.operator
  | after _ outer => outer.waiting
  | _ => none

/-- A tree can fill the open place: it ranks, it is as deep as the brackets that are open, and the
    innermost operator waits for the operators that it begins with. -/
def Accepts (level : Nat → Nat) (c : Context L) (x : Tree) : Prop :=
  x.Ranked L level ∧ x.Deep level c.frames.length ∧
    ∀ operator, c.waiting = some operator →
      x.LeftEdge level c.frames.length (L.WaitsFor operator)

/-- All complete trees rank, and so do the operators that wait. -/
def Ranked (level : Nat → Nat) : Context L → Prop
  | top => True
  | before sign outer => level sign.token.position = outer.frames.length ∧ outer.Ranked level
  | after _ outer => outer.Ranked level
  | between left sign outer =>
    level sign.token.position = outer.frames.length ∧ outer.Accepts level left ∧
      left.RightEdge level outer.frames.length (L.Outranks · sign.operator) ∧
      (∀ operator, outer.waiting = some operator → L.WaitsFor operator sign.operator) ∧
      outer.Ranked level
  | group _ outer => outer.Ranked level
  | call _ arguments outer =>
    (∀ argument ∈ arguments, argument.Ranked L level ∧
      argument.Deep level (outer.frames.length + 1)) ∧ outer.Ranked level
  | index array _ outer => outer.Accepts level array ∧ outer.Ranked level

/-- The operators that an operand may end with: those that outrank the operator that waits behind
    it, and none if there is none. -/
def Sealed : Context L → Operator → Prop
  | after sign _, operator => L.Outranks operator sign.operator
  | _, _ => False

/-- A tree whose own token is no operator with an operand behind it, and whose operators all stand
    in more brackets, can fill the open place. -/
theorem Accepts.of_deep {c : Context L} {x : Tree} (hranked : x.Ranked L level)
    (hdeep : x.Deep level (c.frames.length + 1)) : c.Accepts level x :=
  ⟨hranked, hdeep.mono (Nat.le_succ _), fun _ _ => .of_deep hdeep⟩

/-- The left edge goes on into the first operand. -/
theorem Accepts.continued {c : Context L} {x : Tree} {token : Token} {rest : List Tree}
    (h : c.Accepts level x) (hranked : Tree.Ranked L level (.node token (x :: rest)))
    (hkind : token.kind = .postfixOperator ∨ token.kind = .arrayIndex ∨ token.kind = .separator)
    (hrest : ∀ tree ∈ rest, tree.Deep level c.frames.length) :
    c.Accepts level (.node token (x :: rest)) := by
  obtain ⟨_, hdeep, hbegins⟩ := h
  refine ⟨hranked, .of_children ?_ (List.forall_mem_cons.mpr ⟨hdeep, hrest⟩), ?_⟩
  · rcases hkind with h | h | h <;> simp [h]
  · intro operator hwaiting s hs hbetween hlevel
    have hedge : s = .node token (x :: rest) ∨ s ∈ x.leftEdge := by
      unfold Tree.leftEdge at hs
      rcases hkind with h | h | h <;> simpa [h] using hs
    rcases hedge with rfl | hs
    · rcases hkind with h | h | h <;> simp [Tree.token, h] at hbetween
    · exact hbegins operator hwaiting s hs hbetween hlevel

/-- Applying an operator before its operand keeps the ranks: it waits for what follows it. -/
theorem ranked_before {sign : Sign L .before} {outer : Context L} {x : Tree}
    (hc : (before sign outer).Ranked level) (hx : (before sign outer).Accepts level x) :
    outer.Accepts level (.node sign.bound [x]) := by
  obtain ⟨hlevel, -⟩ := hc
  obtain ⟨hranked, hdeep, hbegins⟩ := hx
  have hdeep : x.Deep level outer.frames.length := hdeep
  refine ⟨.before sign hranked ?_, .of_children ?_ (by simpa using hdeep), ?_⟩
  · rw [hlevel]
    exact hbegins sign.operator rfl
  · exact fun _ => Nat.le_of_eq hlevel.symm
  · intro operator _ s hs hbetween _
    have hedge : s = .node sign.bound [x] := by
      simpa [Tree.leftEdge, Fixity.tokenKind] using hs
    rw [hedge] at hbetween
    simp [Tree.token, Fixity.tokenKind] at hbetween

theorem ranked_after {sign : Sign L .after} {outer : Context L} {x : Tree}
    (hx : (after sign outer).Accepts level x) : outer.Accepts level (.node sign.bound [x]) := by
  have hnode : Tree.Ranked L level (.node sign.bound [x]) := by
    refine .of_children ?_ ?_ (by simpa using hx.1)
    · simp [Fixity.tokenKind]
    · simp [Fixity.tokenKind]
  exact Accepts.continued hx hnode (.inl sign.bound_kind) (by simp)

/-- Applying an operator between two operands keeps the ranks: it outranks what ends the left one
    and waits for what begins the right one. -/
theorem ranked_between {left : Tree} {sign : Sign L .between} {outer : Context L} {x : Tree}
    (hc : (between left sign outer).Ranked level) (hx : (between left sign outer).Accepts level x) :
    outer.Accepts level (.node sign.bound [left, x]) := by
  obtain ⟨hlevel, ⟨hleft, hleftDeep, hleftBegins⟩, hends, hwaits, -⟩ := hc
  obtain ⟨hranked, hdeep, hbegins⟩ := hx
  refine ⟨.between sign hleft hranked ?_ ?_, .of_children ?_ ?_, ?_⟩
  · rw [hlevel]
    exact hends
  · rw [hlevel]
    exact hbegins sign.operator rfl
  · exact fun _ => Nat.le_of_eq hlevel.symm
  · simpa using ⟨hleftDeep, hdeep⟩
  · intro operator hwaiting s hs hbetween hsame
    have hedge : s = .node sign.bound [left, x] ∨ s ∈ left.leftEdge := by
      unfold Tree.leftEdge at hs
      simpa [Fixity.tokenKind] using hs
    rcases hedge with rfl | hs
    · exact ⟨sign.operator, rfl, hwaits operator hwaiting⟩
    · exact hleftBegins operator hwaiting s hs hbetween hsame

/-- Applying operators keeps the ranks. -/
theorem settle_ranked {now : Operator → Bool} {c d : Context L} {x y : Tree}
    (hsettled : c.settle now x = (d, y)) (hc : c.Ranked level) (hx : c.Accepts level x) :
    d.Ranked level ∧ d.Accepts level y := by
  refine settle_keeps (I := fun d y => d.Ranked level ∧ d.Accepts level y) hsettled ⟨hc, hx⟩
    ?_ ?_ ?_
  · intro sign outer z _ ⟨hc, hz⟩
    exact ⟨hc.2, ranked_before hc hz⟩
  · intro sign outer z _ ⟨hc, hz⟩
    exact ⟨hc, ranked_after hz⟩
  · intro left sign outer z _ ⟨hc, hz⟩
    exact ⟨hc.2.2.2.2, ranked_between hc hz⟩

/-- The operator that waits in front of what is settled is not applied. -/
theorem not_now_of_settle {now : Operator → Bool} {c d : Context L} {x y : Tree}
    (hafter : ∀ sign : Sign L .after, now sign.operator = true)
    (hsettled : c.settle now x = (d, y)) {operator : Operator}
    (hwaiting : d.waiting = some operator) : now operator = false := by
  induction c generalizing x with
  | before sign outer ih =>
    simp only [settle] at hsettled
    split at hsettled
    · exact ih hsettled
    · cases hsettled
      cases hwaiting
      simpa using ‹¬ now sign.operator = true›
  | after sign outer ih =>
    simp only [settle, hafter, if_true] at hsettled
    exact ih hsettled
  | between left sign outer ih =>
    simp only [settle] at hsettled
    split at hsettled
    · exact ih hsettled
    · cases hsettled
      cases hwaiting
      simpa using ‹¬ now sign.operator = true›
  | top | group | call | index =>
    cases hsettled
    cases hwaiting

/-- Applying operators adds only those that are applied to the end of the operand. -/
theorem settle_rightEdge {now : Operator → Bool} {count : Nat} {c d : Context L} {x y : Tree}
    (hsettled : c.settle now x = (d, y)) (hx : x.RightEdge level count (now · = true)) :
    y.RightEdge level count (now · = true) := by
  refine settle_keeps (I := fun _ y => y.RightEdge level count (now · = true)) hsettled hx
    ?_ ?_ ?_
  · intro sign outer z hnow hz
    exact .bound sign [] rfl hz hnow
  · intro sign outer z hnow hz
    exact .bound sign [] rfl hz hnow
  · intro left sign outer z hnow hz
    exact .bound sign [left] rfl hz hnow

/-- What an operand ends with when the next operator comes outranks that operator: it was applied,
    or it belongs to an operator behind its operand that was. -/
theorem rightEdge_of_sealed {fixity : Fixity} {sign : Sign L fixity}
    (hfirst : ∀ waiting : Sign L .after, L.Outranks waiting.operator sign.operator)
    {c d : Context L} {x y : Tree} (hsettled : c.settle sign.releases x = (d, y))
    (hx : x.RightEdge level c.frames.length c.Sealed) :
    y.RightEdge level c.frames.length (L.Outranks · sign.operator) := by
  have hreleases : x.RightEdge level c.frames.length (sign.releases · = true) := by
    apply hx.imp
    intro operator hsealed
    apply (sign.releases_iff operator).mpr
    cases c with
    | after waiting outer => exact hsealed.trans (hfirst waiting)
    | _ => exact hsealed.elim
  exact (settle_rightEdge hsettled hreleases).imp fun operator => (sign.releases_iff operator).mp

end Context

namespace Cursor

/-- The brackets that are open at the cursor. -/
def frames : Cursor L → List (Context.Frame L)
  | due c | called _ c | read c _ | fielded _ c _ => c.frames

/-- All complete trees rank, and so do the operators that wait. -/
def Ranked (level : Nat → Nat) : Cursor L → Prop
  | due c | called _ c => c.Ranked level
  | read c x => c.Ranked level ∧ c.Accepts level x ∧ x.RightEdge level c.frames.length c.Sealed
  | fielded separator c x => c.Ranked level ∧ c.Accepts level x ∧ separator.kind = .separator

/-- An operand that was just completed ends with no operator of its own level. -/
theorem Ranked.read {c : Context L} {x : Tree} (hc : c.Ranked level) (hx : c.Accepts level x)
    (hedge : x.rightEdge = [x])
    (hkind : x.token.kind ≠ .infixOperator ∧ x.token.kind ≠ .prefixOperator) :
    (read c x).Ranked level := by
  refine ⟨hc, hx, fun s hs hs' _ => ?_⟩
  rw [hedge, List.mem_singleton] at hs
  subst hs
  exact absurd hs' (not_or.mpr hkind)

/-- A call ranks if its arguments do, and nothing in it is on an edge. -/
theorem Ranked.call {c : Context L} {callee : Callee L} {arguments : List Tree}
    (hc : c.Ranked level)
    (harguments : ∀ argument ∈ arguments, argument.Ranked L level ∧
      argument.Deep level (c.frames.length + 1)) :
    (Cursor.read c (.node callee.bound arguments)).Ranked level := by
  have hranked : Tree.Ranked L level (.node callee.bound arguments) :=
    .of_children (by simp) (by simp) fun argument h => (harguments argument h).1
  have hdeep : Tree.Deep level (c.frames.length + 1) (.node callee.bound arguments) :=
    .of_children (by simp) fun argument h => (harguments argument h).2
  refine .read hc (.of_deep hranked hdeep) ?_ ?_
  · simp [Tree.rightEdge]
  · simp [Tree.token]

/-- A move keeps the ranks, if its operator has as many brackets before it as are open. -/
theorem Move.ranked {t : Token} {cursor next : Cursor L} (hmove : Move L t cursor next)
    (hfirst : L.PostfixFirst) (h : cursor.Ranked level)
    (hlevel : t.kind = .infixOperator ∨ t.kind = .prefixOperator →
      level t.position = cursor.frames.length) : next.Ranked level := by
  have houtranks : ∀ {fixity : Fixity} (sign : Sign L fixity), fixity ≠ .before →
      ∀ waiting : Sign L .after, L.Outranks waiting.operator sign.operator :=
    fun sign hfixity waiting => hfirst waiting.found hfixity sign.found
  cases hmove with
  | @leaf t c kind =>
    have hkind : t.kind ≠ .infixOperator ∧ t.kind ≠ .prefixOperator := by
      rcases kind with kind | kind | kind <;> rw [kind] <;> decide
    refine .read h (.of_deep (.of_children hkind.1 hkind.2 (by simp)) ?_) ?_ hkind
    · exact .of_children (fun h => absurd h (not_or.mpr hkind)) (by simp)
    · rcases kind with kind | kind | kind <;> simp [Tree.leaf, Tree.rightEdge]
  | function kind => exact h
  | openGroup kind => exact h
  | openCall callee kind => exact ⟨by simp, h⟩
  | before sign => exact ⟨hlevel (.inr sign.kind_eq), h⟩
  | between sign settled =>
    obtain ⟨hc, hx, hedge⟩ := h
    obtain ⟨hd, hy⟩ := Context.settle_ranked settled hc hx
    have hends := Context.rightEdge_of_sealed (houtranks sign (by decide)) settled hedge
    have hframes := Context.frames_of_settle settled
    rw [← hframes] at hends
    refine ⟨?_, hy, hends, fun operator hwaiting => ?_, hd⟩
    · rw [hframes]
      exact hlevel (.inl sign.kind_eq)
    · have hafter : ∀ waiting : Sign L .after, sign.releases waiting.operator = true :=
        fun waiting => (sign.releases_iff _).mpr (houtranks sign (by decide) waiting)
      have hnow := Context.not_now_of_settle hafter settled hwaiting
      apply Language.waitsFor_of_not_outranks
      intro houtranks
      rw [(sign.releases_iff operator).mpr houtranks] at hnow
      cases hnow
  | after sign settled =>
    obtain ⟨hc, hx, hedge⟩ := h
    obtain ⟨hd, hy⟩ := Context.settle_ranked settled hc hx
    have hends := Context.rightEdge_of_sealed (houtranks sign (by decide)) settled hedge
    rw [← Context.frames_of_settle settled] at hends
    exact ⟨hd, hy, hends⟩
  | openIndex kind settled =>
    obtain ⟨hd, hy⟩ := Context.settle_ranked settled h.1 h.2.1
    exact ⟨hy, hd⟩
  | separator kind settled =>
    obtain ⟨hd, hy⟩ := Context.settle_ranked settled h.1 h.2.1
    exact ⟨hd, hy, kind⟩
  | @field t separator c x kind =>
    obtain ⟨hc, hx, hseparator⟩ := h
    have hleaf : (Tree.leaf t).Deep level c.frames.length :=
      .of_children (by simp [kind]) (by simp)
    have hranked : (Tree.leaf t).Ranked L level :=
      .of_children (by simp [kind]) (by simp [kind]) (by simp)
    refine .read hc (hx.continued ?_ (.inr (.inr hseparator)) (by simpa using hleaf)) ?_ ?_
    · exact .of_children (by simp [hseparator]) (by simp [hseparator])
        (by simpa using ⟨hx.1, hranked⟩)
    · simp [Tree.rightEdge, hseparator]
    · simp [Tree.token, hseparator]
  | comma kind settled =>
    obtain ⟨⟨harguments, hd⟩, hranked, hdeep, _⟩ := Context.settle_ranked settled h.1 h.2.1
    refine ⟨fun argument hargument => ?_, hd⟩
    rcases List.mem_append.mp hargument with hargument | hargument
    · exact harguments argument hargument
    · rw [List.mem_singleton.mp hargument]
      exact ⟨hranked, hdeep⟩
  | closeGroup kind settled =>
    obtain ⟨hd, hranked, hdeep, _⟩ := Context.settle_ranked settled h.1 h.2.1
    exact ⟨hd, .of_deep hranked hdeep, .of_deep hdeep⟩
  | @closeCall t c x callee arguments d y kind settled accepted =>
    obtain ⟨⟨harguments, hd⟩, hranked, hdeep, _⟩ := Context.settle_ranked settled h.1 h.2.1
    apply Ranked.call hd
    intro argument hargument
    rcases List.mem_append.mp hargument with hargument | hargument
    · exact harguments argument hargument
    · rw [List.mem_singleton.mp hargument]
      exact ⟨hranked, hdeep⟩
  | closeEmpty kind accepted => exact .call h.2 (by simp)
  | @closeIndex t c x array bracket d y kind settled =>
    obtain ⟨⟨harray, hd⟩, hranked, hdeep, _⟩ := Context.settle_ranked settled h.1 h.2.1
    have hdeep : y.Deep level (d.frames.length + 1) := hdeep
    refine .read hd (harray.continued ?_ (.inr (.inl rfl)) ?_) ?_ ?_
    · exact .of_children (by simp [indexToken]) (by simp [indexToken])
        (by simpa using ⟨harray.1, hranked⟩)
    · simpa using hdeep.mono (Nat.le_succ _)
    · simp [Tree.rightEdge, indexToken]
    · simp [Tree.token, indexToken]

/-! ## All moves -/

/-- A move opens or closes the bracket that its token is. -/
theorem Move.frames_length {t : Token} {cursor next : Cursor L} (h : Move L t cursor next) :
    next.frames.length + t.isClosing.toNat = cursor.frames.length + t.isOpening.toNat := by
  cases h with
  | leaf kind =>
    rcases kind with kind | kind | kind <;> simp [frames, Token.isOpening, Token.isClosing, kind]
  | function kind => simp [frames, Token.isOpening, Token.isClosing, kind]
  | openGroup kind | openCall _ kind =>
    simp [frames, Context.frames, Token.isOpening, Token.isClosing, kind]
  | before sign =>
    simp [frames, Context.frames, Token.isOpening, Token.isClosing, sign.kind_eq, Fixity.tokenKind]
  | between sign settled | after sign settled =>
    simp [frames, Context.frames, Context.frames_of_settle settled, Token.isOpening,
      Token.isClosing, sign.kind_eq, Fixity.tokenKind]
  | openIndex kind settled | separator kind settled =>
    simp [frames, Context.frames, Context.frames_of_settle settled, Token.isOpening,
      Token.isClosing, kind]
  | field kind => simp [frames, Token.isOpening, Token.isClosing, kind]
  | comma kind settled | closeGroup kind settled | closeCall kind settled _
  | closeIndex kind settled =>
    have := congrArg List.length (Context.frames_of_settle settled)
    simpa [frames, Context.frames, Token.isOpening, Token.isClosing, kind] using this
  | closeEmpty kind accepted =>
    simp [frames, Context.frames, Token.isOpening, Token.isClosing, kind]

theorem Moves.openBrackets_eq {tokens : List Token} {cursor : Cursor L}
    (h : Moves L tokens cursor) : Token.openBrackets tokens = cursor.frames.length := by
  have hcount : tokens.countP Token.isOpening =
      tokens.countP Token.isClosing + cursor.frames.length := by
    induction h with
    | start => rfl
    | @move tokens t cursor next _ hmove ih =>
      have hframes := hmove.frames_length
      have hsingle : ∀ P : Token → Bool, [t].countP P = (P t).toNat := by
        intro P
        cases hP : P t <;> simp [hP]
      rw [List.countP_append, List.countP_append, hsingle, hsingle]
      omega
  unfold Token.openBrackets
  omega

/-- The cursor keeps the ranks, if the level of each operator is the number of brackets that are
    open before it. -/
theorem Moves.ranked {tokens : List Token} {cursor : Cursor L} (h : Moves L tokens cursor)
    (hfirst : L.PostfixFirst)
    (hlevel : ∀ before t behind, tokens = before ++ t :: behind →
      t.kind = .infixOperator ∨ t.kind = .prefixOperator →
      level t.position = Token.openBrackets before) : cursor.Ranked level := by
  induction h with
  | start => exact trivial
  | @move tokens t cursor next hmoves hmove ih =>
    have hbefore : cursor.Ranked level := by
      apply ih
      intro before s behind htokens hkind
      exact hlevel before s (behind ++ [t]) (by simp [htokens]) hkind
    apply hmove.ranked hfirst hbefore
    intro hkind
    rw [hlevel tokens t [] rfl hkind, hmoves.openBrackets_eq]

end Cursor
end Parser

/-! ## Ranks in a formula -/

namespace BuiltIn

/-- The precedence of `^` is a setting, unless the host redefines the operator. -/
theorem precedenceOf_power (settings : Settings) (functions : FunctionTable)
    {added : List (String × Operator)}
    (hadded : ∀ entry ∈ added, entry.2.rule.fixity = .between → Text.upper entry.1 ≠ "^") :
    ∃ operator, (operatorTable.extend added).find? .between "^" = some operator ∧
      (Language.mk settings (operatorTable.extend added) functions).precedenceOf operator =
        settings.powerPrecedence := by
  have hupper : Text.upper "^" = "^" := by decide
  have hsame : (operatorTable.extend added).find? .between "^" = operatorTable.find? .between "^" :=
    OperatorTable.find?_extend (by rwa [hupper])
  have hpower : ("^", ⟨(OperatorRule.between Precedence.power).rightAssociative.adjustedBy
      (·.powerPrecedence), .power⟩) ∈ operators := by
    simp [operators]
  exact ⟨_, hsame.trans (find?_operatorTable hpower), rfl⟩

end BuiltIn

namespace Tree

variable {L : Language}

/-- The operators of a formula's tree rank as their places demand, if every operator behind its
    operand outranks those that can follow it. Only operators with the same number of open brackets
    before them are compared. The precedence of `^` is a setting. -/
theorem ranked_of_parse :
    (∀ {L : Language} {text : String} {tree : Tree}, L.PostfixFirst → parse L text = .ok tree →
      ∃ tokens, Token.scan L text = .ok tokens ∧ tree.Ranked L (Token.nesting tokens)) ∧
    (∀ settings functions added,
      (∀ entry ∈ added, entry.2.rule.fixity = .between → Text.upper entry.1 ≠ "^") →
      ∃ operator, (BuiltIn.operatorTable.extend added).find? .between "^" = some operator ∧
        (Language.mk settings (BuiltIn.operatorTable.extend added) functions).precedenceOf
          operator = settings.powerPrecedence) := by
  refine ⟨?_, fun settings functions added => BuiltIn.precedenceOf_power settings functions⟩
  intro L text tree hfirst h
  obtain ⟨tokens, c, x, hscan, hmoves, hsettled⟩ := moves_of_parse h
  refine ⟨tokens, hscan, ?_⟩
  have hpositions := Token.scan_positions hscan
  have hlevel : ∀ before t behind, Token.joined none tokens = before ++ t :: behind →
      t.kind = .infixOperator ∨ t.kind = .prefixOperator →
      Token.nesting tokens t.position = Token.openBrackets before := by
    intro before t behind hjoined hkind
    apply Token.nesting_eq hpositions hjoined
    rcases hkind with hkind | hkind <;> rw [hkind] <;> rfl
  obtain ⟨hc, hx, -⟩ := hmoves.ranked hfirst hlevel
  exact (Parser.Context.settle_ranked hsettled hc hx).2.1

set_option maxRecDepth 4000 in
theorem ranked_of_parse_exclaiming : ∃ tree tokens,
    parse (.exclaiming .standard) "-a! ^ b * (c + d) - 2(e)" = .ok tree ∧
    Token.scan (.exclaiming .standard) "-a! ^ b * (c + d) - 2(e)" = .ok tokens ∧
    tree.Ranked (.exclaiming .standard) (Token.nesting tokens) ∧
    ∃ operator, (Language.exclaiming .standard).operators.find? .between "^" = some operator ∧
      (Language.exclaiming .standard).precedenceOf operator =
        Settings.standard.powerPrecedence := by
  have hfirst : (Language.exclaiming .standard).PostfixFirst :=
    BuiltIn.postfixFirst_extend _ _ (by decide) (by simp)
  have hparse : (parse (.exclaiming .standard) "-a! ^ b * (c + d) - 2(e)").toBool = true := by
    decide +kernel
  have hpower := ranked_of_parse.2 .standard BuiltIn.functionTable [("!", ⟨.after, .host 0⟩)]
    (by decide)
  cases h : parse (.exclaiming .standard) "-a! ^ b * (c + d) - 2(e)" with
  | error error =>
    rw [h] at hparse
    cases hparse
  | ok tree =>
    obtain ⟨tokens, hscan, hranked⟩ := ranked_of_parse.1 hfirst h
    exact ⟨tree, tokens, rfl, hscan, hranked, hpower⟩

end Tree
end Formula

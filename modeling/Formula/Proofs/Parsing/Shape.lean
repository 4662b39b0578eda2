-- SUMMARY: What holds of leaves and is passed on by every way to build a node holds of every tree that the parser yields.
import Formula.Proofs.Parsing.Build
import Formula.Proofs.Tree.Nodes

/-!
# The shape of parsed trees

The parser builds a tree from leaves with five kinds of nodes. A property of trees that all of them
pass on (`Parser.Inductive`) holds of every tree that a text is parsed to.
-/

namespace Formula
namespace Parser

open Cursor (due called read fielded)

/-- A property of trees that holds of leaves with a good token and is passed on from operands to
    nodes. -/
structure Inductive (L : Language) (P : Tree → Prop) (Q : Token → Prop := fun _ => True) :
    Prop where
  leaf : ∀ token : Token, token.kind = .number ∨ token.kind = .text ∨ token.kind = .name →
    Q token → P (Tree.leaf token)
  operator : ∀ {fixity : Fixity} (sign : Sign L fixity) (operands : List Tree),
    operands.length = fixity.operandCount → (∀ operand ∈ operands, P operand) →
      P (.node sign.bound operands)
  call : ∀ (callee : Callee L) (arguments : List Tree),
    callee.function.signature.accepts arguments.length = true →
      (∀ argument ∈ arguments, P argument) → P (.node callee.bound arguments)
  index : ∀ (bracket : Token) (array index : Tree), P array → P index →
    P (.node (indexToken bracket) [array, index])
  field : ∀ (separator field : Token) (base : Tree), separator.kind = .separator →
    field.kind = .name → P base → P (.node separator [base, Tree.leaf field])

variable {L : Language} {P : Tree → Prop} {Q : Token → Prop}

/-- What holds of every node that is made holds of all nodes of a tree. -/
theorem Inductive.of_nodes {N : Tree → Prop}
    (leaf : ∀ token : Token, token.kind = .number ∨ token.kind = .text ∨ token.kind = .name →
      Q token → N (Tree.leaf token))
    (operator : ∀ {fixity : Fixity} (sign : Sign L fixity) (operands : List Tree),
      operands.length = fixity.operandCount → N (.node sign.bound operands))
    (call : ∀ (callee : Callee L) (arguments : List Tree),
      callee.function.signature.accepts arguments.length = true →
        N (.node callee.bound arguments))
    (index : ∀ (bracket : Token) (array index : Tree), N (.node (indexToken bracket) [array, index]))
    (field : ∀ (separator field : Token) (base : Tree), separator.kind = .separator →
      field.kind = .name → N (.node separator [base, Tree.leaf field]) ∧ N (Tree.leaf field)) :
    Inductive L (fun tree => ∀ s ∈ tree.preorder, N s) Q := by
  have hnode : ∀ {token : Token} {children : List Tree}, N (.node token children) →
      (∀ child ∈ children, ∀ s ∈ child.preorder, N s) →
      ∀ s ∈ (Tree.node token children).preorder, N s := by
    intro token children htoken hchildren s hs
    rcases Tree.mem_preorder_node.mp hs with rfl | ⟨child, hchild, hs⟩
    · exact htoken
    · exact hchildren child hchild s hs
  constructor
  case leaf =>
    intro token hkind htoken
    exact hnode (leaf token hkind htoken) (by simp)
  case operator =>
    intro fixity sign operands hcount hoperands
    exact hnode (operator sign operands hcount) hoperands
  case call =>
    intro callee arguments haccepted harguments
    exact hnode (call callee arguments haccepted) harguments
  case index =>
    intro bracket array position harray hposition
    exact hnode (index bracket array position) (by simpa using ⟨harray, hposition⟩)
  case field =>
    intro separator name base hseparator hname hbase
    obtain ⟨hself, hleaf⟩ := field separator name base hseparator hname
    have hleaf : ∀ s ∈ (Tree.leaf name).preorder, N s := hnode hleaf (by simp)
    exact hnode hself (by simpa using ⟨hbase, hleaf⟩)

/-- A property of tokens holds of all nodes if it holds of the tokens that are bound to an operator
    or a function and of those that never are. -/
theorem Inductive.of_tokens
    (plain : ∀ token : Token, token.kind.fixity? = none → token.kind ≠ .function → Q token)
    (operator : ∀ {fixity : Fixity} (sign : Sign L fixity), Q sign.bound)
    (call : ∀ callee : Callee L, Q callee.bound) :
    Inductive L fun tree => ∀ s ∈ tree.preorder, Q s.token := by
  refine .of_nodes ?leaf (fun sign _ _ => operator sign) (fun callee _ _ => call callee)
    (fun bracket _ _ => plain (indexToken bracket) rfl nofun) ?field
  case leaf =>
    intro token hkind _
    have hkinds : token.kind.fixity? = none ∧ token.kind ≠ .function := by
      rcases hkind with hkind | hkind | hkind <;> rw [hkind] <;> decide
    exact plain token hkinds.1 hkinds.2
  case field =>
    intro separator field base hseparator hfield
    exact ⟨plain separator (by rw [hseparator]; rfl) (by rw [hseparator]; decide),
      plain field (by rw [hfield]; rfl) (by rw [hfield]; decide)⟩

/-- All trees that are read so far have the property. -/
def Context.Forall (P : Tree → Prop) : Context L → Prop
  | .top => True
  | .before _ outer | .after _ outer | .group _ outer => outer.Forall P
  | .between left _ outer => P left ∧ outer.Forall P
  | .call _ arguments outer => (∀ argument ∈ arguments, P argument) ∧ outer.Forall P
  | .index array _ outer => P array ∧ outer.Forall P

theorem Context.settle_forall (hP : Inductive L P Q) {now : Operator → Bool} {c d : Context L}
    {x y : Tree} (hsettled : c.settle now x = (d, y)) (hc : c.Forall P) (hx : P x) :
    d.Forall P ∧ P y := by
  refine settle_keeps (I := fun d y => d.Forall P ∧ P y) hsettled ⟨hc, hx⟩ ?_ ?_ ?_
  · rintro sign outer z _ ⟨houter, hz⟩
    exact ⟨houter, hP.operator sign [z] rfl (by simpa using hz)⟩
  · rintro sign outer z _ ⟨houter, hz⟩
    exact ⟨houter, hP.operator sign [z] rfl (by simpa using hz)⟩
  · rintro left sign outer z _ ⟨⟨hleft, houter⟩, hz⟩
    exact ⟨houter, hP.operator sign [left, z] rfl (by simpa using ⟨hleft, hz⟩)⟩

namespace Cursor

def Forall (P : Tree → Prop) : Cursor L → Prop
  | due c | called _ c => c.Forall P
  | read c x => c.Forall P ∧ P x
  | fielded separator c x => separator.kind = .separator ∧ c.Forall P ∧ P x

theorem Move.forall (hP : Inductive L P Q) {t : Token} {cursor next : Cursor L}
    (hmove : Move L t cursor next) (ht : t.kind ≠ .infixOperator → Q t) (h : cursor.Forall P) :
    next.Forall P := by
  have hsettle := @Context.settle_forall L P Q hP
  cases hmove with
  | leaf kind =>
    have hoperand : t.kind ≠ .infixOperator := by
      rcases kind with kind | kind | kind <;> rw [kind] <;> decide
    exact ⟨h, hP.leaf t kind (ht hoperand)⟩
  | function kind => exact h
  | openGroup kind => exact h
  | openCall callee kind => exact ⟨by simp, h⟩
  | before sign => exact h
  | between sign settled =>
    obtain ⟨hd, hy⟩ := hsettle settled h.1 h.2
    exact ⟨hy, hd⟩
  | after sign settled =>
    obtain ⟨hd, hy⟩ := hsettle settled h.1 h.2
    exact ⟨hd, hy⟩
  | openIndex kind settled =>
    obtain ⟨hd, hy⟩ := hsettle settled h.1 h.2
    exact ⟨hy, hd⟩
  | separator kind settled => exact ⟨kind, hsettle settled h.1 h.2⟩
  | field kind => exact ⟨h.2.1, hP.field _ t _ h.1 kind h.2.2⟩
  | comma kind settled =>
    obtain ⟨⟨harguments, hd⟩, hy⟩ := hsettle settled h.1 h.2
    exact ⟨List.forall_mem_append.mpr ⟨harguments, by simpa using hy⟩, hd⟩
  | closeGroup kind settled =>
    obtain ⟨hd, hy⟩ := hsettle settled h.1 h.2
    exact ⟨hd, hy⟩
  | closeCall kind settled accepted =>
    obtain ⟨⟨harguments, hd⟩, hy⟩ := hsettle settled h.1 h.2
    refine ⟨hd, hP.call _ _ ?_ (List.forall_mem_append.mpr ⟨harguments, by simpa using hy⟩)⟩
    rwa [List.length_append]
  | closeEmpty kind accepted => exact ⟨h.2, hP.call _ _ accepted h.1⟩
  | closeIndex kind settled =>
    obtain ⟨⟨harray, hd⟩, hy⟩ := hsettle settled h.1 h.2
    exact ⟨hd, hP.index _ _ _ harray hy⟩

theorem Moves.forall (hP : Inductive L P Q) {tokens : List Token} {cursor : Cursor L}
    (h : Moves L tokens cursor) (htokens : ∀ t ∈ tokens, t.kind ≠ .infixOperator → Q t) :
    cursor.Forall P := by
  induction h with
  | start => trivial
  | move _ hmove ih =>
    obtain ⟨hbefore, ht⟩ := List.forall_mem_append.mp htokens
    exact hmove.forall hP (ht _ (List.mem_singleton_self _)) (ih hbefore)

end Cursor
end Parser

namespace Tree

variable {L : Language} {P : Tree → Prop} {text : String} {tree : Tree}

/-- Every tree that a text is parsed to has the property if the tokens of a text are good. -/
theorem forall_of_scan {Q : Token → Prop} (hP : Parser.Inductive L P Q)
    (hscan : ∀ tokens, Token.scan L text = .ok tokens → ∀ token ∈ tokens, Q token)
    (h : parse L text = .ok tree) : P tree := by
  obtain ⟨tokens, c, x, htokens, hmoves, hsettled⟩ := moves_of_parse h
  obtain ⟨hc, hx⟩ := hmoves.forall hP fun t ht hkind => by
    rcases Token.mem_joined ht with ht | ⟨before, rfl⟩
    · exact hscan tokens htokens t ht
    · exact absurd rfl hkind
  exact (Parser.Context.settle_forall hP hsettled hc hx).2

/-- Every tree that a text is parsed to has the property. -/
theorem forall_of_parse (hP : Parser.Inductive L P) (h : parse L text = .ok tree) : P tree :=
  forall_of_scan hP (fun _ _ _ _ => trivial) h

end Tree
end Formula

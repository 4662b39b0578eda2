-- SUMMARY: When an operator behind its operand applies to what stands before it and to nothing else.
import Formula.Proofs.Parsing.Reading

/-!
# Operators behind their operand

An operator behind its operand should apply to the operand that ends right before it. The parser
lets it wait instead, and an operator that comes next and binds more tightly is drawn into its
operand. That is the only way in which it goes wrong: the operators of a formula stand behind all of
their operand exactly if each one outranks the operator that follows it (`Token.Released`).

If each one does, then the order of the tokens tells where they stand. If one does not, then a token
behind it becomes part of its operand, and the tree that is under construction only grows from there
(`Tree.Extends`).
-/

namespace Formula

/-! ## Trees that grow -/

namespace Tree

/-- Every operator behind its operand stands behind all tokens of the operand. -/
def PostfixLast (tree : Tree) : Prop :=
  ∀ s ∈ tree.preorder, s.token.kind = .postfixOperator →
    ∀ u ∈ preorderAll s.children, u.token.position < s.token.position

instance (tree : Tree) : Decidable tree.PostfixLast := by
  unfold PostfixLast
  infer_instance

theorem PostfixLast.of_mem {s tree : Tree} (h : tree.PostfixLast) (hs : s ∈ tree.preorder) :
    s.PostfixLast :=
  fun u hu => h u (mem_preorder_trans hu hs)

/-- A tree has all tokens of another one, and its operators stand behind their operands only if
    those of the other one do. -/
structure Extends (large small : Tree) : Prop where
  tokens : ∀ u ∈ small.preorder, ∃ v ∈ large.preorder, v.token = u.token
  last : large.PostfixLast → small.PostfixLast

/-- Each tree of one list is extended by one of another list. -/
def ExtendsAll (large small : List Tree) : Prop := ∀ y ∈ small, ∃ x ∈ large, Extends x y

namespace Extends

theorem refl (tree : Tree) : Extends tree tree := ⟨fun u hu => ⟨u, hu, rfl⟩, id⟩

theorem trans {x y z : Tree} (hxy : Extends x y) (hyz : Extends y z) : Extends x z := by
  refine ⟨fun w hw => ?_, fun h => hyz.last (hxy.last h)⟩
  obtain ⟨v, hv, hvw⟩ := hyz.tokens w hw
  obtain ⟨u, hu, huv⟩ := hxy.tokens v hv
  exact ⟨u, hu, huv.trans hvw⟩

/-- A tree extends each of its nodes. -/
theorem of_mem {s tree : Tree} (h : s ∈ tree.preorder) : Extends tree s :=
  ⟨fun u hu => ⟨u, mem_preorder_trans hu h, rfl⟩, fun hlast => hlast.of_mem h⟩

theorem of_child {child : Tree} {token : Token} {children : List Tree} (h : child ∈ children) :
    Extends (.node token children) child :=
  of_mem (mem_preorder_node.mpr (.inr ⟨child, h, mem_preorder_self child⟩))

/-- If the operands grow, then so does the tree over them. -/
theorem node {token : Token} {large small : List Tree} (h : ExtendsAll large small) :
    Extends (.node token large) (.node token small) := by
  have htokens : ∀ u ∈ preorderAll small, ∃ v ∈ preorderAll large, v.token = u.token := by
    intro u hu
    obtain ⟨y, hy, hu⟩ := mem_preorderAll.mp hu
    obtain ⟨x, hx, hxy⟩ := h y hy
    obtain ⟨v, hv, hvu⟩ := hxy.tokens u hu
    exact ⟨v, mem_preorderAll.mpr ⟨x, hx, hv⟩, hvu⟩
  constructor
  · intro u hu
    rw [preorder_node] at hu ⊢
    rcases List.mem_cons.mp hu with rfl | hu
    · exact ⟨_, List.mem_cons_self, rfl⟩
    · obtain ⟨v, hv, hvu⟩ := htokens u hu
      exact ⟨v, List.mem_cons_of_mem _ hv, hvu⟩
  · intro hlast s hs
    rcases mem_preorder_node.mp hs with rfl | ⟨y, hy, hs⟩
    · intro hkind u hu
      obtain ⟨v, hv, hvu⟩ := htokens u hu
      rw [← hvu]
      exact hlast _ (mem_preorder_self _) hkind v hv
    · obtain ⟨x, hx, hxy⟩ := h y hy
      have hchild : x ∈ preorder (.node token large) :=
        mem_preorder_node.mpr (.inr ⟨x, hx, mem_preorder_self x⟩)
      exact hxy.last (hlast.of_mem hchild) s hs

end Extends

namespace ExtendsAll

theorem refl (trees : List Tree) : ExtendsAll trees trees := fun y hy => ⟨y, hy, .refl y⟩

theorem trans {xs ys zs : List Tree} (hxy : ExtendsAll xs ys) (hyz : ExtendsAll ys zs) :
    ExtendsAll xs zs := by
  intro z hz
  obtain ⟨y, hy, hyz⟩ := hyz z hz
  obtain ⟨x, hx, hxy⟩ := hxy y hy
  exact ⟨x, hx, hxy.trans hyz⟩

theorem nil (trees : List Tree) : ExtendsAll trees [] := by
  intro y hy
  cases hy

theorem singleton {x y : Tree} (h : Extends x y) : ExtendsAll [x] [y] := by
  intro z hz
  rw [List.mem_singleton.mp hz]
  exact ⟨x, List.mem_singleton_self x, h⟩

theorem append {xs ys : List Tree} (trees : List Tree) (h : ExtendsAll xs ys) :
    ExtendsAll (trees ++ xs) (trees ++ ys) := by
  intro y hy
  rcases List.mem_append.mp hy with hy | hy
  · exact ⟨y, List.mem_append_left _ hy, .refl y⟩
  · obtain ⟨x, hx, hxy⟩ := h y hy
    exact ⟨x, List.mem_append_right _ hx, hxy⟩

end ExtendsAll
end Tree

namespace Parser

open Cursor (due called read fielded)
open Formula.Tree (Extends ExtendsAll)

variable {L : Language}

/-! ## The tree under construction -/

namespace Context

/-- The trees that come out if the given ones fill the open place and nothing follows. -/
def fill : Context L → List Tree → List Tree
  | top, hole => hole
  | before sign outer, hole => outer.fill [.node sign.bound hole]
  | after sign outer, hole => outer.fill [.node sign.bound hole]
  | between left sign outer, hole => outer.fill [.node sign.bound ([left] ++ hole)]
  | group _ outer, hole => outer.fill hole
  | call callee arguments outer, hole => outer.fill [.node callee.bound (arguments ++ hole)]
  | index array bracket outer, hole => outer.fill [.node (indexToken bracket) ([array] ++ hole)]

theorem fill_mono (c : Context L) {large small : List Tree} (h : ExtendsAll large small) :
    ExtendsAll (c.fill large) (c.fill small) := by
  induction c generalizing large small with
  | top => exact h
  | before sign outer ih => exact ih (.singleton (.node h))
  | after sign outer ih => exact ih (.singleton (.node h))
  | between left sign outer ih => exact ih (.singleton (.node (h.append [left])))
  | group paren outer ih => exact ih h
  | call callee arguments outer ih => exact ih (.singleton (.node (h.append arguments)))
  | index array bracket outer ih => exact ih (.singleton (.node (h.append [array])))

theorem fill_settle {now : Operator → Bool} {c d : Context L} {x y : Tree}
    (h : c.settle now x = (d, y)) : d.fill [y] = c.fill [x] := by
  refine settle_keeps (I := fun d y => d.fill [y] = c.fill [x]) h rfl ?_ ?_ ?_
  · intro sign outer z _ h
    exact h
  · intro sign outer z _ h
    exact h
  · intro left sign outer z _ h
    exact h

/-- What fills the open place is part of what comes out. -/
theorem fill_extends (c : Context L) (x : Tree) : ExtendsAll (c.fill [x]) [x] := by
  induction c generalizing x with
  | top => exact .refl _
  | before sign outer ih => exact (ih _).trans (.singleton (.of_child (by simp)))
  | after sign outer ih => exact (ih _).trans (.singleton (.of_child (by simp)))
  | between left sign outer ih => exact (ih _).trans (.singleton (.of_child (by simp)))
  | group paren outer ih => exact ih x
  | call callee arguments outer ih => exact (ih _).trans (.singleton (.of_child (by simp)))
  | index array bracket outer ih => exact (ih _).trans (.singleton (.of_child (by simp)))

end Context

namespace Cursor

/-- The trees that come out if nothing follows. -/
def trees : Cursor L → List Tree
  | due c | called _ c => c.fill []
  | read c x | fielded _ c x => c.fill [x]

/-- A move only adds to the trees. -/
theorem Move.extends {t : Token} {cursor next : Cursor L} (h : Move L t cursor next) :
    ExtendsAll next.trees cursor.trees := by
  cases h with
  | leaf kind => exact Context.fill_mono _ (.nil _)
  | function kind => exact .refl _
  | openGroup kind => exact .refl _
  | openCall callee kind => exact Context.fill_mono _ (.nil _)
  | before sign => exact Context.fill_mono _ (.nil _)
  | between sign settled =>
    simp only [trees, Context.fill, ← Context.fill_settle settled]
    exact Context.fill_mono _ (.singleton (.of_child (by simp)))
  | after sign settled =>
    simp only [trees, Context.fill, ← Context.fill_settle settled]
    exact Context.fill_mono _ (.singleton (.of_child (by simp)))
  | openIndex kind settled =>
    simp only [trees, Context.fill, ← Context.fill_settle settled]
    exact Context.fill_mono _ (.singleton (.of_child (by simp)))
  | separator kind settled =>
    simp only [trees, ← Context.fill_settle settled]
    exact .refl _
  | field kind => exact Context.fill_mono _ (.singleton (.of_child (by simp)))
  | comma kind settled =>
    simp only [trees, ← Context.fill_settle settled, Context.fill, List.append_nil]
    exact .refl _
  | closeGroup kind settled =>
    simp only [trees, ← Context.fill_settle settled, Context.fill]
    exact .refl _
  | closeCall kind settled accepted =>
    simp only [trees, ← Context.fill_settle settled, Context.fill]
    exact .refl _
  | closeEmpty kind accepted =>
    simp only [trees, Context.fill]
    exact Context.fill_mono _ (.refl _)
  | closeIndex kind settled =>
    simp only [trees, ← Context.fill_settle settled, Context.fill]
    exact .refl _

/-- A sign that stands behind an operand waits in front of the cursor. -/
theorem Move.eq_after {t : Token} {cursor next : Cursor L} (h : Move L t cursor next)
    (sign : Sign L .after) (ht : sign.token = t) : ∃ d x, next = read (.after sign d) x := by
  have hkind : t.kind = .postfixOperator := ht ▸ sign.kind_eq
  cases h with
  | after other settled =>
    have hsame : other = sign := Sign.eq_of_token ht.symm
    subst hsame
    exact ⟨_, _, rfl⟩
  | leaf kind => rcases kind with kind | kind | kind <;> simp [kind] at hkind
  | function kind | openGroup kind | openCall _ kind | openIndex kind _ | separator kind _
  | field kind | comma kind _ | closeGroup kind _ | closeCall kind _ _ | closeEmpty kind _
  | closeIndex kind _ => simp [kind] at hkind
  | before other => simp [other.kind_eq, Fixity.tokenKind] at hkind
  | between other settled => simp [other.kind_eq, Fixity.tokenKind] at hkind

theorem not_postfixLast (sign : Sign L .after) {u : Tree} {children : List Tree}
    (hu : u ∈ Tree.preorderAll children) (h : sign.token.position ≤ u.token.position) :
    ¬ (Tree.node sign.bound children).PostfixLast := by
  intro hlast
  have := hlast _ (Tree.mem_preorder_self _) sign.bound_kind u hu
  exact Nat.lt_irrefl _ (Nat.lt_of_lt_of_le this h)

theorem exists_of_not_released {s t : Token} (h : ¬ Token.Released L s t) :
    ∃ waiting : Sign L .after, waiting.token = s ∧ ∃ fixity, fixity ≠ .before ∧
      ∃ sign : Sign L fixity, sign.token = t ∧ ¬ L.Outranks waiting.operator sign.operator := by
  by_contra hnone
  refine h fun {fixity} p q hfixity hp hq => ?_
  by_contra hrank
  exact hnone ⟨p, hp, fixity, hfixity, q, hq, hrank⟩

/-- An operator that waits behind its operand and does not outrank the next one draws it in. -/
theorem Move.misplaced {t : Token} {d : Context L} {x : Tree} {next : Cursor L}
    {waiting : Sign L .after} {fixity : Fixity} {sign : Sign L fixity}
    (h : Move L t (read (.after waiting d) x) next) (ht : sign.token = t)
    (hrank : ¬ L.Outranks waiting.operator sign.operator)
    (hposition : waiting.token.position ≤ t.position) :
    ∃ y ∈ next.trees, ¬ y.PostfixLast := by
  have hkind : t.kind = fixity.tokenKind := ht ▸ sign.kind_eq
  have hwaits : sign.releases waiting.operator = false := by
    rw [← Bool.not_eq_true, sign.releases_iff]
    exact hrank
  -- The two operators as they come to stand in the tree.
  have hdrawn : ∀ children, ∃ y ∈ d.fill [.node waiting.bound [.node sign.bound children]],
      ¬ y.PostfixLast := by
    intro children
    obtain ⟨y, hy, hextends⟩ := d.fill_extends (.node waiting.bound [.node sign.bound children])
      _ (List.mem_singleton_self _)
    have hmem : Tree.node sign.bound children ∈
        Tree.preorderAll [Tree.node sign.bound children] :=
      Tree.mem_preorderAll.mpr ⟨_, List.mem_singleton_self _, Tree.mem_preorder_self _⟩
    refine ⟨y, hy, fun hlast => not_postfixLast waiting hmem ?_ (hextends.last hlast)⟩
    rwa [← ht] at hposition
  cases h with
  | between other settled =>
    cases fixity with
    | between =>
      have hsame : other = sign := Sign.eq_of_token ht.symm
      subst hsame
      simp only [Context.settle, hwaits] at settled
      cases settled
      exact hdrawn [x]
    | before | after => simp [other.kind_eq, Fixity.tokenKind] at hkind
  | after other settled =>
    cases fixity with
    | after =>
      have hsame : other = sign := Sign.eq_of_token ht.symm
      subst hsame
      simp only [Context.settle, hwaits] at settled
      cases settled
      exact hdrawn [x]
    | before | between => simp [other.kind_eq, Fixity.tokenKind] at hkind
  | openIndex kind _ | separator kind _ | comma kind _ | closeGroup kind _ | closeCall kind _ _
  | closeIndex kind _ => cases fixity <;> simp [kind, Fixity.tokenKind] at hkind

theorem Moves.eq_after {tokens : List Token} {cursor : Cursor L} (h : Moves L tokens cursor)
    (sign : Sign L .after) (hlast : tokens.getLast? = some sign.token) :
    ∃ d x, cursor = read (.after sign d) x := by
  cases h with
  | start => cases hlast
  | move _ hmove => exact hmove.eq_after sign (by simpa using hlast.symm)

/-- Either every operator behind its operand outranks the next operator, or one of them is not
    behind all of its operand. -/
theorem Moves.misplaced {tokens : List Token} {cursor : Cursor L} (h : Moves L tokens cursor)
    (hpositions : tokens.Pairwise fun a b => a.position ≤ b.position) :
    tokens.IsChain (Token.Released L) ∨ ∃ y ∈ cursor.trees, ¬ y.PostfixLast := by
  induction h with
  | start => exact .inl .nil
  | @move tokens t cursor next hmoves hmove ih =>
    obtain ⟨hbefore, -, hlast⟩ := List.pairwise_append.mp hpositions
    rcases ih hbefore with hchain | ⟨y, hy, hmisplaced⟩
    · by_cases hreleased : ∀ s, tokens.getLast? = some s → Token.Released L s t
      · left
        refine List.isChain_append.mpr ⟨hchain, .singleton t, fun s hs u hu => ?_⟩
        cases Option.some.inj hu
        exact hreleased s hs
      · right
        simp only [not_forall] at hreleased
        obtain ⟨s, hs, hreleased⟩ := hreleased
        obtain ⟨waiting, rfl, fixity, _, sign, hsign, hrank⟩ := exists_of_not_released hreleased
        obtain ⟨d, x, rfl⟩ := hmoves.eq_after waiting hs
        exact hmove.misplaced hsign hrank (hlast _ (List.mem_of_getLast? hs) t List.mem_cons_self)
    · obtain ⟨x, hx, hextends⟩ := hmove.extends y hy
      exact .inr ⟨x, hx, fun hpostfix => hmisplaced (hextends.last hpostfix)⟩

end Cursor
end Parser

/-! ## Places of tokens -/

namespace Token

/-- What is kept of a token is in its place, and it begins an operand if the token does. -/
theorem eq_of_kept? {token kept : Token} (h : token.kept? = some kept) :
    kept.position = token.position ∧ kept.kind.startsValue = token.kind.startsValue := by
  unfold kept? at h
  split at h
  all_goals cases h
  · rename_i hkind
    exact ⟨rfl, by rw [hkind]; rfl⟩
  · exact ⟨rfl, rfl⟩

theorem pairwise_written {tokens : List Token} (h : tokens.Pairwise Precedes) :
    (written tokens).Pairwise Precedes := by
  apply h.filterMap kept?
  intro a b hab a' ha b' hb
  obtain ⟨hposition, _⟩ := eq_of_kept? ha
  obtain ⟨hposition', hkind⟩ := eq_of_kept? hb
  unfold Precedes
  rw [hposition, hposition', hkind]
  exact hab

end Token

namespace Tree

/-- In a tree that is read from left to right, every operator behind its operand is. -/
theorem postfixLast_of_inorder {tree : Tree} (h : tree.inorder.Pairwise Token.Precedes) :
    tree.PostfixLast := by
  intro s hs hkind u hu
  have hs := h.sublist (inorder_within hs).sublist
  obtain ⟨token, children⟩ := s
  have hkind : token.kind = .postfixOperator := hkind
  have horder : inorder (.node token children) = inorderAll children ++ [token] := by
    unfold inorder
    rw [hkind]
  rw [horder] at hs
  obtain ⟨child, hchild, hu⟩ := mem_preorderAll.mp hu
  have hmem : u.token ∈ inorderAll children :=
    (inorder_within_all hchild).subset (token_mem_inorder hu)
  apply ((List.pairwise_append.mp hs).2.2 _ hmem token List.mem_cons_self).2
  rw [hkind]
  rfl

/-- In the tree of a formula every operator behind its operand stands behind all of it exactly if
    each one outranks the operator that comes right after it. -/
theorem postfixLast_iff {L : Language} {text : String} {tree : Tree} (h : parse L text = .ok tree) :
    ∃ tokens, Token.scan L text = .ok tokens ∧
      (tree.PostfixLast ↔ (Token.joined none tokens).IsChain (Token.Released L)) := by
  obtain ⟨tokens, c, x, hscan, hmoves, hsettled⟩ := moves_of_parse h
  have hpairs := @Token.pairwise_joined none _ (Token.scan_positions hscan)
  refine ⟨tokens, hscan, fun hlast => ?_, fun hchain => ?_⟩
  · rcases hmoves.misplaced (hpairs.imp fun h => h.1) with hchain | ⟨y, hy, hmisplaced⟩
    · exact hchain
    · have htrees : (Parser.Cursor.read c x).trees = [tree] :=
        (Parser.Context.fill_settle hsettled).symm
      rw [htrees, List.mem_singleton] at hy
      exact absurd (hy ▸ hlast) hmisplaced
  · have hread := inorder_of_moves hmoves hsettled hchain
    have hmap : (tree.inorder.map Token.bare).Pairwise Token.Precedes := by
      rw [hread]
      exact Token.pairwise_written hpairs
    have hpairs : tree.inorder.Pairwise (fun a b => a.bare.Precedes b.bare) :=
      List.pairwise_map.mp hmap
    exact postfixLast_of_inorder hpairs

/-- Where the power operator binds more tightly than the operator behind the first operand, the
    latter is applied to the power. -/
theorem postfixLast_iff_exclaiming : ∃ tree tokens,
    parse (.exclaiming { Settings.standard with powerPrecedence := 200 }) "a! ^ b" = .ok tree ∧
    Token.scan (.exclaiming { Settings.standard with powerPrecedence := 200 }) "a! ^ b" =
      .ok tokens ∧
    ¬ tree.PostfixLast ∧
    ¬ (Token.joined none tokens).IsChain
      (Token.Released (.exclaiming { Settings.standard with powerPrecedence := 200 })) := by
  have hmisplaced : (match
      parse (.exclaiming { Settings.standard with powerPrecedence := 200 }) "a! ^ b" with
    | .ok tree => decide (¬ tree.PostfixLast)
    | .error _ => false) = true := by
    decide +kernel
  split at hmisplaced
  · rename_i tree hparse
    have hmisplaced : ¬ tree.PostfixLast := of_decide_eq_true hmisplaced
    obtain ⟨tokens, hscan, hiff⟩ := postfixLast_iff hparse
    exact ⟨tree, tokens, hparse, hscan, hmisplaced, fun hchain => hmisplaced (hiff.mpr hchain)⟩
  · cases hmisplaced

end Tree
end Formula

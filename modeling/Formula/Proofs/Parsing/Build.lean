-- SUMMARY: The parser builds the tree of the walk over all tokens, and refuses tokens that have no walk.
import Formula.Proofs.Parsing.Simulation

/-!
# The tree of a walk

`Tree.build?` is the tree that the walk over a list of tokens ends with. The parser yields this tree
or finds it too deep, and it yields none where the walk does not get through.
-/

namespace Formula
namespace Parser

open Cursor (due called read fielded)

variable {L : Language}

/-! ## Steps -/

/-- What stands before a token is joined to it by a multiplication sign where one is needed. -/
def join (L : Language) (t : Token) (parser : Parser) : Except ParseError Parser :=
  if t.kind.startsValue && parser.awaitedField.isNone then joinAdjacent L t parser else .ok parser

theorem step_eq (t : Token) (parser : Parser) :
    step L parser t = (join L t parser >>= fun parser => take L t parser >>= fun parser =>
      .ok { parser with previous := some t.kind }) := by
  unfold step join
  split <;> rfl

theorem parser_previous (previous : Option TokenKind) (cursor : Cursor L) :
    (cursor.parser previous).previous = previous := by
  cases cursor <;> rfl

/-- No multiplication sign is read where no two operands stand side by side. -/
theorem join_of_not_adjacent {previous : Option TokenKind} {t : Token} {cursor : Cursor L}
    (h : Token.isAdjacent previous t = false) :
    join L t (cursor.parser previous) = .ok (cursor.parser previous) := by
  unfold join joinAdjacent
  rw [parser_previous]
  split
  · rename_i hboth
    have hstarts : t.kind.startsValue = true := (Bool.and_eq_true_iff.mp hboth).1
    cases previous with
    | none => rfl
    | some kind =>
      simp only [Token.isAdjacent, hstarts, Bool.and_true] at h
      simp [h]
  · rfl

/-- Between two operands the parser reads a multiplication sign, if there is one and they may be
    joined. -/
theorem join_of_adjacent {previous : Option TokenKind} {t : Token} {c : Context L} {x : Tree}
    (h : Token.isAdjacent previous t = true) :
    join L t ((read c x).parser previous) =
      if L.mayJoin previous t && (L.operators.find? .between "*").isSome then
        take L (Token.star t) ((read c x).parser previous)
      else .error (errorAt t .missingOperator) := by
  unfold Token.isAdjacent at h
  split at h
  · rename_i kind
    obtain ⟨hends, hstarts⟩ := Bool.and_eq_true_iff.mp h
    cases hfound : L.operators.find? .between "*" with
    | none => simp [join, Cursor.parser, joinAdjacent, hstarts, hends, hfound]
    | some operator =>
      have hresolve : resolve L (Token.star t) = .ok operator := by
        simp [resolve, Token.star, TokenKind.fixity?, hfound]
      have htake : take L (Token.star t) ((read c x).parser (some kind)) =
          pushOperator L (Token.star t) operator ((read c x).parser (some kind)) := by
        unfold take
        rw [hresolve]
        rfl
      rw [htake]
      simp only [join, Cursor.parser, joinAdjacent, hstarts, hends, hfound, Option.isNone_none,
        Option.isSome_some, Bool.and_true]
      cases hjoin : L.mayJoin (some kind) t with
      | true =>
        simp only [Language.mayJoin, Bool.and_eq_true, bne_iff_ne, ne_eq, Option.some.injEq]
          at hjoin
        simp [hjoin, Token.star]
      | false =>
        simp only [Language.mayJoin, Bool.and_eq_false_imp, bne_eq_false_iff_eq, Bool.and_eq_true,
          bne_iff_ne, ne_eq, Option.some.injEq] at hjoin
        have hrefused : L.settings.implicitMultiplication = true → ¬ kind = .text →
            ¬ t.kind = .text → False :=
          fun himplicit hkind htext => htext (hjoin ⟨himplicit, hkind⟩)
        simpa using fun himplicit hkind htext => (hrefused himplicit hkind htext).elim
  · cases h

/-- Where operands stand side by side, the first one is complete. -/
theorem read_of_adjacent {previous : Option TokenKind} {t : Token} {cursor : Cursor L}
    (hagrees : cursor.Agrees previous) (h : Token.isAdjacent previous t = true) :
    ∃ c x, cursor = read c x := by
  unfold Token.isAdjacent at h
  split at h
  · rename_i kind
    have hends := (Bool.and_eq_true_iff.mp h).1
    cases cursor with
    | read c x => exact ⟨c, x, rfl⟩
    | due c =>
      have := (hagrees kind rfl).1
      simp [hends] at this
    | called call c =>
      have hkind := Option.some.inj hagrees.1
      simp [hkind, TokenKind.endsValue] at hends
    | fielded separator c x =>
      have hkind := Option.some.inj hagrees.1
      simp [hkind, TokenKind.endsValue] at hends
  · cases h

/-- A multiplication sign can be read behind an operand if the language has one. -/
theorem isSome_take_star {t : Token} {c : Context L} {x : Tree} :
    ((read c x).take (Token.star t)).isSome = (L.operators.find? .between "*").isSome := by
  have hkind : (Token.star t).kind = Fixity.between.tokenKind := rfl
  have hsign := Sign.isSome_of? (L := L) hkind
  simpa [Cursor.take, Token.star] using hsign

theorem due_of_take_star {t : Token} {c : Context L} {x : Tree} {next : Cursor L}
    (h : (read c x).take (Token.star t) = some next) :
    ∃ d, next = due d ∧ d.frames = c.frames := by
  obtain ⟨sign, _, rfl⟩ := Option.map_eq_some_iff.mp h
  exact ⟨_, rfl, c.settle_frames _ x⟩

/-- Reading a token moves the cursor over it. -/
theorem step_of_step {previous : Option TokenKind} {t : Token} {cursor next : Cursor L}
    (hagrees : cursor.Agrees previous) (h : cursor.step previous t = some next) :
    OkWithin L next.height (step L (cursor.parser previous) t) (next.parser (some t.kind)) := by
  have htake : ∀ {middle : Cursor L}, middle.take t = some next →
      OkWithin L next.height (take L t (middle.parser previous) >>= fun parser =>
        .ok { parser with previous := some t.kind }) (next.parser (some t.kind)) := by
    intro middle htake
    refine (take_of_move (Cursor.move_of_take htake) previous).bind (.inl ?_)
    cases next <;> rfl
  rw [step_eq]
  rcases Cursor.step_cases h with
    ⟨hadjacent, hmove⟩ | ⟨hadjacent, hjoin, between, hstar, hmove⟩
  · rw [join_of_not_adjacent hadjacent]
    exact htake hmove
  · obtain ⟨c, x, rfl⟩ := read_of_adjacent hagrees hadjacent
    have hknown : (L.operators.find? .between "*").isSome = true := by
      rw [← isSome_take_star, hstar]
      rfl
    have hmul := take_of_move (Cursor.move_of_take hstar) previous
    rw [join_of_adjacent hadjacent, hjoin, hknown]
    exact (hmul.mono (Cursor.move_of_take hmove).height_le).bind (htake hmove)

/-- The parser refuses a token over which the cursor cannot step. -/
theorem step_error {previous : Option TokenKind} {t : Token} {cursor : Cursor L}
    (hagrees : cursor.Agrees previous) (hfits : Token.Fits L previous t)
    (h : cursor.step previous t = none) :
    ∃ error, step L (cursor.parser previous) t = .error error := by
  rw [step_eq]
  unfold Cursor.step at h
  split at h
  · rename_i hadjacent
    obtain ⟨c, x, rfl⟩ := read_of_adjacent hagrees hadjacent
    have hnever : ∀ between : Cursor L, (read c x).take (Token.star t) = some between →
        between.take t ≠ none := by
      intro between hstar hnone
      have hstarts : t.kind.startsValue = true := by
        cases previous with
        | none => cases hadjacent
        | some kind => exact (Bool.and_eq_true_iff.mp hadjacent).2
      obtain ⟨d, rfl, _⟩ := due_of_take_star hstar
      cases hkind : t.kind <;> simp [Cursor.take, hkind, TokenKind.startsValue] at hnone hstarts
    rw [join_of_adjacent hadjacent, ← isSome_take_star (c := c) (x := x)]
    split at h
    · cases hstar : (read c x).take (Token.star t) with
      | none =>
        refine ⟨errorAt t .missingOperator, ?_⟩
        simp
        rfl
      | some between => exact absurd (by simpa [hstar] using h) (hnever between hstar)
    · rename_i hjoin
      refine ⟨errorAt t .missingOperator, ?_⟩
      simp [hjoin]
      rfl
  · rename_i hadjacent
    have hadjacent : Token.isAdjacent previous t = false := by simpa using hadjacent
    obtain ⟨error, herror⟩ := take_error hagrees hfits hadjacent h
    rw [join_of_not_adjacent hadjacent]
    refine ⟨error, ?_⟩
    change (take L t (cursor.parser previous) >>= _) = _
    rw [herror]
    rfl

theorem height_le_of_step {previous : Option TokenKind} {t : Token} {cursor next : Cursor L}
    (h : cursor.step previous t = some next) : cursor.height ≤ next.height := by
  rcases Cursor.step_cases h with ⟨_, hmove⟩ | ⟨_, _, between, hstar, hmove⟩
  · exact (Cursor.move_of_take hmove).height_le
  · exact Nat.le_trans (Cursor.move_of_take hstar).height_le (Cursor.move_of_take hmove).height_le

/-! ## All tokens -/

theorem height_le_of_run {previous : Option TokenKind} {ts : List Token} {cursor last : Cursor L}
    (h : Cursor.run previous cursor ts = some last) : cursor.height ≤ last.height := by
  induction ts generalizing previous cursor with
  | nil =>
    cases h
    exact Nat.le_refl _
  | cons t ts ih =>
    obtain ⟨next, hstep, h⟩ := Cursor.step_of_run h
    exact Nat.le_trans (height_le_of_step hstep) (ih h)

/-- Reading tokens moves the cursor over them. -/
theorem foldlM_of_run {previous : Option TokenKind} {ts : List Token} {cursor last : Cursor L}
    (hagrees : cursor.Agrees previous) (h : Cursor.run previous cursor ts = some last) :
    OkWithin L last.height (ts.foldlM (step L) (cursor.parser previous))
      (last.parser (Token.kindAfter previous ts)) := by
  induction ts generalizing previous cursor with
  | nil =>
    cases h
    exact .ok
  | cons t ts ih =>
    obtain ⟨next, hstep, h⟩ := Cursor.step_of_run h
    rw [List.foldlM_cons]
    apply ((step_of_step hagrees hstep).mono (height_le_of_run h)).bind
    exact ih (Cursor.step_agrees hstep) h

/-- The parser refuses tokens over which the cursor cannot walk. -/
theorem foldlM_error {previous : Option TokenKind} {ts : List Token} {cursor : Cursor L}
    (hagrees : cursor.Agrees previous) (hstream : Token.Stream L previous ts)
    (h : Cursor.run previous cursor ts = none) :
    ∃ error, ts.foldlM (step L) (cursor.parser previous) = .error error := by
  induction hstream generalizing cursor with
  | nil => cases h
  | @cons previous t ts hfits _ ih =>
    rw [List.foldlM_cons]
    simp only [Cursor.run] at h
    split at h
    · rename_i next hstep
      exact (step_of_step hagrees hstep).bind_error (ih (Cursor.step_agrees hstep) h)
    · rename_i hstep
      obtain ⟨error, herror⟩ := step_error hagrees hfits hstep
      rw [herror]
      exact ⟨error, rfl⟩

theorem finish_of_finish {previous : Option TokenKind} {cursor : Cursor L} {tree : Tree}
    (h : cursor.finish = some tree) (position : Nat) :
    OkWithin L tree.depth (finish L position (cursor.parser previous)) tree := by
  obtain ⟨c, x, rfl, hsettled⟩ := Cursor.settled_of_finish h
  exact (settle_read hsettled previous).bind .ok

theorem finish_error {previous : Option TokenKind} {cursor : Cursor L}
    (h : cursor.finish = none) (position : Nat) :
    ∃ error, finish L position (cursor.parser previous) = .error error := by
  cases cursor with
  | due c =>
    simp only [finish, Cursor.parser, Option.or_none]
    cases hframe : c.isFrame with
    | false =>
      obtain ⟨error, herror⟩ := settleFrame_due_error hframe previous
      simp only [Cursor.parser] at herror
      rw [herror]
      exact ⟨error, rfl⟩
    | true =>
      have hsettle := settle_due (fun _ => true) hframe previous
      simp only [Cursor.parser] at hsettle
      simp only [settleFrame, hsettle]
      cases c with
      | before sign outer => cases hframe
      | after sign outer => cases hframe
      | between left sign outer => cases hframe
      | top => exact ⟨_, rfl⟩
      | group paren outer => exact ⟨_, rfl⟩
      | call callee arguments outer => exact ⟨_, rfl⟩
      | index array bracket outer => exact ⟨_, rfl⟩
  | called call c => exact ⟨_, rfl⟩
  | read c x =>
    obtain ⟨d, y, hsettled, hframe, -⟩ := c.exists_settled x
    apply (settle_read hsettled previous).bind_error
    cases d with
    | before sign outer => cases hframe
    | after sign outer => cases hframe
    | between left sign outer => cases hframe
    | top => simp [Cursor.finish, hsettled] at h
    | group paren outer => exact ⟨_, rfl⟩
    | call callee arguments outer => exact ⟨_, rfl⟩
    | index array bracket outer => exact ⟨_, rfl⟩
  | fielded separator c x => exact ⟨_, rfl⟩

end Parser

/-! ## Trees -/

namespace Tree

open Formula.Parser (Cursor OkWithin)

variable {L : Language}

/-- The tree that the walk over all tokens ends with. -/
def build? (L : Language) (tokens : List Token) : Option Tree :=
  (Cursor.run none (Cursor.start : Cursor L) tokens).bind Cursor.finish

theorem parser_start : (Cursor.start : Cursor L).parser none = Parser.start := rfl

/-- The parser yields the tree of the walk unless it is too deep. -/
theorem ofTokens_of_build? {tokens : List Token} {tree : Tree} (h : build? L tokens = some tree) :
    OkWithin L tree.depth (ofTokens L tokens) tree := by
  obtain ⟨last, hrun, hfinish⟩ := Option.bind_eq_some_iff.mp h
  have hfold := Parser.foldlM_of_run Cursor.agrees_start hrun
  exact (hfold.mono (Cursor.height_le_finish hfinish)).bind (Parser.finish_of_finish hfinish _)

/-- The parser refuses tokens over which there is no walk. -/
theorem ofTokens_error {tokens : List Token} (hstream : Token.Stream L none tokens)
    (h : build? L tokens = none) : ∃ error, ofTokens L tokens = .error error := by
  have hfold := Parser.foldlM_error Cursor.agrees_start hstream
  unfold build? at h
  unfold ofTokens
  cases hrun : Cursor.run none (Cursor.start : Cursor L) tokens with
  | none =>
    obtain ⟨error, herror⟩ := hfold hrun
    rw [parser_start] at herror
    rw [herror]
    exact ⟨error, rfl⟩
  | some last =>
    rw [hrun] at h
    exact (Parser.foldlM_of_run Cursor.agrees_start hrun).bind_error (Parser.finish_error h _)

/-- What the parser yields is the tree of the walk. -/
theorem build?_of_ofTokens {tokens : List Token} (hstream : Token.Stream L none tokens)
    {tree : Tree} (h : ofTokens L tokens = .ok tree) : build? L tokens = some tree := by
  cases hbuild : build? L tokens with
  | none =>
    obtain ⟨error, herror⟩ := ofTokens_error hstream hbuild
    rw [h] at herror
    cases herror
  | some built =>
    rcases ofTokens_of_build? hbuild with hok | ⟨_, token, herror⟩
    · rw [h] at hok
      cases hok
      rfl
    · rw [h] at herror
      cases herror

/-- The tree of a walk is what a sequence of moves ends with. -/
theorem moves_of_build? {tokens : List Token} {tree : Tree} (h : build? L tokens = some tree) :
    ∃ c x, Cursor.Moves L (Token.joined none tokens) (.read c x) ∧
      c.settle (fun _ => true) x = (.top, tree) := by
  obtain ⟨last, hrun, hfinish⟩ := Option.bind_eq_some_iff.mp h
  obtain ⟨c, x, rfl, hsettled⟩ := Cursor.settled_of_finish hfinish
  exact ⟨c, x, Cursor.moves_of_run .start hrun, hsettled⟩

theorem parse_of_scan {text : String} {tokens : List Token} (h : Token.scan L text = .ok tokens) :
    parse L text = ofTokens L tokens := by
  unfold parse
  rw [h]
  rfl

/-- The tree of a text is the tree of the walk over its tokens. -/
theorem build?_of_parse {text : String} {tree : Tree} (h : parse L text = .ok tree) :
    ∃ tokens, Token.scan L text = .ok tokens ∧ build? L tokens = some tree := by
  cases hscan : Token.scan L text with
  | error error =>
    unfold parse at h
    rw [hscan] at h
    cases h
  | ok tokens =>
    rw [parse_of_scan hscan] at h
    exact ⟨tokens, rfl, build?_of_ofTokens (Token.scan_stream hscan) h⟩

theorem moves_of_parse {text : String} {tree : Tree} (h : parse L text = .ok tree) :
    ∃ tokens c x, Token.scan L text = .ok tokens ∧
      Cursor.Moves L (Token.joined none tokens) (.read c x) ∧
      c.settle (fun _ => true) x = (.top, tree) := by
  obtain ⟨tokens, hscan, hbuild⟩ := build?_of_parse h
  obtain ⟨c, x, hmoves, hsettled⟩ := moves_of_build? hbuild
  exact ⟨tokens, c, x, hscan, hmoves, hsettled⟩

/-! ## Depth -/

theorem depth_pos (tree : Tree) : 0 < tree.depth := by
  obtain ⟨token, children⟩ := tree
  simp only [depth]
  omega

end Tree

namespace Parser

/-- The most that what is read so far adds to the depth of what fills the open place. -/
def Context.weight : Context L → Nat
  | top => 0
  | before _ outer | after _ outer => outer.weight + 1
  | between left _ outer => left.depth + outer.weight
  | group _ outer => outer.weight
  | call _ arguments outer => Tree.depthAll arguments + 1 + outer.weight
  | index array _ outer => array.depth + outer.weight

theorem Context.settle_weight {now : Operator → Bool} {c d : Context L} {x y : Tree}
    (h : c.settle now x = (d, y)) : y.depth + d.weight ≤ x.depth + c.weight := by
  refine settle_keeps (I := fun d y => y.depth + d.weight ≤ x.depth + c.weight) h
    (Nat.le_refl _) ?_ ?_ ?_
  · intro sign outer z _ hle
    simp only [weight, Tree.depth, Tree.depthAll] at hle ⊢
    omega
  · intro sign outer z _ hle
    simp only [weight, Tree.depth, Tree.depthAll] at hle ⊢
    omega
  · intro left sign outer z _ hle
    have hleft := left.depth_pos
    have hright := z.depth_pos
    simp only [weight, Tree.depth, Tree.depthAll] at hle ⊢
    omega

namespace Cursor

def weight : Cursor L → Nat
  | due c => c.weight
  | called _ c => c.weight + 1
  | read c x | fielded _ c x => x.depth + c.weight

/-- What adds to the depth of the tree: every token but an operator between two operands. -/
def deepens (token : Token) : Bool := token.kind != .infixOperator

theorem toNat_deepens {token : Token} (h : token.kind ≠ .infixOperator) :
    (deepens token).toNat = 1 := by
  have hdeepens : deepens token = true := bne_iff_ne.mpr h
  rw [hdeepens]
  rfl

theorem Move.weight_le {t : Token} {cursor next : Cursor L} (h : Move L t cursor next) :
    next.weight ≤ cursor.weight + (deepens t).toNat := by
  cases h with
  | @leaf t c kind =>
    have hdeepens : (deepens t).toNat = 1 := by
      rcases kind with kind | kind | kind <;> exact toNat_deepens (by rw [kind]; decide)
    simp only [weight, Tree.leaf, Tree.depth, Tree.depthAll, hdeepens]
    omega
  | @function t c kind =>
    have hdeepens : (deepens t).toNat = 1 := toNat_deepens (by rw [kind]; decide)
    simp only [weight, hdeepens]
    omega
  | openGroup kind => simp [weight, Context.weight]
  | openCall callee kind =>
    simp only [weight, Context.weight, Tree.depthAll]
    omega
  | before sign =>
    have hdeepens : (deepens sign.token).toNat = 1 :=
      toNat_deepens (by rw [sign.kind_eq]; decide)
    simp only [weight, Context.weight, hdeepens]
    omega
  | between sign settled =>
    have := Context.settle_weight settled
    simp only [weight, Context.weight]
    omega
  | after sign settled =>
    have := Context.settle_weight settled
    have hdeepens : (deepens sign.token).toNat = 1 :=
      toNat_deepens (by rw [sign.kind_eq]; decide)
    simp only [weight, Context.weight, hdeepens]
    omega
  | openIndex kind settled =>
    have := Context.settle_weight settled
    simp only [weight, Context.weight]
    omega
  | separator kind settled =>
    have := Context.settle_weight settled
    simp only [weight]
    omega
  | @field t separator c x kind =>
    have hpos := x.depth_pos
    have hdeepens : (deepens t).toNat = 1 := toNat_deepens (by rw [kind]; decide)
    simp only [weight, Tree.leaf, Tree.depth, Tree.depthAll, hdeepens]
    omega
  | comma kind settled =>
    have := Context.settle_weight settled
    simp only [weight, Context.weight, Tree.depthAll_append, Tree.depthAll] at this ⊢
    omega
  | closeGroup kind settled =>
    have := Context.settle_weight settled
    simp only [weight, Context.weight] at this ⊢
    omega
  | closeCall kind settled accepted =>
    have := Context.settle_weight settled
    simp only [weight, Context.weight, Tree.depth, Tree.depthAll_append, Tree.depthAll] at this ⊢
    omega
  | closeEmpty kind accepted =>
    simp only [weight, Context.weight, Tree.depth, Tree.depthAll]
    omega
  | @closeIndex t c x array bracket d y kind settled =>
    have := Context.settle_weight settled
    have harray := array.depth_pos
    have hindex := y.depth_pos
    simp only [weight, Context.weight, Tree.depth, Tree.depthAll] at this ⊢
    omega

theorem Moves.weight_le {ts : List Token} {cursor : Cursor L} (h : Moves L ts cursor) :
    cursor.weight ≤ ts.countP deepens := by
  induction h with
  | start => exact Nat.le_refl _
  | @move ts t cursor next _ hmove ih =>
    have hnext := hmove.weight_le
    have hcount : [t].countP deepens = (deepens t).toNat := by
      cases hdeepens : deepens t <;> simp [hdeepens]
    rw [List.countP_append, hcount]
    omega

end Cursor
end Parser

namespace Tree

open Formula.Parser (Cursor)

/-- The tree of a walk is no deeper than the number of tokens. -/
theorem depth_le_length {tokens : List Token} {tree : Tree} (h : build? L tokens = some tree) :
    tree.depth ≤ tokens.length := by
  obtain ⟨c, x, hmoves, hsettled⟩ := moves_of_build? h
  have hsettle := Parser.Context.settle_weight hsettled
  have hmoves := hmoves.weight_le
  rw [Token.countP_joined fun _ => rfl] at hmoves
  have hcount := List.countP_le_length (p := Cursor.deepens) (l := tokens)
  simp only [Parser.Context.weight, Cursor.weight] at hsettle hmoves
  omega

end Tree
end Formula

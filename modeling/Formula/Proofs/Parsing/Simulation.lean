-- SUMMARY: The parser's stacks are the image of a cursor, and reading a token moves the cursor.
import Formula.Proofs.Parsing.Walk
import Formula.Proofs.Token.Stream
import Formula.Proofs.Tree.Nodes

/-!
# The parser walks

`Cursor.parser` lays a cursor out on the parser's stacks. On tokens as the scanner yields them the
parser stays in the image of a cursor: it reads a token exactly if the cursor can move over it, and
then holds the image of the cursor after the move. The one difference is the limit of depth, which
the cursor does not know: the parser stops where a tree becomes deeper than allowed
(`OkWithin`).
-/

namespace Formula

namespace Operand

/-- A tree with its depth. -/
def of (tree : Tree) : Operand := ⟨tree, tree.depth, rfl⟩

theorem eq_of (operand : Operand) : operand = of operand.tree := by
  obtain ⟨tree, height, rfl⟩ := operand
  rfl

theorem leaf_eq (token : Token) : leaf token = of (Tree.leaf token) := eq_of _

theorem node_eq (token : Token) (trees : List Tree) :
    node token (trees.map of) = of (.node token trees) := by
  rw [eq_of (node token (trees.map of))]
  simp [node, of, Function.comp_def]

end Operand

namespace Parser

open Cursor (due called read fielded)

variable {L : Language}

/-! ## Depth -/

namespace Context

/-- The depth of the deepest complete tree. -/
def height : Context L → Nat
  | top => 0
  | before _ outer | after _ outer | group _ outer => outer.height
  | between left _ outer => max left.depth outer.height
  | call _ arguments outer => max (Tree.depthAll arguments) outer.height
  | index array _ outer => max array.depth outer.height

theorem depth_le_settle (now : Operator → Bool) (c : Context L) (x : Tree) :
    x.depth ≤ (c.settle now x).2.depth := by
  have hnode : ∀ {token : Token} {children : List Tree} {y : Tree}, y ∈ children →
      x.depth ≤ y.depth → x.depth ≤ (Tree.node token children).depth := by
    intro token children y hy hle
    exact Nat.le_trans hle (Nat.le_of_lt (Tree.depth_lt_depth_node hy))
  refine settle_induct (I := fun _ y => x.depth ≤ y.depth) ?_ ?_ ?_ (Nat.le_refl _)
  · intro sign outer y _
    exact hnode (by simp)
  · intro sign outer y _
    exact hnode (by simp)
  · intro left sign outer y _
    exact hnode (by simp)

theorem height_le_of_settle {now : Operator → Bool} {c d : Context L} {x y : Tree}
    (h : c.settle now x = (d, y)) : max x.depth c.height ≤ max y.depth d.height := by
  refine settle_keeps (I := fun d y => max x.depth c.height ≤ max y.depth d.height) h
    (Nat.le_refl _) ?_ ?_ ?_
  · intro sign outer y _ h
    simp only [height, Tree.depth, Tree.depthAll] at h ⊢
    omega
  · intro sign outer y _ h
    simp only [height, Tree.depth, Tree.depthAll] at h ⊢
    omega
  · intro left sign outer y _ h
    simp only [height, Tree.depth, Tree.depthAll] at h ⊢
    omega

end Context

namespace Cursor

/-- The depth of the deepest complete tree. -/
def height : Cursor L → Nat
  | due c | called _ c => c.height
  | read c x | fielded _ c x => max x.depth c.height

/-- No complete tree is lost: each one becomes part of another. -/
theorem Move.height_le {t : Token} {cursor next : Cursor L} (h : Move L t cursor next) :
    cursor.height ≤ next.height := by
  cases h with
  | leaf | function | openGroup | openCall | before | closeEmpty =>
    simp only [height, Context.height, Tree.depthAll]
    omega
  | between sign settled =>
    have := Context.height_le_of_settle settled
    simp only [height, Context.height] at this ⊢
    omega
  | after sign settled =>
    have := Context.height_le_of_settle settled
    simp only [height, Context.height] at this ⊢
    omega
  | openIndex kind settled =>
    have := Context.height_le_of_settle settled
    simp only [height, Context.height] at this ⊢
    omega
  | separator kind settled =>
    have := Context.height_le_of_settle settled
    simpa only [height] using this
  | field =>
    simp only [height, Tree.depth, Tree.depthAll]
    omega
  | comma kind settled =>
    have := Context.height_le_of_settle settled
    simp only [height, Context.height, Tree.depthAll_append, Tree.depthAll] at this ⊢
    omega
  | closeGroup kind settled =>
    have := Context.height_le_of_settle settled
    simpa only [height, Context.height] using this
  | closeCall kind settled =>
    have := Context.height_le_of_settle settled
    simp only [height, Context.height, Tree.depth, Tree.depthAll_append, Tree.depthAll] at this ⊢
    omega
  | closeIndex kind settled =>
    have := Context.height_le_of_settle settled
    simp only [height, Context.height, Tree.depth, Tree.depthAll] at this ⊢
    omega

theorem height_le_finish {cursor : Cursor L} {tree : Tree} (h : cursor.finish = some tree) :
    cursor.height ≤ tree.depth := by
  obtain ⟨c, x, rfl, hsettled⟩ := settled_of_finish h
  simpa [height, Context.height] using Context.height_le_of_settle hsettled

end Cursor

/-! ## Layout on the stacks -/

namespace Context

/-- The complete trees around the open place, the innermost first. -/
def operands : Context L → List Tree
  | top => []
  | before _ outer | after _ outer | group _ outer => outer.operands
  | between left _ outer => left :: outer.operands
  | call _ arguments outer => arguments.reverse ++ outer.operands
  | index array _ outer => array :: outer.operands

/-- The operators that wait and the open brackets, the innermost first. -/
def pending : Context L → List Pending
  | top => []
  | before sign outer => .operator sign.token sign.operator :: outer.pending
  | after sign outer => .operator sign.token sign.operator :: outer.pending
  | between _ sign outer => .operator sign.token sign.operator :: outer.pending
  | group paren outer => .group paren outer.operands.length :: outer.pending
  | call callee arguments outer =>
    .call callee.token callee.function outer.operands.length
      (outer.operands.length + arguments.length) arguments.length :: outer.pending
  | index _ bracket outer => .index bracket (outer.operands.length + 1) :: outer.pending

/-- The number of trees that each open bracket puts out of reach, the innermost first. -/
def floors : Context L → List Nat
  | top => []
  | before _ outer | after _ outer | between _ _ outer => outer.floors
  | group _ outer => outer.operands.length :: outer.floors
  | call _ arguments outer => (outer.operands.length + arguments.length) :: outer.floors
  | index _ _ outer => (outer.operands.length + 1) :: outer.floors

def floor (c : Context L) : Nat := c.floors.headD 0

theorem floor_le (c : Context L) : c.floor ≤ c.operands.length := by
  induction c with
  | before sign outer ih => exact ih
  | after sign outer ih => exact ih
  | between left sign outer ih => exact Nat.le_succ_of_le ih
  | top => exact Nat.le_refl _
  | group paren outer => exact Nat.le_refl _
  | call callee arguments outer => simp [floor, floors, operands, Nat.add_comm]
  | index array bracket outer => exact Nat.le_refl _

/-- Right after a bracket no tree is in reach. -/
theorem floor_eq_of_isFrame {c : Context L} (h : c.isFrame = true) :
    c.floor = c.operands.length := by
  cases c with
  | before sign outer => cases h
  | after sign outer => cases h
  | between left sign outer => cases h
  | top => rfl
  | group paren outer => rfl
  | call callee arguments outer => simp [floor, floors, operands, Nat.add_comm]
  | index array bracket outer => rfl

theorem settle_floors (now : Operator → Bool) (c : Context L) (x : Tree) :
    (c.settle now x).1.floors = c.floors :=
  settle_induct (I := fun d _ => d.floors = c.floors) (fun _ _ _ _ h => h) (fun _ _ _ _ h => h)
    (fun _ _ _ _ _ h => h) rfl

end Context

/-- The stacks that hold a cursor. -/
def Cursor.parser (previous : Option TokenKind) : Cursor L → Parser
  | due c => ⟨c.pending, c.operands.map Operand.of, c.floors, previous, none, none⟩
  | called call c => ⟨c.pending, c.operands.map Operand.of, c.floors, previous, some call, none⟩
  | read c x => ⟨c.pending, (x :: c.operands).map Operand.of, c.floors, previous, none, none⟩
  | fielded separator c x =>
    ⟨c.pending, (x :: c.operands).map Operand.of, c.floors, previous, none, some separator⟩

/-! ## Results up to the limit of depth -/

/-- The result is the given one, or an error because a tree of the given depth is too deep. -/
def OkWithin {α : Type} (L : Language) (depth : Nat) (result : Except ParseError α) (value : α) :
    Prop :=
  result = .ok value ∨
    L.settings.maxNesting < depth ∧
      ∃ token, result = .error (errorAt token (.nestingTooDeep L.settings.maxNesting))

namespace OkWithin

variable {α β : Type} {depth depth' : Nat} {result : Except ParseError α} {value : α}

theorem ok : OkWithin L depth (.ok value) value := .inl rfl

theorem mono (h : OkWithin L depth result value) (hle : depth ≤ depth') :
    OkWithin L depth' result value := by
  rcases h with h | ⟨hlt, htoken⟩
  · exact .inl h
  · exact .inr ⟨Nat.lt_of_lt_of_le hlt hle, htoken⟩

theorem bind (h : OkWithin L depth result value) {next : α → Except ParseError β} {last : β}
    (hnext : OkWithin L depth (next value) last) : OkWithin L depth (result >>= next) last := by
  rcases h with rfl | ⟨hlt, token, rfl⟩
  · exact hnext
  · exact .inr ⟨hlt, token, rfl⟩

theorem bind_error (h : OkWithin L depth result value) {next : α → Except ParseError β}
    (hnext : ∃ error, next value = .error error) : ∃ error, (result >>= next) = .error error := by
  rcases h with rfl | ⟨_, token, rfl⟩
  · exact hnext
  · exact ⟨_, rfl⟩

end OkWithin

/-! ## Applying operators -/

theorem pushOperand_of (tree : Tree) (operands : List Operand) :
    OkWithin L tree.depth (pushOperand L (Operand.of tree) operands)
      (Operand.of tree :: operands) := by
  simp only [pushOperand]
  split
  · exact .inr ⟨‹_›, _, rfl⟩
  · exact .inl rfl

/-- A node takes the topmost trees, of which the last one was read first. -/
theorem pushOperand_node (token : Token) (trees rest : List Tree) {count : Nat}
    (hcount : trees.length = count) :
    OkWithin L (Tree.node token trees.reverse).depth
      (pushOperand L (Operand.node token (topOperands ((trees ++ rest).map Operand.of) count))
        (((trees ++ rest).map Operand.of).drop count))
      ((.node token trees.reverse :: rest).map Operand.of) := by
  have htop : topOperands ((trees ++ rest).map Operand.of) count =
      trees.reverse.map Operand.of := by
    simp [topOperands, ← hcount]
  have hdrop : ((trees ++ rest).map Operand.of).drop count = rest.map Operand.of := by
    simp [← hcount]
  rw [htop, hdrop, Operand.node_eq]
  exact pushOperand_of _ _

theorem reduce_sign {fixity : Fixity} (sign : Sign L fixity) {floor : Nat} (trees : List Tree)
    {rest : List Tree} (hcount : trees.length = fixity.operandCount)
    (hfloor : floor ≤ rest.length) :
    OkWithin L (Tree.node sign.bound trees.reverse).depth
      (reduce L floor sign.token sign.operator ((trees ++ rest).map Operand.of))
      ((.node sign.bound trees.reverse :: rest).map Operand.of) := by
  have henough : ¬ ((trees ++ rest).map Operand.of).length < floor + fixity.operandCount := by
    simp only [List.length_map, List.length_append]
    omega
  simp only [reduce, sign.operandCount_eq, if_neg henough]
  exact pushOperand_node sign.bound trees rest hcount

/-- Applying waiting operators settles the context. -/
theorem reduceWhile_settle (now : Operator → Bool) (c : Context L) (x : Tree) :
    OkWithin L (c.settle now x).2.depth
      (reduceWhile L c.floor now c.pending ((x :: c.operands).map Operand.of))
      ((c.settle now x).1.pending,
        ((c.settle now x).2 :: (c.settle now x).1.operands).map Operand.of) := by
  induction c generalizing x with
  | before sign outer ih =>
    simp only [Context.pending, reduceWhile, Context.settle]
    split
    · have hreduce := reduce_sign sign [x] rfl outer.floor_le
      exact (hreduce.mono (outer.depth_le_settle now _)).bind (ih _)
    · exact .ok
  | after sign outer ih =>
    simp only [Context.pending, reduceWhile, Context.settle]
    split
    · have hreduce := reduce_sign sign [x] rfl outer.floor_le
      exact (hreduce.mono (outer.depth_le_settle now _)).bind (ih _)
    · exact .ok
  | between left sign outer ih =>
    simp only [Context.pending, reduceWhile, Context.settle]
    split
    · have hreduce := reduce_sign sign [x, left] rfl outer.floor_le
      exact (hreduce.mono (outer.depth_le_settle now _)).bind (ih _)
    · exact .ok
  | top => exact .ok
  | group paren outer => exact .ok
  | call callee arguments outer => exact .ok
  | index array bracket outer => exact .ok

theorem settle_read {now : Operator → Bool} {c d : Context L} {x y : Tree}
    (h : c.settle now x = (d, y)) (previous : Option TokenKind) :
    OkWithin L y.depth (settle L now ((read c x).parser previous))
      ((read d y).parser previous) := by
  have hfloors : d.floors = c.floors := by rw [← c.settle_floors now x, h]
  have hreduce := reduceWhile_settle now c x
  rw [h] at hreduce
  refine OkWithin.bind hreduce (.inl ?_)
  simp [Cursor.parser, hfloors]

/-- Behind a bracket there is nothing to apply. -/
theorem settle_due (now : Operator → Bool) {c : Context L} (h : c.isFrame = true)
    (previous : Option TokenKind) :
    settle L now ((due c).parser previous) = .ok ((due c).parser previous) := by
  cases c with
  | before sign outer => cases h
  | after sign outer => cases h
  | between left sign outer => cases h
  | top => rfl
  | group paren outer => rfl
  | call callee arguments outer => rfl
  | index array bracket outer => rfl

theorem length_of_reduce {floor : Nat} {token : Token} {operator : Operator}
    {operands reduced : List Operand}
    (h : reduce L floor token operator operands = .ok reduced) :
    floor + operator.rule.operandCount ≤ operands.length ∧
      reduced.length + operator.rule.operandCount = operands.length + 1 := by
  simp only [reduce, pushOperand] at h
  split at h
  · cases h
  · split at h
    · cases h
    · cases h
      simp only [List.length_cons, List.length_drop]
      omega

/-- Where an operand is missing, the operators of a bracket cannot all be applied. -/
theorem reduceWhile_due (c : Context L) (h : c.isFrame = false) (operands : List Operand)
    (hlength : operands.length = c.operands.length) :
    ∃ error, reduceWhile L c.floor (fun _ => true) c.pending operands = .error error := by
  -- Each operator takes what another one is to stand behind, so the number of operands stays one
  -- short; the last operator finds too few.
  have hstep {fixity : Fixity} (sign : Sign L fixity) (outer : Context L)
      (ih : outer.isFrame = false → ∀ operands : List Operand,
        operands.length = outer.operands.length →
        ∃ error, reduceWhile L outer.floor (fun _ => true) outer.pending operands = .error error)
      (operands : List Operand)
      (hlength : operands.length + 1 = outer.operands.length + fixity.operandCount) :
      ∃ error, reduceWhile L outer.floor (fun _ => true)
        (.operator sign.token sign.operator :: outer.pending) operands = .error error := by
    simp only [reduceWhile, if_true]
    cases hreduce : reduce L outer.floor sign.token sign.operator operands with
    | error error => exact ⟨error, rfl⟩
    | ok reduced =>
      obtain ⟨henough, hreduced⟩ := length_of_reduce hreduce
      rw [sign.operandCount_eq] at henough hreduced
      cases hframe : outer.isFrame with
      | true =>
        have := Context.floor_eq_of_isFrame hframe
        omega
      | false => exact ih hframe _ (by omega)
  induction c generalizing operands with
  | before sign outer ih => exact hstep sign outer ih operands (by rw [hlength]; rfl)
  | after sign outer ih => exact hstep sign outer ih operands (by rw [hlength]; rfl)
  | between left sign outer ih => exact hstep sign outer ih operands (by rw [hlength]; rfl)
  | top => cases h
  | group paren outer => cases h
  | call callee arguments outer => cases h
  | index array bracket outer => cases h

/-! ## Tokens -/

theorem accessField_fielded (separator field : Token) (c : Context L) (x : Tree)
    (previous : Option TokenKind) :
    OkWithin L (Tree.node separator [x, Tree.leaf field]).depth
      (accessField L separator field ((fielded separator c x).parser previous))
      ((read c (.node separator [x, Tree.leaf field])).parser previous) := by
  have henough : ¬ ((x :: c.operands).map Operand.of).length ≤ c.floors.headD 0 := by
    have := c.floor_le
    simp only [Context.floor] at this
    simp only [List.length_map, List.length_cons]
    omega
  have hfield : topOperands ((x :: c.operands).map Operand.of) 1 ++ [Operand.leaf field] =
      [x, Tree.leaf field].map Operand.of := by
    simp [topOperands, Operand.leaf_eq]
  simp only [Cursor.parser, accessField, Parser.floor, if_neg henough, hfield, Operand.node_eq]
  exact (pushOperand_of _ _).bind .ok

/-- After a comma a call has one more complete argument. -/
theorem comma_read {t : Token} {c d : Context L} {callee : Callee L} {arguments : List Tree}
    {x y : Tree} (h : c.settle (fun _ => true) x = (.call callee arguments d, y))
    (previous : Option TokenKind) :
    OkWithin L y.depth (comma L t ((read c x).parser previous))
      ((due (.call callee (arguments ++ [y]) d)).parser previous) := by
  have hcomm : arguments.length + d.operands.length + 1 =
      d.operands.length + (arguments.length + 1) := by omega
  apply (settle_read h previous).bind
  exact .inl (by simp [Cursor.parser, Context.operands, Context.pending, Context.floors, hcomm])

theorem closeParen_group {t paren : Token} {c d : Context L} {x y : Tree}
    (h : c.settle (fun _ => true) x = (.group paren d, y)) (previous : Option TokenKind) :
    OkWithin L y.depth (closeParen L t ((read c x).parser previous))
      ((read d y).parser previous) := by
  apply (settle_read h previous).bind
  exact .inl (by simp [Cursor.parser, Context.operands, Context.pending, Context.floors])

theorem closeParen_call {t : Token} {c d : Context L} {callee : Callee L} {arguments : List Tree}
    {x y : Tree} (h : c.settle (fun _ => true) x = (.call callee arguments d, y))
    (haccepts : callee.function.signature.accepts (arguments.length + 1) = true)
    (previous : Option TokenKind) :
    OkWithin L (Tree.node callee.bound (arguments ++ [y])).depth
      (closeParen L t ((read c x).parser previous))
      ((read d (.node callee.bound (arguments ++ [y]))).parser previous) := by
  have hdepth : y.depth ≤ (Tree.node callee.bound (arguments ++ [y])).depth :=
    Nat.le_of_lt (Tree.depth_lt_depth_node (by simp))
  apply ((settle_read h previous).mono hdepth).bind
  have hlength : ((y :: (arguments.reverse ++ d.operands)).map Operand.of).length =
      d.operands.length + (arguments.length + 1) := by
    simp only [List.length_map, List.length_cons, List.length_append, List.length_reverse]
    omega
  have hmore : d.operands.length + (arguments.length + 1) ≠
      d.operands.length + arguments.length := by omega
  have hnode := pushOperand_node (L := L) callee.bound (y :: arguments.reverse) d.operands
    (show _ = arguments.length + 1 by simp)
  simp only [List.reverse_cons, List.reverse_reverse] at hnode
  simp only [Cursor.parser, Context.operands, Context.pending, Context.floors, hlength,
    decide_eq_false hmore, Nat.add_sub_cancel_left, haccepts]
  exact OkWithin.bind hnode .ok

/-- A call without arguments is closed right behind its parenthesis. -/
theorem closeParen_empty {t : Token} {callee : Callee L}
    (haccepts : callee.function.signature.accepts 0 = true) (d : Context L)
    (previous : Option TokenKind) :
    OkWithin L (Tree.node callee.bound []).depth
      (closeParen L t ((due (.call callee [] d)).parser previous))
      ((read d (.node callee.bound [])).parser previous) := by
  have hnode := pushOperand_node (L := L) callee.bound [] d.operands rfl
  simp only [List.reverse_nil, List.nil_append, List.length_nil] at hnode
  simp only [closeParen, settleFrame]
  rw [settle_due _ rfl]
  apply OkWithin.bind .ok
  simp only [Cursor.parser, Context.operands, Context.pending, Context.floors,
    List.reverse_nil, List.nil_append, List.length_map, List.length_nil, Nat.add_zero,
    Nat.lt_irrefl, decide_false, Bool.and_false, Nat.sub_self, haccepts]
  exact OkWithin.bind hnode .ok

theorem closeBracket_index {t bracket : Token} {c d : Context L} {array x y : Tree}
    (h : c.settle (fun _ => true) x = (.index array bracket d, y)) (previous : Option TokenKind) :
    OkWithin L (Tree.node (indexToken bracket) [array, y]).depth
      (closeBracket L t ((read c x).parser previous))
      ((read d (.node (indexToken bracket) [array, y])).parser previous) := by
  have hdepth : y.depth ≤ (Tree.node (indexToken bracket) [array, y]).depth :=
    Nat.le_of_lt (Tree.depth_lt_depth_node (by simp))
  apply ((settle_read h previous).mono hdepth).bind
  have hnode := pushOperand_node (L := L) (indexToken bracket) [y, array] d.operands rfl
  have hfound : ¬ (((y :: array :: d.operands).map Operand.of).length ≠
      d.operands.length + 1 + 1 ∨ d.operands.length + 1 = 0) := by simp
  change OkWithin L _ (if ((y :: array :: d.operands).map Operand.of).length ≠
    d.operands.length + 1 + 1 ∨ d.operands.length + 1 = 0 then _ else _) _
  rw [if_neg hfound]
  exact OkWithin.bind hnode .ok

/-- The parser reads a token over which the cursor can move, and holds the cursor after the move. -/
theorem take_of_move {t : Token} {cursor next : Cursor L} (hmove : Cursor.Move L t cursor next)
    (previous : Option TokenKind) :
    OkWithin L next.height (take L t (cursor.parser previous)) (next.parser previous) := by
  cases hmove with
  | leaf kind =>
    rcases kind with kind | kind | kind <;>
      simp only [take, kind] <;> exact .inl (by simp [Cursor.parser, Operand.leaf_eq])
  | function kind =>
    simp only [take, kind]
    exact .ok
  | openGroup kind =>
    simp only [take, kind, openParen, Cursor.parser]
    exact .inl (by simp [Context.operands, Context.pending, Context.floors])
  | openCall callee kind =>
    simp only [take, kind, openParen, Cursor.parser, callee.found]
    exact .inl (by simp [Context.operands, Context.pending, Context.floors])
  | before sign =>
    simp only [take, sign.kind_eq, Fixity.tokenKind, sign.resolve_token]
    exact .ok
  | @between c x d y sign settled =>
    simp only [take, sign.kind_eq, Fixity.tokenKind, sign.resolve_token]
    refine ((settle_read settled previous).mono ?_).bind .ok
    simp only [Cursor.height, Context.height]
    omega
  | @after c x d y sign settled =>
    simp only [take, sign.kind_eq, Fixity.tokenKind, sign.resolve_token]
    refine ((settle_read settled previous).mono ?_).bind .ok
    simp only [Cursor.height, Context.height]
    omega
  | @openIndex t c x d y kind settled =>
    simp only [take, kind]
    refine ((settle_read settled previous).mono ?_).bind ?_
    · simp only [Cursor.height, Context.height]
      omega
    · exact .inl (by simp [Cursor.parser, Context.operands, Context.pending, Context.floors])
  | @separator t c x d y kind settled =>
    simp only [take, kind]
    refine ((settle_read settled previous).mono ?_).bind .ok
    simp only [Cursor.height]
    omega
  | field kind =>
    simp only [take, kind, Cursor.parser]
    exact (accessField_fielded _ _ _ _ previous).mono (Nat.le_max_left _ _)
  | comma kind settled =>
    simp only [take, kind]
    refine (comma_read settled previous).mono ?_
    simp only [Cursor.height, Context.height, Tree.depthAll_append, Tree.depthAll]
    omega
  | closeGroup kind settled =>
    simp only [take, kind]
    exact (closeParen_group settled previous).mono (Nat.le_max_left _ _)
  | closeCall kind settled accepted =>
    simp only [take, kind]
    exact (closeParen_call settled accepted previous).mono (Nat.le_max_left _ _)
  | closeEmpty kind accepted =>
    simp only [take, kind]
    exact (closeParen_empty accepted _ previous).mono (Nat.le_max_left _ _)
  | closeIndex kind settled =>
    simp only [take, kind]
    exact (closeBracket_index settled previous).mono (Nat.le_max_left _ _)

theorem settleFrame_due_error {c : Context L} (h : c.isFrame = false)
    (previous : Option TokenKind) :
    ∃ error, settleFrame L ((due c).parser previous) = .error error := by
  obtain ⟨error, herror⟩ := reduceWhile_due c h (c.operands.map Operand.of) (by simp)
  refine ⟨error, ?_⟩
  simp only [settleFrame, settle, Cursor.parser, Parser.floor]
  simp only [Context.floor] at herror
  rw [herror]
  rfl

/-- Where an operand is missing, nothing can be closed but a call without arguments. -/
theorem close_due_error {t : Token} {c : Context L} {previous : Option TokenKind} :
    (∃ error, comma L t ((due c).parser previous) = .error error) ∧
    (∃ error, closeBracket L t ((due c).parser previous) = .error error) ∧
    (Cursor.closeEmpty c = none →
      ∃ error, closeParen L t ((due c).parser previous) = .error error) := by
  cases hframe : c.isFrame with
  | false =>
    obtain ⟨error, herror⟩ := settleFrame_due_error hframe previous
    simp only [comma, closeBracket, closeParen, herror]
    exact ⟨⟨error, rfl⟩, ⟨error, rfl⟩, fun _ => ⟨error, rfl⟩⟩
  | true =>
    have hsettle := settle_due (fun _ => true) hframe previous
    simp only [comma, closeBracket, closeParen, settleFrame, hsettle]
    cases c with
    | before sign outer => cases hframe
    | after sign outer => cases hframe
    | between left sign outer => cases hframe
    | top => exact ⟨⟨_, rfl⟩, ⟨_, rfl⟩, fun _ => ⟨_, rfl⟩⟩
    | group paren outer =>
      refine ⟨⟨_, rfl⟩, ⟨_, rfl⟩, fun _ => ⟨errorAt t .unexpectedToken, ?_⟩⟩
      simp [Cursor.parser, Context.operands, Context.pending, bind, Except.bind]
    | index array bracket outer =>
      refine ⟨⟨_, rfl⟩, ⟨errorAt t .unexpectedToken, ?_⟩, fun _ => ⟨_, rfl⟩⟩
      simp [Cursor.parser, Context.operands, Context.pending, bind, Except.bind]
    | call callee arguments outer =>
      refine ⟨⟨errorAt callee.token .emptyArgument, ?_⟩, ⟨_, rfl⟩, fun hclose => ?_⟩
      · simp [Cursor.parser, Context.operands, Context.pending, bind, Except.bind, Nat.add_comm]
      · cases arguments with
        | nil =>
          have hcount : callee.function.signature.accepts 0 = false := by
            simpa [Cursor.closeEmpty] using hclose
          refine ⟨errorAt callee.token
            (.argumentCount callee.function.signature.arityText 0), ?_⟩
          simp [Cursor.parser, Context.operands, Context.pending, bind, Except.bind, hcount]
        | cons first rest =>
          have hcount : rest.length + (outer.operands.length + 1) =
              outer.operands.length + (rest.length + 1) := by omega
          refine ⟨errorAt callee.token .emptyArgument, ?_⟩
          simp [Cursor.parser, Context.operands, Context.pending, bind, Except.bind, hcount]

/-- Where an operand is complete, a bracket of another kind, or none, cannot be closed. -/
theorem close_read_error {t : Token} {c : Context L} {x : Tree} {previous : Option TokenKind} :
    (Cursor.nextArgument (c.settle (fun _ => true) x) = none →
      ∃ error, comma L t ((read c x).parser previous) = .error error) ∧
    (Cursor.closeParen (c.settle (fun _ => true) x) = none →
      ∃ error, closeParen L t ((read c x).parser previous) = .error error) ∧
    (Cursor.closeBracket (c.settle (fun _ => true) x) = none →
      ∃ error, closeBracket L t ((read c x).parser previous) = .error error) := by
  obtain ⟨d, y, hsettled, hframe, -⟩ := c.exists_settled x
  have hsettle := settle_read hsettled previous
  simp only [comma, closeBracket, closeParen, settleFrame, hsettled]
  refine ⟨fun hclose => hsettle.bind_error ?_, fun hclose => hsettle.bind_error ?_,
    fun hclose => hsettle.bind_error ?_⟩
  · cases d with
    | before sign outer => cases hframe
    | after sign outer => cases hframe
    | between left sign outer => cases hframe
    | top => exact ⟨_, rfl⟩
    | group paren outer => exact ⟨_, rfl⟩
    | call callee arguments outer => cases hclose
    | index array bracket outer => exact ⟨_, rfl⟩
  · cases d with
    | before sign outer => cases hframe
    | after sign outer => cases hframe
    | between left sign outer => cases hframe
    | top => exact ⟨_, rfl⟩
    | group paren outer => cases hclose
    | call callee arguments outer =>
      have hcount : callee.function.signature.accepts (arguments.length + 1) = false := by
        simpa [Cursor.closeParen] using hclose
      have hfound : arguments.length + outer.operands.length + 1 - outer.operands.length =
          arguments.length + 1 := by omega
      have hmore : arguments.length + outer.operands.length + 1 ≠
          outer.operands.length + arguments.length := by omega
      refine ⟨errorAt callee.token (.argumentCount callee.function.signature.arityText
        (arguments.length + 1)), ?_⟩
      simp [Cursor.parser, Context.operands, Context.pending, hfound, hmore, hcount]
    | index array bracket outer => exact ⟨_, rfl⟩
  · cases d with
    | before sign outer => cases hframe
    | after sign outer => cases hframe
    | between left sign outer => cases hframe
    | top => exact ⟨_, rfl⟩
    | group paren outer => exact ⟨_, rfl⟩
    | call callee arguments outer => exact ⟨_, rfl⟩
    | index array bracket outer => cases hclose

theorem take_due_error {t : Token} {c : Context L} {previous : Option TokenKind}
    (hagrees : (due c).Agrees previous) (hfits : Token.Fits L previous t)
    (h : (due c).take t = none) : ∃ error, take L t ((due c).parser previous) = .error error := by
  have hbehind : ¬ ∃ kind, previous = some kind ∧ kind.endsValue = true := by
    rintro ⟨kind, hprevious, hends⟩
    have := (hagrees kind hprevious).1
    simp [hends] at this
  cases hkind : t.kind with
  | number | text | name | function | parenOpen => simp [Cursor.take, hkind] at h
  | prefixOperator =>
    simp only [Cursor.take, hkind, Option.map_eq_none_iff] at h
    obtain ⟨error, herror⟩ := Sign.resolve_of?_none (by rw [hkind]; rfl) h
    exact ⟨error, by simp only [take, hkind, herror]; rfl⟩
  | infixOperator | postfixOperator | arrayOpen | separator =>
    exact absurd (hfits.behindValue (by simp [hkind])) hbehind
  | parenClose =>
    simp only [Cursor.take, hkind] at h
    simp only [take, hkind]
    exact close_due_error.2.2 h
  | comma =>
    simp only [take, hkind]
    exact close_due_error.1
  | arrayClose =>
    simp only [take, hkind]
    exact close_due_error.2.1
  | arrayIndex => exact absurd hkind hfits.notIndex

theorem take_read_error {t : Token} {c : Context L} {x : Tree} {previous : Option TokenKind}
    (hagrees : (read c x).Agrees previous) (hfits : Token.Fits L previous t)
    (hadjacent : Token.isAdjacent previous t = false) (h : (read c x).take t = none) :
    ∃ error, take L t ((read c x).parser previous) = .error error := by
  obtain ⟨kind, hprevious, hends⟩ := hagrees
  have hstarts : t.kind.startsValue = false := by
    simpa [Token.isAdjacent, hprevious, hends] using hadjacent
  cases hkind : t.kind with
  | number | text | name | function | parenOpen => simp [hkind, TokenKind.startsValue] at hstarts
  | prefixOperator =>
    have := hfits.beforeValue hkind kind hprevious
    simp [hends] at this
  | infixOperator | postfixOperator =>
    simp only [Cursor.take, hkind, Option.map_eq_none_iff] at h
    obtain ⟨error, herror⟩ := Sign.resolve_of?_none (by rw [hkind]; rfl) h
    exact ⟨error, by simp only [take, hkind, herror]; rfl⟩
  | arrayOpen | separator => simp [Cursor.take, hkind] at h
  | comma =>
    simp only [Cursor.take, hkind] at h
    simp only [take, hkind]
    exact close_read_error.1 h
  | parenClose =>
    simp only [Cursor.take, hkind] at h
    simp only [take, hkind]
    exact close_read_error.2.1 h
  | arrayClose =>
    simp only [Cursor.take, hkind] at h
    simp only [take, hkind]
    exact close_read_error.2.2 h
  | arrayIndex => exact absurd hkind hfits.notIndex

/-- The parser refuses a token over which the cursor cannot move. -/
theorem take_error {t : Token} {cursor : Cursor L} {previous : Option TokenKind}
    (hagrees : cursor.Agrees previous) (hfits : Token.Fits L previous t)
    (hadjacent : Token.isAdjacent previous t = false) (h : cursor.take t = none) :
    ∃ error, take L t (cursor.parser previous) = .error error := by
  cases cursor with
  | due c => exact take_due_error hagrees hfits h
  | called call c =>
    have hkind := hfits.afterFunction hagrees.1
    simp only [Cursor.take, hkind, Option.map_eq_none_iff] at h
    have hfound := Callee.find?_of?_none hagrees.2 h
    simp only [take, hkind, openParen, Cursor.parser, hfound]
    exact ⟨_, rfl⟩
  | read c x => exact take_read_error hagrees hfits hadjacent h
  | fielded separator c x =>
    have hkind := hfits.afterSeparator hagrees.1
    simp [Cursor.take, hkind] at h

end Parser
end Formula

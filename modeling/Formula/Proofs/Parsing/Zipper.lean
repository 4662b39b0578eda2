-- SUMMARY: Parsing as a walk over a tree with one open place: contexts, cursors, and the moves that tokens cause.
import Formula.Tree.Parser

/-!
# A tree with one open place

While it reads what the scanner yields, the parser always holds a tree with one place left open.
A `Context` is such a tree, from the open place outwards, and a `Cursor` says what the parser
waits for there. `Cursor.take` moves the cursor over one token. It knows no stacks, no counts of
operands and no limit of depth; `Formula.Proofs.Parsing.Simulation` shows that the parser does the
same.
-/

namespace Formula

/-! ## Resolved tokens -/

/-- An operator token with the operator that the language has for it. -/
structure Sign (L : Language) (fixity : Fixity) where
  token : Token
  operator : Operator
  kind_eq : token.kind = fixity.tokenKind
  found : L.operators.find? fixity token.lexeme = some operator

namespace Sign

variable {L : Language} {fixity : Fixity}

theorem fixity_eq (sign : Sign L fixity) : sign.operator.rule.fixity = fixity :=
  OperatorTable.fixity_of_find? sign.found

theorem operandCount_eq (sign : Sign L fixity) :
    sign.operator.rule.operandCount = fixity.operandCount := by
  rw [OperatorRule.operandCount, sign.fixity_eq]

/-- The token as it stands in the tree. -/
def bound (sign : Sign L fixity) : Token := sign.token.bind (.operator sign.operator)

@[simp] theorem bound_kind (sign : Sign L fixity) : sign.bound.kind = fixity.tokenKind :=
  sign.kind_eq

/-- Whether a waiting operator is applied before this one is read. -/
def releases (sign : Sign L fixity) : Operator → Bool :=
  Parser.bindsTighter L (L.precedenceOf sign.operator) sign.operator.rule.leftAssociative

/-- The sign that a token is. -/
def of? (L : Language) (fixity : Fixity) (token : Token) : Option (Sign L fixity) :=
  if hkind : token.kind = fixity.tokenKind then
    match hfound : L.operators.find? fixity token.lexeme with
    | some operator => some ⟨token, operator, hkind, hfound⟩
    | none => none
  else none

theorem token_of? {token : Token} {sign : Sign L fixity} (h : of? L fixity token = some sign) :
    sign.token = token := by
  unfold of? at h
  split at h
  · split at h
    · cases h; rfl
    · cases h
  · cases h

@[simp] theorem of?_token (sign : Sign L fixity) : of? L fixity sign.token = some sign := by
  unfold of?
  rw [dif_pos sign.kind_eq]
  split
  · rename_i operator hfound
    obtain ⟨token, operator', hkind, hfound'⟩ := sign
    have : operator = operator' := Option.some.inj (hfound.symm.trans hfound')
    subst this
    rfl
  · rename_i hnone
    exact absurd (hnone.symm.trans sign.found) (by simp)

/-- The token determines the operator. -/
theorem eq_of_token {a b : Sign L fixity} (h : a.token = b.token) : a = b := by
  have ha := of?_token a
  rw [h, of?_token] at ha
  exact (Option.some.inj ha).symm

/-- A token of an operator's kind is a sign if its name is known. -/
theorem isSome_of? {token : Token} (hkind : token.kind = fixity.tokenKind) :
    (of? L fixity token).isSome = (L.operators.find? fixity token.lexeme).isSome := by
  unfold of?
  rw [dif_pos hkind]
  split
  · rename_i hfound
    simp [hfound]
  · rename_i hnone
    simp [hnone]

theorem resolve_token (sign : Sign L fixity) :
    Parser.resolve L sign.token = .ok sign.operator := by
  simp [Parser.resolve, sign.kind_eq, Fixity.fixity?_tokenKind, sign.found]

theorem resolve_of?_none {token : Token} (hkind : token.kind = fixity.tokenKind)
    (h : of? L fixity token = none) : ∃ error, Parser.resolve L token = .error error := by
  unfold of? at h
  rw [dif_pos hkind] at h
  split at h
  · cases h
  · rename_i hnone
    exact ⟨_, by simp [Parser.resolve, hkind, Fixity.fixity?_tokenKind, hnone]; rfl⟩

end Sign

/-- A function token with the function that the language has for it. -/
structure Callee (L : Language) where
  token : Token
  function : LibraryFunction
  kind_eq : token.kind = .function
  found : L.functions.find? token.lexeme = some function

namespace Callee

variable {L : Language}

/-- The token as it stands in the tree. -/
def bound (callee : Callee L) : Token := callee.token.bind (.function callee.function)

@[simp] theorem bound_kind (callee : Callee L) : callee.bound.kind = .function := callee.kind_eq

/-- The function that a token names. -/
def of? (L : Language) (token : Token) : Option (Callee L) :=
  if hkind : token.kind = .function then
    match hfound : L.functions.find? token.lexeme with
    | some function => some ⟨token, function, hkind, hfound⟩
    | none => none
  else none

theorem token_of? {token : Token} {callee : Callee L} (h : of? L token = some callee) :
    callee.token = token := by
  unfold of? at h
  split at h
  · split at h
    · cases h; rfl
    · cases h
  · cases h

@[simp] theorem of?_token (callee : Callee L) : of? L callee.token = some callee := by
  unfold of?
  rw [dif_pos callee.kind_eq]
  split
  · rename_i function hfound
    obtain ⟨token, function', hkind, hfound'⟩ := callee
    have : function = function' := Option.some.inj (hfound.symm.trans hfound')
    subst this
    rfl
  · rename_i hnone
    exact absurd (hnone.symm.trans callee.found) (by simp)

theorem find?_of?_none {token : Token} (hkind : token.kind = .function)
    (h : of? L token = none) : L.functions.find? token.lexeme = none := by
  unfold of? at h
  rw [dif_pos hkind] at h
  split at h
  · cases h
  · assumption

end Callee

namespace Parser

/-! ## Contexts -/

/-- A tree with an open place, from the open place outwards. `before` and `after` hold operators
    that are not applied yet; a call holds the arguments that are complete. -/
inductive Context (L : Language) where
  | top
  | before (sign : Sign L .before) (outer : Context L)
  | after (sign : Sign L .after) (outer : Context L)
  | between (left : Tree) (sign : Sign L .between) (outer : Context L)
  | group (paren : Token) (outer : Context L)
  | call (callee : Callee L) (arguments : List Tree) (outer : Context L)
  | index (array : Tree) (bracket : Token) (outer : Context L)

namespace Context

variable {L : Language}

/-- Whether the innermost entry is no operator that waits. -/
def isFrame : Context L → Bool
  | before _ _ | after _ _ | between _ _ _ => false
  | _ => true

/-- The open brackets, each with the number of complete arguments if it belongs to a call. -/
inductive Frame (L : Language) where
  | group
  | call (callee : Callee L) (complete : Nat)
  | index

/-- The open brackets from the inside out. -/
def frames : Context L → List (Frame L)
  | top => []
  | before _ outer | after _ outer | between _ _ outer => outer.frames
  | group _ outer => .group :: outer.frames
  | call callee arguments outer => .call callee arguments.length :: outer.frames
  | index _ _ outer => .index :: outer.frames

/-- Applies the operators around the open place to the tree that fills it, as long as `now` says
    so. The open place moves outwards. -/
def settle (now : Operator → Bool) : Context L → Tree → Context L × Tree
  | before sign outer, x =>
    if now sign.operator then outer.settle now (.node sign.bound [x]) else (before sign outer, x)
  | after sign outer, x =>
    if now sign.operator then outer.settle now (.node sign.bound [x]) else (after sign outer, x)
  | between left sign outer, x =>
    if now sign.operator then outer.settle now (.node sign.bound [left, x])
    else (between left sign outer, x)
  | frame, x => (frame, x)

/-- What holds of a filled context and is kept when an operator is applied holds of the settled
    one. -/
theorem settle_induct {now : Operator → Bool} {I : Context L → Tree → Prop}
    (hbefore : ∀ sign outer x, now sign.operator = true → I (before sign outer) x →
      I outer (.node sign.bound [x]))
    (hafter : ∀ sign outer x, now sign.operator = true → I (after sign outer) x →
      I outer (.node sign.bound [x]))
    (hbetween : ∀ left sign outer x, now sign.operator = true → I (between left sign outer) x →
      I outer (.node sign.bound [left, x]))
    {c : Context L} {x : Tree} (h : I c x) : I (c.settle now x).1 (c.settle now x).2 := by
  induction c generalizing x with
  | before sign outer ih =>
    simp only [settle]
    split
    · exact ih (hbefore _ _ _ ‹_› h)
    · exact h
  | after sign outer ih =>
    simp only [settle]
    split
    · exact ih (hafter _ _ _ ‹_› h)
    · exact h
  | between left sign outer ih =>
    simp only [settle]
    split
    · exact ih (hbetween _ _ _ _ ‹_› h)
    · exact h
  | top => exact h
  | group paren outer => exact h
  | call callee arguments outer => exact h
  | index array bracket outer => exact h

theorem settle_keeps {now : Operator → Bool} {I : Context L → Tree → Prop} {c d : Context L}
    {x y : Tree} (hsettled : c.settle now x = (d, y)) (h : I c x)
    (hbefore : ∀ sign outer x, now sign.operator = true → I (before sign outer) x →
      I outer (.node sign.bound [x]))
    (hafter : ∀ sign outer x, now sign.operator = true → I (after sign outer) x →
      I outer (.node sign.bound [x]))
    (hbetween : ∀ left sign outer x, now sign.operator = true → I (between left sign outer) x →
      I outer (.node sign.bound [left, x])) : I d y := by
  have hsettle := settle_induct hbefore hafter hbetween h
  rwa [hsettled] at hsettle

@[simp] theorem settle_frames (now : Operator → Bool) (c : Context L) (x : Tree) :
    (c.settle now x).1.frames = c.frames :=
  settle_induct (I := fun d _ => d.frames = c.frames) (fun _ _ _ _ h => h) (fun _ _ _ _ h => h)
    (fun _ _ _ _ _ h => h) rfl

theorem frames_of_settle {now : Operator → Bool} {c d : Context L} {x y : Tree}
    (h : c.settle now x = (d, y)) : d.frames = c.frames := by
  rw [← c.settle_frames now x, h]

/-- Once everything is settled, a bracket is innermost, or nothing is left. -/
theorem settle_isFrame (c : Context L) (x : Tree) :
    (c.settle (fun _ => true) x).1.isFrame = true := by
  induction c generalizing x with
  | before sign outer ih => exact ih _
  | after sign outer ih => exact ih _
  | between left sign outer ih => exact ih _
  | top => rfl
  | group paren outer => rfl
  | call callee arguments outer => rfl
  | index array bracket outer => rfl

/-- Once everything is settled, the innermost bracket is the one that the frames begin with. -/
theorem exists_settled (c : Context L) (x : Tree) :
    ∃ d y, c.settle (fun _ => true) x = (d, y) ∧ d.isFrame = true ∧ d.frames = c.frames :=
  ⟨_, _, rfl, c.settle_isFrame x, c.settle_frames _ x⟩

end Context

/-! ## Cursors -/

/-- What the parser waits for: an operand, the arguments of a call, what comes behind an operand,
    or the name of a field. -/
inductive Cursor (L : Language) where
  | due (context : Context L)
  | called (call : Token) (context : Context L)
  | read (context : Context L) (operand : Tree)
  | fielded (separator : Token) (context : Context L) (operand : Tree)

/-- The token of an index in the tree. -/
def indexToken (bracket : Token) : Token :=
  { kind := .arrayIndex, lexeme := bracket.lexeme, position := bracket.position }

/-- Operators behind their operand. -/
def isTrailing (operator : Operator) : Bool := operator.rule.fixity == .after

namespace Cursor

variable {L : Language}

/-- What a closing parenthesis makes of the context, once everything inside is settled. -/
def closeParen : Context L × Tree → Option (Cursor L)
  | (.group _ outer, x) => some (read outer x)
  | (.call callee arguments outer, x) =>
    if callee.function.signature.accepts (arguments.length + 1) then
      some (read outer (.node callee.bound (arguments ++ [x])))
    else none
  | _ => none

/-- What a closing bracket makes of the context, once everything inside is settled. -/
def closeBracket : Context L × Tree → Option (Cursor L)
  | (.index array bracket outer, x) => some (read outer (.node (indexToken bracket) [array, x]))
  | _ => none

/-- What a comma makes of the context, once everything before it is settled. -/
def nextArgument : Context L × Tree → Option (Cursor L)
  | (.call callee arguments outer, x) => some (due (.call callee (arguments ++ [x]) outer))
  | _ => none

/-- Closes a call that has no arguments. -/
def closeEmpty : Context L → Option (Cursor L)
  | .call callee [] outer =>
    if callee.function.signature.accepts 0 then some (read outer (.node callee.bound [])) else none
  | _ => none

/-- The move over one token. -/
def take (token : Token) : Cursor L → Option (Cursor L)
  | due c =>
    match token.kind with
    | .number | .text | .name => some (read c (Tree.leaf token))
    | .function => some (called token c)
    | .parenOpen => some (due (.group token c))
    | .prefixOperator => (Sign.of? L .before token).map fun sign => due (.before sign c)
    | .parenClose => closeEmpty c
    | _ => none
  | called call c =>
    match token.kind with
    | .parenOpen => (Callee.of? L call).map fun callee => due (.call callee [] c)
    | _ => none
  | read c x =>
    match token.kind with
    | .infixOperator =>
      (Sign.of? L .between token).map fun sign =>
        due (.between (c.settle sign.releases x).2 sign (c.settle sign.releases x).1)
    | .postfixOperator =>
      (Sign.of? L .after token).map fun sign =>
        read (.after sign (c.settle sign.releases x).1) (c.settle sign.releases x).2
    | .arrayOpen =>
      some (due (.index (c.settle isTrailing x).2 token (c.settle isTrailing x).1))
    | .separator => some (fielded token (c.settle isTrailing x).1 (c.settle isTrailing x).2)
    | .comma => nextArgument (c.settle (fun _ => true) x)
    | .parenClose => closeParen (c.settle (fun _ => true) x)
    | .arrayClose => closeBracket (c.settle (fun _ => true) x)
    | _ => none
  | fielded separator c x =>
    match token.kind with
    | .name => some (read c (.node separator [x, Tree.leaf token]))
    | _ => none

/-- The tree when no token is left. -/
def finish : Cursor L → Option Tree
  | read c x =>
    match c.settle (fun _ => true) x with
    | (.top, tree) => some tree
    | _ => none
  | _ => none

/-- A tree is what the operators that wait make of the last operand. -/
theorem settled_of_finish {cursor : Cursor L} {tree : Tree} (h : cursor.finish = some tree) :
    ∃ c x, cursor = read c x ∧ c.settle (fun _ => true) x = (.top, tree) := by
  cases cursor with
  | read c x =>
    simp only [finish] at h
    split at h
    · rename_i hsettled
      cases h
      exact ⟨c, x, rfl, hsettled⟩
    · cases h
  | due c => cases h
  | called call c => cases h
  | fielded separator c x => cases h

/-! ## Moves -/

/-- All that a token can do to a cursor. -/
inductive Move (L : Language) : Token → Cursor L → Cursor L → Prop where
  | leaf {t c} (kind : t.kind = .number ∨ t.kind = .text ∨ t.kind = .name) :
    Move L t (due c) (read c (Tree.leaf t))
  | function {t c} (kind : t.kind = .function) : Move L t (due c) (called t c)
  | openGroup {t c} (kind : t.kind = .parenOpen) : Move L t (due c) (due (.group t c))
  | openCall {t c} (callee : Callee L) (kind : t.kind = .parenOpen) :
    Move L t (called callee.token c) (due (.call callee [] c))
  | before {c} (sign : Sign L .before) : Move L sign.token (due c) (due (.before sign c))
  | between {c x d y} (sign : Sign L .between) (settled : c.settle sign.releases x = (d, y)) :
    Move L sign.token (read c x) (due (.between y sign d))
  | after {c x d y} (sign : Sign L .after) (settled : c.settle sign.releases x = (d, y)) :
    Move L sign.token (read c x) (read (.after sign d) y)
  | openIndex {t c x d y} (kind : t.kind = .arrayOpen) (settled : c.settle isTrailing x = (d, y)) :
    Move L t (read c x) (due (.index y t d))
  | separator {t c x d y} (kind : t.kind = .separator) (settled : c.settle isTrailing x = (d, y)) :
    Move L t (read c x) (fielded t d y)
  | field {t s c x} (kind : t.kind = .name) :
    Move L t (fielded s c x) (read c (.node s [x, Tree.leaf t]))
  | comma {t c x callee arguments d y} (kind : t.kind = .comma)
      (settled : c.settle (fun _ => true) x = (.call callee arguments d, y)) :
    Move L t (read c x) (due (.call callee (arguments ++ [y]) d))
  | closeGroup {t c x paren d y} (kind : t.kind = .parenClose)
      (settled : c.settle (fun _ => true) x = (.group paren d, y)) :
    Move L t (read c x) (read d y)
  | closeCall {t c x callee arguments d y} (kind : t.kind = .parenClose)
      (settled : c.settle (fun _ => true) x = (.call callee arguments d, y))
      (accepted : callee.function.signature.accepts (arguments.length + 1) = true) :
    Move L t (read c x) (read d (.node callee.bound (arguments ++ [y])))
  | closeEmpty {t callee d} (kind : t.kind = .parenClose)
      (accepted : callee.function.signature.accepts 0 = true) :
    Move L t (due (.call callee [] d)) (read d (.node callee.bound []))
  | closeIndex {t c x array bracket d y} (kind : t.kind = .arrayClose)
      (settled : c.settle (fun _ => true) x = (.index array bracket d, y)) :
    Move L t (read c x) (read d (.node (indexToken bracket) [array, y]))

theorem move_of_closeEmpty {t : Token} {c : Context L} {next : Cursor L}
    (hkind : t.kind = .parenClose) (h : closeEmpty c = some next) : Move L t (due c) next := by
  unfold closeEmpty at h
  split at h
  · split at h
    · cases h
      exact .closeEmpty hkind ‹_›
    · cases h
  · cases h

theorem move_of_closeParen {t : Token} {c : Context L} {x : Tree} {next : Cursor L}
    (hkind : t.kind = .parenClose) (h : closeParen (c.settle (fun _ => true) x) = some next) :
    Move L t (read c x) next := by
  unfold closeParen at h
  split at h
  · rename_i hsettled
    cases h
    exact .closeGroup hkind hsettled
  · rename_i hsettled
    split at h
    · cases h
      exact .closeCall hkind hsettled ‹_›
    · cases h
  · cases h

theorem move_of_closeBracket {t : Token} {c : Context L} {x : Tree} {next : Cursor L}
    (hkind : t.kind = .arrayClose) (h : closeBracket (c.settle (fun _ => true) x) = some next) :
    Move L t (read c x) next := by
  unfold closeBracket at h
  split at h
  · rename_i hsettled
    cases h
    exact .closeIndex hkind hsettled
  · cases h

theorem move_of_nextArgument {t : Token} {c : Context L} {x : Tree} {next : Cursor L}
    (hkind : t.kind = .comma) (h : nextArgument (c.settle (fun _ => true) x) = some next) :
    Move L t (read c x) next := by
  unfold nextArgument at h
  split at h
  · rename_i hsettled
    cases h
    exact .comma hkind hsettled
  · cases h

theorem move_of_take {t : Token} {cursor next : Cursor L} (h : cursor.take t = some next) :
    Move L t cursor next := by
  cases cursor with
  | due c =>
    simp only [take] at h
    split at h <;> rename_i hkind
    · cases h; exact .leaf (.inl hkind)
    · cases h; exact .leaf (.inr (.inl hkind))
    · cases h; exact .leaf (.inr (.inr hkind))
    · cases h; exact .function hkind
    · cases h; exact .openGroup hkind
    · obtain ⟨sign, hsign, rfl⟩ := Option.map_eq_some_iff.mp h
      exact Sign.token_of? hsign ▸ .before sign
    · exact move_of_closeEmpty hkind h
    · cases h
  | called call c =>
    simp only [take] at h
    split at h
    · obtain ⟨callee, hcallee, rfl⟩ := Option.map_eq_some_iff.mp h
      exact Callee.token_of? hcallee ▸ .openCall callee ‹_›
    · cases h
  | read c x =>
    simp only [take] at h
    split at h <;> rename_i hkind
    · obtain ⟨sign, hsign, rfl⟩ := Option.map_eq_some_iff.mp h
      exact Sign.token_of? hsign ▸ .between sign rfl
    · obtain ⟨sign, hsign, rfl⟩ := Option.map_eq_some_iff.mp h
      exact Sign.token_of? hsign ▸ .after sign rfl
    · cases h; exact .openIndex hkind rfl
    · cases h; exact .separator hkind rfl
    · exact move_of_nextArgument hkind h
    · exact move_of_closeParen hkind h
    · exact move_of_closeBracket hkind h
    · cases h
  | fielded separator c x =>
    simp only [take] at h
    split at h
    · cases h; exact .field ‹_›
    · cases h

/-- What the token before says about the cursor: an operand is complete after a token that ends a
    value, and the token after a function or a separator is still missing. -/
def Agrees (previous : Option TokenKind) : Cursor L → Prop
  | due _ => ∀ kind, previous = some kind →
    kind.endsValue = false ∧ kind ≠ .function ∧ kind ≠ .separator
  | called call _ => previous = some .function ∧ call.kind = .function
  | read _ _ => ∃ kind, previous = some kind ∧ kind.endsValue = true
  | fielded separator _ _ => previous = some .separator ∧ separator.kind = .separator

theorem Move.agrees {t : Token} {cursor next : Cursor L} (h : Move L t cursor next) :
    next.Agrees (some t.kind) := by
  cases h with
  | leaf kind => rcases kind with kind | kind | kind <;> exact ⟨_, rfl, by rw [kind]; rfl⟩
  | function kind => exact ⟨by rw [kind], kind⟩
  | openGroup kind | openCall _ kind | openIndex kind _ | comma kind _ =>
    intro kind' h
    cases h
    rw [kind]
    exact ⟨rfl, by decide, by decide⟩
  | before sign | between sign _ =>
    intro kind' h
    cases h
    rw [sign.kind_eq]
    exact ⟨rfl, by decide, by decide⟩
  | after sign => exact ⟨_, rfl, by rw [sign.kind_eq]; rfl⟩
  | separator kind => exact ⟨by rw [kind], kind⟩
  | field kind | closeGroup kind _ | closeCall kind _ _ | closeEmpty kind _ | closeIndex kind _ =>
    exact ⟨_, rfl, by rw [kind]; rfl⟩

end Cursor
end Parser
end Formula

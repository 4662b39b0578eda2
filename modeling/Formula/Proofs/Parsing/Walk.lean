-- SUMMARY: Walks of a cursor over a list of tokens, and the multiplication signs that stand between adjacent operands.
import Formula.Proofs.Parsing.Zipper

/-!
# Walks over tokens

A walk takes one token after the other. Where two operands stand side by side it takes a
multiplication sign in between: a walk over a list is the sequence of moves over the list in which
these signs are written (`Token.joined`).
-/

namespace Formula

/-! ## Operands side by side -/

namespace Token

/-- The multiplication sign between an operand and the one that a token begins. -/
def star (token : Token) : Token :=
  { kind := .infixOperator, lexeme := "*", position := token.position }

/-- Whether a token begins an operand right behind another one. -/
def isAdjacent (previous : Option TokenKind) (token : Token) : Bool :=
  match previous with
  | some kind => kind.endsValue && token.kind.startsValue
  | none => false

/-- The tokens after one of the given kind, with a multiplication sign between operands that stand
    side by side. -/
def joined : Option TokenKind → List Token → List Token
  | _, [] => []
  | previous, token :: rest =>
    if isAdjacent previous token then star token :: token :: joined (some token.kind) rest
    else token :: joined (some token.kind) rest

/-- A token does not begin behind another one. Only a multiplication sign that was left out begins
    in the same place, and then the other token begins an operand. -/
def Precedes (a b : Token) : Prop :=
  a.position ≤ b.position ∧ (b.kind.startsValue = false → a.position < b.position)

theorem precedes_of_lt {a b : Token} (h : a.position < b.position) : a.Precedes b :=
  ⟨Nat.le_of_lt h, fun _ => h⟩

/-- A multiplication sign that was left out stands where its right operand begins. -/
theorem star_precedes {previous : Option TokenKind} {token : Token}
    (h : isAdjacent previous token = true) : (star token).Precedes token := by
  refine ⟨Nat.le_refl _, fun hkind => ?_⟩
  unfold isAdjacent at h
  split at h
  · simp [hkind] at h
  · cases h

/-- A token of the joined list is one of the list, or a sign that was left out. -/
theorem mem_joined {previous : Option TokenKind} {tokens : List Token} {t : Token}
    (h : t ∈ joined previous tokens) : t ∈ tokens ∨ ∃ token, t = star token := by
  induction tokens generalizing previous with
  | nil => cases h
  | cons token rest ih =>
    have hbehind : t ∈ token :: joined (some token.kind) rest →
        t ∈ token :: rest ∨ ∃ token, t = star token := by
      intro h
      rcases List.mem_cons.mp h with rfl | h
      · exact .inl List.mem_cons_self
      · exact (ih h).imp_left (List.mem_cons_of_mem token)
    simp only [joined] at h
    split at h
    · rcases List.mem_cons.mp h with rfl | h
      · exact .inr ⟨token, rfl⟩
      · exact hbehind h
    · exact hbehind h

theorem lt_of_mem_joined {previous : Option TokenKind} {tokens : List Token} {position : Nat}
    (h : ∀ token ∈ tokens, position < token.position) :
    ∀ token ∈ joined previous tokens, position < token.position := by
  induction tokens generalizing previous with
  | nil => simp [joined]
  | cons token rest ih =>
    obtain ⟨htoken, hrest⟩ := List.forall_mem_cons.mp h
    simp only [joined]
    split
    · exact List.forall_mem_cons.mpr ⟨htoken, List.forall_mem_cons.mpr ⟨htoken, ih hrest⟩⟩
    · exact List.forall_mem_cons.mpr ⟨htoken, ih hrest⟩

theorem pairwise_joined {previous : Option TokenKind} {tokens : List Token}
    (h : tokens.Pairwise fun a b => a.position < b.position) :
    (joined previous tokens).Pairwise Precedes := by
  induction h generalizing previous with
  | nil => exact .nil
  | @cons token rest htoken _ ih =>
    have hbehind : ∀ other ∈ joined (some token.kind) rest, token.Precedes other :=
      fun other hother => precedes_of_lt (lt_of_mem_joined htoken other hother)
    simp only [joined]
    split
    · rename_i hadjacent
      refine .cons (List.forall_mem_cons.mpr ⟨star_precedes hadjacent, ?_⟩) (.cons hbehind ih)
      intro other hother
      exact precedes_of_lt (lt_of_mem_joined htoken other hother)
    · exact .cons hbehind ih

theorem countP_joined {P : Token → Bool} (hstar : ∀ token, P (star token) = false)
    (previous : Option TokenKind) (tokens : List Token) :
    (joined previous tokens).countP P = tokens.countP P := by
  induction tokens generalizing previous with
  | nil => rfl
  | cons token rest ih =>
    simp only [joined]
    split
    · rw [List.countP_cons_of_neg (by simp [hstar]), List.countP_cons, ih, List.countP_cons]
    · rw [List.countP_cons, ih, List.countP_cons]

/-- The kind of the last token, or the given one if there is none. -/
def kindAfter : Option TokenKind → List Token → Option TokenKind
  | previous, [] => previous
  | _, token :: rest => kindAfter (some token.kind) rest

end Token

namespace Language

/-- Whether an operand may stand side by side with one that ends in a token of the given kind. -/
def mayJoin (L : Language) (previous : Option TokenKind) (token : Token) : Bool :=
  L.settings.implicitMultiplication && previous != some .text && token.kind != .text

end Language

namespace Parser
namespace Cursor

variable {L : Language}

/-! ## Walks -/

/-- The move over a token, after that over a multiplication sign where one is understood. -/
def step (previous : Option TokenKind) (token : Token) (cursor : Cursor L) : Option (Cursor L) :=
  if Token.isAdjacent previous token then
    if L.mayJoin previous token then (cursor.take (Token.star token)).bind (take token) else none
  else cursor.take token

/-- The moves over all tokens. -/
def run : Option TokenKind → Cursor L → List Token → Option (Cursor L)
  | _, cursor, [] => some cursor
  | previous, cursor, token :: rest =>
    match cursor.step previous token with
    | some next => run (some token.kind) next rest
    | none => none

/-- The cursor before the first token. -/
def start : Cursor L := due .top

theorem agrees_start : (start : Cursor L).Agrees none := by
  intro kind h
  cases h

theorem take_agrees {t : Token} {cursor next : Cursor L} (h : cursor.take t = some next) :
    next.Agrees (some t.kind) :=
  (move_of_take h).agrees

/-- A step is one move, or two moves of which the first is over a multiplication sign. -/
theorem step_cases {previous : Option TokenKind} {t : Token} {cursor next : Cursor L}
    (h : cursor.step previous t = some next) :
    (Token.isAdjacent previous t = false ∧ cursor.take t = some next) ∨
    (Token.isAdjacent previous t = true ∧ L.mayJoin previous t = true ∧
      ∃ between, cursor.take (Token.star t) = some between ∧ between.take t = some next) := by
  unfold step at h
  split at h
  · rename_i hadjacent
    split at h
    · exact .inr ⟨hadjacent, ‹_›, Option.bind_eq_some_iff.mp h⟩
    · cases h
  · rename_i hadjacent
    exact .inl ⟨by simpa using hadjacent, h⟩

theorem step_agrees {previous : Option TokenKind} {t : Token} {cursor next : Cursor L}
    (h : cursor.step previous t = some next) : next.Agrees (some t.kind) := by
  rcases step_cases h with ⟨_, htake⟩ | ⟨_, _, _, _, htake⟩ <;> exact take_agrees htake

/-- A walk that gets through takes one step and goes on. -/
theorem step_of_run {previous : Option TokenKind} {t : Token} {ts : List Token}
    {cursor last : Cursor L} (h : run previous cursor (t :: ts) = some last) :
    ∃ next, cursor.step previous t = some next ∧ run (some t.kind) next ts = some last := by
  simp only [run] at h
  split at h
  · exact ⟨_, ‹_›, h⟩
  · cases h

theorem run_append {previous : Option TokenKind} {cursor : Cursor L} {ts us : List Token} :
    run previous cursor (ts ++ us) =
      (run previous cursor ts).bind fun next => run (Token.kindAfter previous ts) next us := by
  induction ts generalizing previous cursor with
  | nil => rfl
  | cons t ts ih =>
    simp only [List.cons_append, run, Token.kindAfter]
    cases cursor.step previous t with
    | none => rfl
    | some next => exact ih

/-! ## Sequences of moves -/

/-- The cursors that are reached from the first one by moves over a list of tokens. -/
inductive Moves (L : Language) : List Token → Cursor L → Prop where
  | start : Moves L [] start
  | move {ts t cursor next} : Moves L ts cursor → Move L t cursor next → Moves L (ts ++ [t]) next

/-- A walk is a sequence of moves over the tokens with the multiplication signs. -/
theorem moves_of_run {previous : Option TokenKind} {cursor last : Cursor L} {ts us : List Token}
    (hmoves : Moves L us cursor) (h : run previous cursor ts = some last) :
    Moves L (us ++ Token.joined previous ts) last := by
  induction ts generalizing previous cursor us with
  | nil =>
    cases h
    simpa [Token.joined] using hmoves
  | cons t ts ih =>
    obtain ⟨next, hstep, h⟩ := step_of_run h
    rcases step_cases hstep with ⟨hadjacent, htake⟩ | ⟨hadjacent, _, between, hstar, htake⟩
    · have hnext := Moves.move hmoves (move_of_take htake)
      simpa [Token.joined, hadjacent] using ih hnext h
    · have hnext := (Moves.move hmoves (move_of_take hstar)).move (move_of_take htake)
      simpa [Token.joined, hadjacent] using ih hnext h

end Cursor
end Parser
end Formula

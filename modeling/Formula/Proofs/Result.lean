-- SUMMARY: Results that are values or errors: how they come about, which errors there can be, and how two of them compare.
import Formula.EvalError

/-!
# Results

Two results are related if both are values that are, or both are errors that are (`Related`). One
result of an evaluation refines another one if it is the same, or if the other one ran into the limit
of nesting (`Refines`). Both pass through the steps of a computation, as no step catches an error.
-/

namespace Formula

/-! ## Computations that have a value -/

section Values

variable {ε α β : Type} {result : Except ε α}

/-- A computation that has a value has got there through the value of its first part. -/
theorem ok_of_bind {f : α → Except ε β} {b : β} (h : (result >>= f) = .ok b) :
    ∃ a, result = .ok a ∧ f a = .ok b := by
  cases result with
  | error error => cases h
  | ok a => exact ⟨a, rfl, h⟩

/-- A result that passes a test is a value that does. -/
theorem ok_of_any {test : α → Bool} (h : result.toOption.any test = true) :
    ∃ a, result = .ok a ∧ test a = true := by
  cases result with
  | error error => cases h
  | ok a => exact ⟨a, rfl, h⟩

/-- Whatever value a computation ends with has the property. -/
def Yields (P : α → Prop) (result : Except ε α) : Prop := ∀ a, result = .ok a → P a

namespace Yields

variable {P : α → Prop} {Q : β → Prop}

theorem ok {a : α} (h : P a) : Yields P (.ok a : Except ε α) := by
  intro b hb
  cases hb
  exact h

theorem error {error : ε} : Yields P (.error error) := by
  intro a h
  cases h

theorem bind {f : α → Except ε β} (h : Yields P result) (hnext : ∀ a, P a → Yields Q (f a)) :
    Yields Q (result >>= f) := by
  intro b hb
  obtain ⟨a, ha, hb⟩ := ok_of_bind hb
  exact hnext a (h a ha) b hb

/-- Two computations that begin in the same way and go on in the same way are the same. -/
theorem bind_congr {f g : α → Except ε β} (h : Yields P result) (hnext : ∀ a, P a → f a = g a) :
    (result >>= f) = (result >>= g) := by
  cases result with
  | error error => rfl
  | ok a => exact hnext a (h a rfl)

/-- What a computation ends with may have a property whatever it began with. -/
theorem last {f : α → Except ε β} (h : ∀ a, Yields Q (f a)) : Yields Q (result >>= f) := by
  intro b hb
  obtain ⟨a, _, hb⟩ := ok_of_bind hb
  exact h a b hb

end Yields

end Values

/-! ## Results with other values and errors -/

/-- The result with another value, or another error. -/
def mapBoth {ε δ α β : Type} (onError : ε → δ) (onValue : α → β) : Except ε α → Except δ β
  | .error error => .error (onError error)
  | .ok a => .ok (onValue a)

/-! ## Computations that fail -/

/-- Whatever error a computation ends with has the property. -/
def Raises {ε α : Type} (P : ε → Prop) (result : Except ε α) : Prop :=
  ∀ error, result = .error error → P error

namespace Raises

variable {ε α β : Type} {P : ε → Prop}

theorem ok {a : α} : Raises P (.ok a) := by
  intro error h
  cases h

theorem error {error : ε} (h : P error) : Raises P (.error error : Except ε α) := by
  intro other hother
  cases hother
  exact h

theorem ite {c : Prop} [Decidable c] {first second : Except ε α} (hfirst : c → Raises P first)
    (hsecond : ¬c → Raises P second) : Raises P (if c then first else second) := by
  split
  · rename_i hc
    exact hfirst hc
  · rename_i hc
    exact hsecond hc

theorem bind {result : Except ε α} (h : Raises P result) {f : α → Except ε β}
    (hnext : ∀ a, result = .ok a → Raises P (f a)) : Raises P (result >>= f) := by
  cases result with
  | error error => exact .error (h error rfl)
  | ok a => exact hnext a rfl

theorem foldlM {f : β → α → Except ε β} {as : List α} (h : ∀ a ∈ as, ∀ b, Raises P (f b a))
    (b : β) : Raises P (as.foldlM f b) := by
  induction as generalizing b with
  | nil => exact .ok
  | cons a as ih =>
    obtain ⟨ha, has⟩ := List.forall_mem_cons.mp h
    rw [List.foldlM_cons]
    exact (ha b).bind fun next _ => ih has next

end Raises

/-! ## Computations that end in one of two ways -/

/-- An error that a computation ends with has the one property, a value has the other. -/
structure Ends {ε α : Type} (E : ε → Prop) (P : α → Prop) (result : Except ε α) : Prop where
  raises : Raises E result
  yields : Yields P result

namespace Ends

variable {ε α β : Type} {E : ε → Prop} {P : α → Prop} {Q : β → Prop} {result : Except ε α}

theorem ok {a : α} (h : P a) : Ends E P (.ok a) := ⟨.ok, .ok h⟩

theorem error {error : ε} (h : E error) : Ends E P (.error error) := ⟨.error h, .error⟩

theorem bind {f : α → Except ε β} (h : Ends E P result) (hnext : ∀ a, P a → Ends E Q (f a)) :
    Ends E Q (result >>= f) where
  raises := h.raises.bind fun a ha => (hnext a (h.yields a ha)).raises
  yields := h.yields.bind fun a ha => (hnext a ha).yields

end Ends

/-! ## Related results -/

/-- Both results are values that are related, or both are errors that are. -/
inductive Related {ε δ α β : Type} (E : ε → δ → Prop) (R : α → β → Prop) :
    Except ε α → Except δ β → Prop
  | error {e e'} (related : E e e') : Related E R (.error e) (.error e')
  | ok {a b} (related : R a b) : Related E R (.ok a) (.ok b)

namespace Related

variable {ε δ α β γ κ : Type} {E : ε → δ → Prop} {R : α → β → Prop} {first : Except ε α}
  {second : Except δ β}

theorem bind {S : γ → κ → Prop} {f : α → Except ε γ} {g : β → Except δ κ}
    (h : Related E R first second) (hnext : ∀ a b, R a b → Related E S (f a) (g b)) :
    Related E S (first >>= f) (second >>= g) := by
  cases h with
  | error related => exact .error related
  | ok related => exact hnext _ _ related

theorem mono {E' : ε → δ → Prop} {R' : α → β → Prop} (h : Related E R first second)
    (herrors : ∀ e e', E e e' → E' e e') (hvalues : ∀ a b, R a b → R' a b) :
    Related E' R' first second := by
  cases h with
  | error related => exact .error (herrors _ _ related)
  | ok related => exact .ok (hvalues _ _ related)

theorem refl {E : ε → ε → Prop} (hrefl : ∀ e, E e e) (result : Except ε α) :
    Related E Eq result result := by
  cases result with
  | error error => exact .error (hrefl error)
  | ok value => exact .ok rfl

theorem eq {first second : Except ε α} (h : Related Eq Eq first second) : first = second := by
  cases h with
  | error related => rw [related]
  | ok related => rw [related]

/-- A value that is related to another one has what any value of its computation has. -/
theorem and_yields {P : α → Prop} (h : Related E R first second) (hfirst : Yields P first) :
    Related E (fun a b => R a b ∧ P a) first second := by
  cases h with
  | error related => exact .error related
  | ok related => exact .ok ⟨related, hfirst _ rfl⟩

/-- Where the errors have the same image and the second value is the image of the first one, so do
    the results. -/
theorem mapBoth_eq {onError : ε → κ} {onError' : δ → κ} {onValue : α → β}
    (h : Related (fun e e' => onError e = onError' e') (fun a b => b = onValue a) first second) :
    mapBoth onError onValue first = mapBoth onError' id second := by
  cases h with
  | error related => exact congrArg Except.error related
  | ok related => exact congrArg Except.ok related.symm

/-- The results are the same with other values, if these are. -/
theorem mapBoth_id_iff {first : Except ε α} {second : Except ε β} {f : α → κ} {g : β → κ} :
    mapBoth id f first = mapBoth id g second ↔ Related Eq (fun a b => f a = g b) first second := by
  constructor
  · intro h
    cases first with
    | error error =>
      cases second with
      | error error' => exact .error (Except.error.inj h)
      | ok b => cases h
    | ok a =>
      cases second with
      | error error => cases h
      | ok b => exact .ok (Except.ok.inj h)
  · intro h
    cases h with
    | error related => exact congrArg Except.error related
    | ok related => exact congrArg Except.ok related

/-- The errors of a result that is related to another one. -/
theorem raises {P : ε → Prop} (h : Related E R first second) (herrors : ∀ e e', E e e' → P e) :
    Raises P first := by
  cases h with
  | error related => exact .error (herrors _ _ related)
  | ok related => exact .ok

end Related

/-! ## Refinement -/

/-- The second result is what the first one is, up to a relation of values. It can be anything where
    the first one is cut short by the limit of nesting. -/
inductive Refines {α β : Type} (R : α → β → Prop) : Except EvalError α → Except EvalError β → Prop
  | cut (limit position : Nat) (result) : Refines R (.error (.nestingTooDeep limit position)) result
  | error (error) : Refines R (.error error) (.error error)
  | ok {a b} (related : R a b) : Refines R (.ok a) (.ok b)

namespace Refines

variable {α β γ δ : Type}

theorem refl (result : Except EvalError α) : Refines Eq result result := by
  cases result with
  | error error => exact .error error
  | ok value => exact .ok rfl

/-- Only values that the second computation ends with have to go on in the same way. -/
theorem bind_of_ok {R : α → β → Prop} {S : γ → δ → Prop} {first : Except EvalError α}
    {second : Except EvalError β} (h : Refines R first second) {f : α → Except EvalError γ}
    {g : β → Except EvalError δ} (hnext : ∀ a b, second = .ok b → R a b → Refines S (f a) (g b)) :
    Refines S (first >>= f) (second >>= g) := by
  cases h with
  | cut limit position result => exact .cut limit position _
  | error error => exact .error error
  | ok related => exact hnext _ _ rfl related

theorem bind {R : α → β → Prop} {S : γ → δ → Prop} {first : Except EvalError α}
    {second : Except EvalError β} (h : Refines R first second) {f : α → Except EvalError γ}
    {g : β → Except EvalError δ} (hnext : ∀ a b, R a b → Refines S (f a) (g b)) :
    Refines S (first >>= f) (second >>= g) :=
  h.bind_of_ok fun a b _ => hnext a b

theorem mono {R R' : α → β → Prop} {first : Except EvalError α} {second : Except EvalError β}
    (h : Refines R first second) (hvalues : ∀ a b, R a b → R' a b) : Refines R' first second := by
  cases h with
  | cut limit position result => exact .cut limit position _
  | error error => exact .error error
  | ok related => exact .ok (hvalues _ _ related)

/-- A result that is not cut short is matched by the other one. -/
theorem related_of_not_cut {R : α → β → Prop} {first : Except EvalError α}
    {second : Except EvalError β} (h : Refines R first second)
    (hcut : ∀ limit position, first ≠ .error (.nestingTooDeep limit position)) :
    Related Eq R first second := by
  cases h with
  | cut limit position result => exact absurd rfl (hcut limit position)
  | error error => exact .error rfl
  | ok related => exact .ok related

/-- A result that is not cut short is the same. -/
theorem eq_of_not_cut {first second : Except EvalError α} (h : Refines Eq first second)
    (hcut : ∀ limit position, first ≠ .error (.nestingTooDeep limit position)) :
    second = first :=
  (h.related_of_not_cut hcut).eq.symm

end Refines

end Formula

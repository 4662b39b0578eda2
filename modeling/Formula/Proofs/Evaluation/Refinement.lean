-- SUMMARY: Evaluating other trees in the place of operands: one step refines another if evaluating the operands does.
import Formula.Proofs.Evaluation.Comparison

/-!
# Evaluating other trees in the place of operands

Two ways to evaluate trees are compared along a relation of trees: the second way simulates the
first one if its results on related trees refine those of the first one (`Simulates`). Then one step
into related nodes refines as well (`Scope.step_refines`), since errors are never caught.
-/

namespace Formula

variable {T : Tree → Tree → Prop} {evaluate evaluate' : Evaluator} {scope : Scope} {token : Token}

/-- The second way to evaluate refines the first one on related trees. -/
def Simulates (T : Tree → Tree → Prop) (evaluate evaluate' : Evaluator) : Prop :=
  ∀ s s', T s s' → Refines Eq (evaluate s) (evaluate' s')

/-- A token reports the same as itself. -/
theorem Reports.eq {complete : Prop} {error error' : EvalError}
    (h : Reports complete token token error error') : error = error' := by
  cases h with
  | call reported =>
    obtain ⟨fault, _, rfl, rfl⟩ := reported
    rfl
  | _ => rfl

namespace Scope

/-- One step into related nodes refines if evaluating related trees does. -/
theorem step_refines (h : Simulates T evaluate evaluate')
    (hnames : ∀ name s, scope.lookup? name = some (.tree s) → T s s)
    (htoken : scope.Transparent token) {children children' : List Tree}
    (hchildren : Alike T token children children') :
    Refines Eq (scope.step evaluate (.node token children))
      (scope.step evaluate' (.node token children')) :=
  Comparison.step (C := .refinement) False h (.refl scope token) (fun _ s hs => hnames _ s hs) htoken
    False.elim (fun _ _ h => h.eq) hchildren

end Scope

end Formula

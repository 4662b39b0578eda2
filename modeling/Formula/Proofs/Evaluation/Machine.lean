-- SUMMARY: The evaluation of a tree as a machine with a counter of nesting and a stack of evaluations that wait: the counter is the number of nested evaluations, and every run ends with the value of the tree and the counter as it was.
import Formula.Proofs.Evaluation.Program
import Mathlib.Logic.Function.Iterate

/-!
# The evaluation as a machine

One evaluation of a tree reads the counter of nesting. Unless the limit is reached it raises the
counter by one, runs the program of the tree, and puts the counter back to what it was before it
returns, also with an error. While it asks for the value of another tree it waits.

`Machine.Accounted` is the invariant of the steps: the counter is the number of evaluations that are
under way, and each of them has noted how many there were before it. `reaches_returned` says that a
call ends, with the value that `Scope.evaluateWithin` gives and the counter of its beginning.
-/

namespace Formula

/-! ## States -/

/-- What the machine is about to do. -/
inductive Control where
  /-- A tree is to be evaluated. -/
  | call (tree : Tree)
  /-- The program of a tree is running. The counter was `saved` when its evaluation began. -/
  | inside (saved : Nat) (rest : Program Value)
  /-- The value of a tree goes to the evaluation that asked for it. -/
  | returned (result : Except EvalError Value)

/-- An evaluation that waits for the value of another tree. -/
structure Waiting where
  saved : Nat
  next : Except EvalError Value → Program Value

structure Machine where
  control : Control
  /-- The evaluations that wait, the innermost one first. -/
  waiting : List Waiting
  counter : Nat

namespace Machine

/-- The number of evaluations that are under way. A call that has not passed the check of the
    counter is none of them. -/
def nested (machine : Machine) : Nat :=
  match machine.control with
  | .inside _ _ => machine.waiting.length + 1
  | _ => machine.waiting.length

end Machine

/-! ## Steps -/

namespace Scope

/-- One step. A machine that has returned its result to nobody stays as it is. -/
def next (scope : Scope) (hosts : Hosts) : Machine → Machine
  | ⟨.call tree, waiting, counter⟩ =>
    if scope.settings.maxNesting ≤ counter then
      let error := .nestingTooDeep scope.settings.maxNesting tree.token.position
      ⟨.returned (.error error), waiting, counter⟩
    else ⟨.inside counter (scope.program hosts tree), waiting, counter + 1⟩
  | ⟨.inside saved (.ask tree next), waiting, counter⟩ =>
    ⟨.call tree, ⟨saved, next⟩ :: waiting, counter⟩
  | ⟨.inside saved (.done result), waiting, _⟩ =>
    ⟨.returned (do return (← result).finish scope.settings), waiting, saved⟩
  | ⟨.returned result, ⟨saved, next⟩ :: waiting, counter⟩ =>
    ⟨.inside saved (next result), waiting, counter⟩
  | ⟨.returned result, [], counter⟩ => ⟨.returned result, [], counter⟩

end Scope

/-! ## The counter -/

namespace Machine

variable {scope : Scope} {hosts : Hosts} {start : Nat} {machine : Machine}

/-- Each evaluation that waits has noted how many began before it. -/
def Noted (start : Nat) : List Waiting → Prop
  | [] => True
  | first :: others => first.saved = start + others.length ∧ Noted start others

/-- The counter was `start` in the beginning, and is higher by the number of nested evaluations,
    which the limit bounds. -/
structure Accounted (scope : Scope) (start : Nat) (machine : Machine) : Prop where
  counter : machine.counter = start + machine.nested
  bounded : machine.nested ≤ scope.settings.maxNesting - start
  saved : ∀ saved rest, machine.control = .inside saved rest →
    saved = start + machine.waiting.length
  noted : Noted start machine.waiting

theorem accounted_call (scope : Scope) (start : Nat) (tree : Tree) :
    Accounted scope start ⟨.call tree, [], start⟩ where
  counter := rfl
  bounded := Nat.zero_le _
  saved _ _ h := by cases h
  noted := trivial

/-- A step keeps the account. -/
theorem Accounted.next (h : Accounted scope start machine) :
    Accounted scope start (scope.next hosts machine) := by
  obtain ⟨control, waiting, counter⟩ := machine
  obtain ⟨hcounter, hbounded, hsaved, hnoted⟩ := h
  match control, waiting with
  | .call tree, waiting =>
    simp only [nested] at hcounter hbounded
    simp only [Scope.next]
    split
    · exact ⟨hcounter, hbounded, by simp, hnoted⟩
    · refine ⟨by simp only [nested]; omega, by simp only [nested]; omega, ?_, hnoted⟩
      rintro saved rest ⟨⟩
      exact hcounter
  | .inside saved (.ask tree next), waiting =>
    exact ⟨hcounter, hbounded, by simp [Scope.next], hsaved saved _ rfl, hnoted⟩
  | .inside saved (.done result), waiting =>
    simp only [nested] at hbounded
    exact ⟨hsaved saved _ rfl, Nat.le_of_succ_le hbounded, by simp [Scope.next], hnoted⟩
  | .returned result, ⟨saved, next⟩ :: waiting =>
    refine ⟨hcounter, hbounded, ?_, hnoted.2⟩
    rintro saved rest ⟨⟩
    exact hnoted.1
  | .returned result, [] => exact ⟨hcounter, hbounded, hsaved, hnoted⟩

/-- The account is kept all the time. -/
theorem Accounted.iterate (h : Accounted scope start machine) (steps : Nat) :
    Accounted scope start ((scope.next hosts)^[steps] machine) := by
  induction steps generalizing machine with
  | zero => exact h
  | succ steps ih => exact ih h.next

end Machine

/-! ## The end of a run -/

namespace Scope

variable {scope : Scope} {hosts : Hosts}

/-- The first machine becomes the second one in some number of steps. -/
def Reaches (scope : Scope) (hosts : Hosts) (first last : Machine) : Prop :=
  ∃ steps, (scope.next hosts)^[steps] first = last

namespace Reaches

variable {first middle last : Machine}

theorem refl (machine : Machine) : scope.Reaches hosts machine machine := ⟨0, rfl⟩

theorem trans (h : scope.Reaches hosts first middle) (h' : scope.Reaches hosts middle last) :
    scope.Reaches hosts first last := by
  obtain ⟨steps, rfl⟩ := h
  obtain ⟨more, rfl⟩ := h'
  exact ⟨more + steps, Function.iterate_add_apply _ more steps first⟩

theorem step (h : scope.Reaches hosts (scope.next hosts first) last) :
    scope.Reaches hosts first last := by
  obtain ⟨steps, rfl⟩ := h
  exact ⟨steps + 1, rfl⟩

/-- A machine that has returned its result to nobody has come to its end. -/
theorem eq_of_returned {result result' : Except EvalError Value} {counter counter' : Nat}
    (h : scope.Reaches hosts first ⟨.returned result, [], counter⟩)
    (h' : scope.Reaches hosts first ⟨.returned result', [], counter'⟩) :
    result = result' ∧ counter = counter' := by
  obtain ⟨steps, hsteps⟩ := h
  obtain ⟨steps', hsteps'⟩ := h'
  have hstays : ∀ result counter more,
      (scope.next hosts)^[more] ⟨.returned result, [], counter⟩ = ⟨.returned result, [], counter⟩ :=
    fun result counter more => Function.iterate_fixed rfl more
  have hfirst := Function.iterate_add_apply (scope.next hosts) steps' steps first
  have hsecond := Function.iterate_add_apply (scope.next hosts) steps steps' first
  rw [hsteps, hstays] at hfirst
  rw [hsteps', hstays, Nat.add_comm, hfirst] at hsecond
  cases hsecond
  exact ⟨rfl, rfl⟩

end Reaches

/-- If every call returns the value of its tree, and leaves the counter and the evaluations that
    wait as they are, then a program comes to the end with its result. -/
theorem reaches_done {evaluate : Evaluator} {counter : Nat}
    (hcalls : ∀ tree waiting, scope.Reaches hosts ⟨.call tree, waiting, counter⟩
      ⟨.returned (evaluate tree), waiting, counter⟩)
    (saved : Nat) (program : Program Value) (waiting : List Waiting) :
    scope.Reaches hosts ⟨.inside saved program, waiting, counter⟩
      ⟨.inside saved (.done (program.run evaluate)), waiting, counter⟩ := by
  induction program with
  | done result => exact .refl _
  | ask tree next ih =>
    apply Reaches.step
    apply (hcalls tree (⟨saved, next⟩ :: waiting)).trans
    apply Reaches.step
    exact ih (evaluate tree)

/-- A call returns the value of its tree, and leaves the counter and the evaluations that wait as
    they are. -/
theorem reaches_returned (hhosts : scope.Follows hosts) (levels : Nat) :
    ∀ (counter : Nat) (tree : Tree) (waiting : List Waiting),
      scope.settings.maxNesting - counter = levels →
      scope.Reaches hosts ⟨.call tree, waiting, counter⟩
        ⟨.returned (scope.evaluateWithin levels tree), waiting, counter⟩ := by
  -- The budget of levels falls with each call, also where a variable leads to another tree; within
  -- one evaluation the program of the tree comes to its end.
  induction levels with
  | zero =>
    intro counter tree waiting hlevels
    apply Reaches.step
    rw [next, if_pos (by omega)]
    exact .refl _
  | succ levels ih =>
    intro counter tree waiting hlevels
    apply Reaches.step
    rw [next, if_neg (by omega)]
    have hcalls := fun tree waiting => ih (counter + 1) tree waiting (by omega)
    apply (reaches_done hcalls counter (scope.program hosts tree) waiting).trans
    rw [run_program hhosts]
    exact ⟨1, rfl⟩

end Scope
end Formula

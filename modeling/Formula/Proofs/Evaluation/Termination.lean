-- SUMMARY: Every evaluation ends, within the limit of nesting, and a variable that needs its own value has none.
import Formula.Proofs.Evaluation.Machine
import Formula.Proofs.Evaluation.Substitution
import Mathlib.Logic.Relation

/-!
# Evaluation ends

Variables can stand for trees that mention them. An evaluation ends nevertheless, since each nested
evaluation takes a level of a limited number (`evaluation_ends`). If the value of a tree needs that
of another one, and there are levels enough for the first, then there are for the second with one
level less (`value_of_needs`). So a tree whose value needs itself has no value with any number of
levels.
-/

namespace Formula

namespace Scope

variable {scope : Scope} {evaluate : Evaluator}

/-! ## Values that are needed -/

/-- The tree is a name that stands for another tree. -/
def Stands (scope : Scope) (tree body : Tree) : Prop :=
  tree.token.kind = .name ∧ scope.lookup? tree.token.lexeme = some (.tree body)

/-- The first tree has a value only if the second one has. -/
inductive Needs (scope : Scope) : Tree → Tree → Prop
  | operand {token children child} {operator : Operator} (kind : token.kind.fixity?.isSome = true)
      (found : scope.operatorOf? token = some operator) (eager : operator.rule.lazy = false)
      (mem : child ∈ children) : Needs scope (.node token children) child
  | argument {token children child} {function : LibraryFunction} {index : Nat}
      (kind : token.kind = .function) (found : scope.functionOf? token = some function)
      (eager : isLazy function.signature index = false) (at_index : children[index]? = some child) :
      Needs scope (.node token children) child
  | array {token array index} (kind : token.kind = .arrayIndex) :
      Needs scope (.node token [array, index]) array
  | index {token array index} (kind : token.kind = .arrayIndex) :
      Needs scope (.node token [array, index]) index
  | base {token base fields} (kind : token.kind = .separator) :
      Needs scope (.node token (base :: fields)) base
  | body {tree body} (stands : scope.Stands tree body) : Needs scope tree body

theorem operandValues_cons (lazy : Nat → Bool) (index : Nat) (tree : Tree) (rest : List Tree) :
    operandValues evaluate lazy index (tree :: rest) =
      ((if lazy index then .ok (.tree tree) else evaluate tree) >>= fun value =>
        operandValues evaluate lazy (index + 1) rest >>= fun others => .ok (value :: others)) := by
  rw [operandValues]
  split <;> rfl

/-- If operands have values, each of them has one that is not lazy. -/
theorem value_of_operandValues {lazy : Nat → Bool} {start : Nat} {children : List Tree}
    {values : List Value} (h : operandValues evaluate lazy start children = .ok values)
    {index : Nat} {child : Tree} (hchild : children[index]? = some child)
    (heager : lazy (start + index) = false) : ∃ value, evaluate child = .ok value := by
  induction children generalizing start index values with
  | nil => simp at hchild
  | cons first rest ih =>
    rw [operandValues_cons] at h
    obtain ⟨value, hvalue, h⟩ := ok_of_bind h
    obtain ⟨others, hothers, _⟩ := ok_of_bind h
    cases index with
    | zero =>
      cases hchild
      rw [Nat.add_zero] at heager
      rw [heager] at hvalue
      exact ⟨value, hvalue⟩
    | succ index =>
      exact ih hothers hchild (by rwa [Nat.add_assoc, Nat.add_comm 1 index])

theorem value_of_operatorValue {token : Token} {children : List Tree} {operator : Operator}
    (hfound : scope.operatorOf? token = some operator) (heager : operator.rule.lazy = false)
    {value : Value} (h : scope.operatorValue evaluate token children = .ok value) {child : Tree}
    (hchild : child ∈ children) : ∃ value, evaluate child = .ok value := by
  simp only [operatorValue, hfound] at h
  split at h
  · obtain ⟨values, hvalues, _⟩ := ok_of_bind h
    obtain ⟨index, hindex⟩ := List.getElem?_of_mem hchild
    exact value_of_operandValues hvalues hindex heager
  · cases h

theorem value_of_functionValue {token : Token} {children : List Tree} {function : LibraryFunction}
    (hfound : scope.functionOf? token = some function) {index : Nat}
    (heager : isLazy function.signature index = false) {value : Value}
    (h : scope.functionValue evaluate token children = .ok value) {child : Tree}
    (hchild : children[index]? = some child) : ∃ value, evaluate child = .ok value := by
  simp only [functionValue, hfound] at h
  obtain ⟨values, hvalues, _⟩ := ok_of_bind h
  exact value_of_operandValues hvalues hchild (by rwa [Nat.zero_add])

/-- A step with a value has evaluated each tree that is needed to one. -/
theorem value_of_needs_step {tree child : Tree} (hneeds : scope.Needs tree child) {value : Value}
    (h : scope.step evaluate tree = .ok value) : ∃ value, evaluate child = .ok value := by
  cases hneeds with
  | @operand token children _ operator kind found eager mem =>
    rw [step_operator kind] at h
    exact value_of_operatorValue found eager h mem
  | argument kind found eager at_index =>
    simp only [step, Tree.token, Tree.children, kind] at h
    exact value_of_functionValue found eager h at_index
  | array kind =>
    simp only [step, Tree.token, Tree.children, kind] at h
    obtain ⟨array, harray, _⟩ := ok_of_bind h
    exact ⟨array, harray⟩
  | index kind =>
    simp only [step, Tree.token, Tree.children, kind] at h
    obtain ⟨_, _, h⟩ := ok_of_bind h
    obtain ⟨index, hindex, _⟩ := ok_of_bind h
    exact ⟨index, hindex⟩
  | @base token base fields kind =>
    simp only [step, Tree.token, Tree.children, kind] at h
    cases fields with
    | nil => cases h
    | cons field more =>
      cases more with
      | nil =>
        obtain ⟨base, hbase, _⟩ := ok_of_bind h
        exact ⟨base, hbase⟩
      | cons => cases h
  | body stands =>
    obtain ⟨hkind, hbound⟩ := stands
    simp only [step, hkind, namedValue, hbound] at h
    exact ⟨value, h⟩

/-- A tree that has a value with one level more has evaluated each tree that it needs to one. -/
theorem value_of_needs {tree child : Tree} (hneeds : scope.Needs tree child) {levels : Nat}
    {value : Value} (h : scope.evaluateWithin levels tree = .ok value) :
    ∃ fewer < levels, ∃ value, scope.evaluateWithin fewer child = .ok value := by
  cases levels with
  | zero => cases h
  | succ levels =>
    obtain ⟨stepped, hstep, _⟩ := ok_of_bind h
    exact ⟨levels, Nat.lt_succ_self levels, value_of_needs_step hneeds hstep⟩

theorem value_of_transGen_needs {tree child : Tree}
    (hneeds : Relation.TransGen scope.Needs tree child) {levels : Nat} {value : Value}
    (h : scope.evaluateWithin levels tree = .ok value) :
    ∃ fewer < levels, ∃ value, scope.evaluateWithin fewer child = .ok value := by
  induction hneeds with
  | single hneeds => exact value_of_needs hneeds h
  | tail _ hneeds ih =>
    obtain ⟨fewer, hfewer, _, hmiddle⟩ := ih
    obtain ⟨fewest, hfewest, hchild⟩ := value_of_needs hneeds hmiddle
    exact ⟨fewest, Nat.lt_trans hfewest hfewer, hchild⟩

/-- A tree whose value needs itself has none. -/
theorem ne_ok_of_needs_self {tree : Tree} (hneeds : Relation.TransGen scope.Needs tree tree)
    (levels : Nat) : ∀ value, scope.evaluateWithin levels tree ≠ .ok value := by
  induction levels using Nat.strongRecOn with
  | _ levels ih =>
    intro value h
    obtain ⟨fewer, hfewer, other, hother⟩ := value_of_transGen_needs hneeds h
    exact ih fewer hfewer other hother

/-! ## The end of an evaluation -/

/-- The call of an evaluation, with any value of the counter and whatever constants and variables
    stand for, returns the value or error that the levels left allow, and the counter is what it was
    before. During an evaluation no more evaluations are nested than levels were left, and the
    counter counts them. A name that stands for a tree in which, in a place that is evaluated in any
    case, a name stands for the same tree, never evaluates to a value. -/
theorem evaluation_ends {hosts : Hosts} (hhosts : scope.Follows hosts) :
    (∀ (tree : Tree) (counter : Nat) (waiting : List Waiting),
      scope.Reaches hosts ⟨.call tree, waiting, counter⟩
        ⟨.returned (scope.evaluateWithin (scope.settings.maxNesting - counter) tree), waiting,
          counter⟩) ∧
    (∀ (tree : Tree) (counter steps : Nat),
      let machine := (scope.next hosts)^[steps] ⟨.call tree, [], counter⟩
      machine.nested ≤ scope.settings.maxNesting - counter ∧
        machine.counter = counter + machine.nested) ∧
    (∀ (tree body mention : Tree), scope.Stands tree body →
      Relation.ReflTransGen scope.Needs body mention → scope.Stands mention body →
      ∀ levels value, scope.evaluateWithin levels tree ≠ .ok value) := by
  refine ⟨fun tree counter waiting => ?_, fun tree counter steps => ?_, ?_⟩
  · exact reaches_returned hhosts _ counter tree waiting rfl
  · have haccount :
        Machine.Accounted scope counter ((scope.next hosts)^[steps] ⟨.call tree, [], counter⟩) :=
      (Machine.accounted_call scope counter tree).iterate steps
    exact ⟨haccount.bounded, haccount.counter⟩
  · intro tree body mention hstands hneeds hmention levels value h
    obtain ⟨fewer, _, other, hbody⟩ := value_of_needs (.body hstands) h
    have hself := Relation.TransGen.tail' hneeds (.body hmention)
    exact ne_ok_of_needs_self hself fewer other hbody

/-- A function of the host that evaluates its argument twice. -/
def again : HostProgram := fun _ _ _ arguments => do
  let _ ← Program.force (arguments.headD .null)
  Program.force (arguments.headD .null)

/-- The standard configuration with `AGAIN`. -/
def againConfiguration : Configuration :=
  Configuration.standard.withFunction "AGAIN" ⟨[BuiltIn.onDemand "value"]⟩ again.behaviour

/-- A scope with `x` bound to a tree. -/
def cyclicScope (body : Tree) : Scope where
  configuration := againConfiguration
  constants := Configuration.standardConstants
  store := .table [("X", .tree body)]
  ambient := ⟨.epoch, fun _ => 0⟩

theorem follows_cyclicScope (body : Tree) : (cyclicScope body).Follows ⟨#[], #[again]⟩ where
  operators := by simp [cyclicScope, againConfiguration, Configuration.withFunction,
    Configuration.standard]
  functions := by simp [cyclicScope, againConfiguration, Configuration.withFunction,
    Configuration.standard]

theorem stands_cyclicScope {tree body : Tree} (h : isName "x" tree.token = true) :
    (cyclicScope body).Stands tree body := by
  have hname : Text.upper "x" = "X" := by decide +kernel
  have hbound : (cyclicScope body).store.get? "x" = some (.tree body) := by
    simp [cyclicScope, VariableStore.get?, hname, Dictionary.find?]
  have hkind := h
  simp only [isName, Bool.and_eq_true, beq_iff_eq] at hkind
  exact ⟨hkind.1, lookup?_of_isName rfl find?_standardConstants_x hbound h⟩

/-- With `x` bound to `x + 1`, the evaluation of `X` ends, but not with a value. -/
theorem evaluation_ends_cyclic : ∃ tree body : Tree,
    againConfiguration.parse "X" = .ok tree ∧ againConfiguration.parse "x + 1" = .ok body ∧
    (cyclicScope body).Stands tree body ∧
    (cyclicScope body).Reaches ⟨#[], #[again]⟩ ⟨.call tree, [], 0⟩
      ⟨.returned ((cyclicScope body).evaluate tree), [], 0⟩ ∧
    ∀ value, (cyclicScope body).evaluate tree ≠ .ok value := by
  have hrun : ((againConfiguration.parse "X").toOption.any fun tree =>
      (againConfiguration.parse "x + 1").toOption.any fun body =>
      isName "x" tree.token && body.token.kind.fixity?.isSome &&
        (body.token.operator?.any fun operator => !operator.rule.lazy) &&
        body.children.any fun child => isName "x" child.token) = true := by
    decide +kernel
  obtain ⟨tree, htree, hrun⟩ := ok_of_any hrun
  obtain ⟨⟨token, children⟩, hbody, hrun⟩ := ok_of_any hrun
  simp only [Tree.token, Tree.children, Bool.and_eq_true, Option.any_eq_true, Bool.not_eq_true',
    List.any_eq_true] at hrun
  obtain ⟨⟨⟨hx, hkind⟩, operator, hbound, heager⟩, mention, hmember, hmention⟩ := hrun
  have hfound : (cyclicScope (.node token children)).operatorOf? token = some operator := by
    rw [operatorOf?, hbound]
    rfl
  have hends := evaluation_ends (follows_cyclicScope (.node token children))
  refine ⟨tree, _, htree, hbody, stands_cyclicScope hx, hends.1 tree 0 [], ?_⟩
  exact hends.2.2 tree _ mention (stands_cyclicScope hx)
    (.single (.operand hkind hfound heager hmember)) (stands_cyclicScope hmention) _

end Scope
end Formula

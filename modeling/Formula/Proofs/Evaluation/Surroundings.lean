-- SUMMARY: The present instant and the random numbers make no difference to an evaluation that nothing in it asks for them.
import Formula.Proofs.Evaluation.Contents
import Formula.Proofs.Evaluation.Program
import Formula.Proofs.Parsing.Shape
import Formula.Proofs.Tree.Nodes

/-!
# The surroundings of an evaluation

Three functions look at what an evaluation takes from outside: the one for random numbers, and those
for the present instant and the present day. Where none of them is in reach, an evaluation gives the
same result in all surroundings (`Scope.evaluateWithin_steady`).

What is in reach are the trees that an evaluation comes to, and it may come to trees inside of
values. So it is shown along with this that no other tree gets into a value (`Program.Meets`).
-/

namespace Formula

/-! ## What a program asks for -/

namespace Program

variable {α β : Type} {P : Tree → Prop} {R : Value → Prop} {Q : α → Prop}

/-- The program asks for trees with a property as long as the answers have one, and what it yields
    has one as well. -/
def Meets (P : Tree → Prop) (R : Value → Prop) (Q : α → Prop) : Program α → Prop
  | done result => Yields Q result
  | ask tree next => P tree ∧ ∀ answer, Yields R answer → (next answer).Meets P R Q

theorem meets_pure {value : α} (h : Q value) : (pure value : Program α).Meets P R Q :=
  Yields.ok h

theorem meets_error (error : EvalError) : (done (.error error) : Program α).Meets P R Q :=
  Yields.error

theorem meets_demand {tree : Tree} (h : P tree) : (demand tree).Meets P R R :=
  ⟨h, fun _ hanswer => hanswer⟩

theorem meets_force {value : Value} (h : value.Holds P) :
    (force value).Meets P (Value.Holds P) (Value.Holds P) := by
  cases value with
  | tree tree => exact meets_demand (Value.holds_tree.mp h)
  | _ => exact meets_pure h

theorem Meets.bind {S : β → Prop} {program : Program α} (h : program.Meets P R Q)
    {f : α → Program β} (hnext : ∀ value, Q value → (f value).Meets P R S) :
    (program >>= f).Meets P R S := by
  induction program with
  | done result =>
    cases result with
    | error error => exact meets_error error
    | ok value => exact hnext value (h value rfl)
  | ask tree next ih => exact ⟨h.1, fun answer hanswer => ih answer (h.2 answer hanswer)⟩

/-- Two ways to evaluate that agree on the trees a program asks for give it the same result. -/
theorem Meets.run_eq {program : Program α} (h : program.Meets P R Q)
    {evaluate evaluate' : Evaluator}
    (hsame : ∀ tree, P tree → evaluate' tree = evaluate tree ∧ Yields R (evaluate tree)) :
    program.run evaluate' = program.run evaluate ∧ Yields Q (program.run evaluate) := by
  induction program with
  | done result => exact ⟨rfl, h⟩
  | ask tree next ih =>
    obtain ⟨heq, hanswer⟩ := hsame tree h.1
    simp only [run, heq]
    exact ih _ (h.2 _ hanswer)

end Program

/-! ## What does not depend on the surroundings -/

/-- Whether an action does without the surroundings. -/
def FunctionAction.isSteady : FunctionAction → Bool
  | .random | .now | .today => false
  | _ => true

/-- The function that the token is bound to, if it is one, does without the surroundings. -/
def Token.Steady (token : Token) : Prop :=
  token.kind = .function → ∀ function, token.function? = some function →
    function.action.isSteady = true

/-- The functions of the tree do without the surroundings. -/
def Tree.Steady (tree : Tree) : Prop := ∀ s ∈ tree.preorder, s.token.Steady

/-- A program of the host that does without the surroundings, and only comes to trees that do. -/
structure HostProgram.Steady (program : HostProgram) : Prop where
  ambient : ∀ settings ambient ambient' token operands,
    program settings ambient' token operands = program settings ambient token operands
  meets : ∀ settings ambient token operands, (∀ operand ∈ operands, operand.Holds Tree.Steady) →
    (program settings ambient token operands).Meets Tree.Steady (Value.Holds Tree.Steady)
      (Value.Holds Tree.Steady)

structure Hosts.Steady (hosts : Hosts) : Prop where
  operators : ∀ program ∈ hosts.operators, program.Steady
  functions : ∀ program ∈ hosts.functions, program.Steady

/-- All functions do without the surroundings, and so do the trees that names stand for. -/
structure Scope.Steady (scope : Scope) : Prop where
  functions : ∀ entry ∈ scope.configuration.functions.entries, entry.2.action.isSteady = true
  names : ∀ name value, scope.lookup? name = some value → value.Holds Tree.Steady

namespace Tree

theorem Steady.child {token : Token} {children : List Tree} (h : (node token children).Steady)
    {child : Tree} (hchild : child ∈ children) : child.Steady :=
  fun s hs => h s (mem_preorder_node.mpr (.inr ⟨child, hchild, hs⟩))

/-- Without functions that look at the surroundings, no text is parsed to a tree that does. -/
theorem inductive_steady {L : Language}
    (h : ∀ entry ∈ L.functions.entries, entry.2.action.isSteady = true) :
    Parser.Inductive L Steady := by
  refine Parser.Inductive.of_tokens (Q := Token.Steady) ?plain ?operator ?call
  case plain =>
    intro token _ hfunction hkind
    exact absurd hkind hfunction
  case operator =>
    intro fixity sign hkind
    rw [sign.bound_kind] at hkind
    cases fixity <;> cases hkind
  case call =>
    intro callee _ function hfunction
    cases hfunction
    exact h _ (Dictionary.mem_of_find? callee.found)

end Tree

namespace Scope

variable {scope : Scope} {hosts : Hosts} {P : Tree → Prop} {token : Token}

/-! ## The trees that a step comes to -/

/-- The program asks for trees with a property only, and yields no others. -/
abbrev Within (P : Tree → Prop) (program : Program Value) : Prop :=
  program.Meets P (Value.Holds P) (Value.Holds P)

theorem shortCircuitProgram_within (decisive : Bool) {operands : List Value}
    (h : ∀ operand ∈ operands, operand.Holds P) :
    Within P (shortCircuitProgram decisive operands) := by
  unfold shortCircuitProgram
  split
  · rename_i left right
    have hleft := h left (by simp)
    have hright := h right (by simp)
    refine (Program.meets_force hleft).bind fun value _ => ?_
    split
    · exact Program.meets_pure (Value.holds_of_plain rfl)
    · refine (Program.meets_force hright).bind fun value _ => ?_
      exact Program.meets_pure (Value.holds_of_plain rfl)
  · exact Program.meets_pure (Value.holds_of_plain rfl)

theorem chooseProgram_within {arguments : List Value}
    (h : ∀ argument ∈ arguments, argument.Holds P) : Within P (chooseProgram arguments) := by
  unfold chooseProgram
  split
  · rename_i condition whenTrue whenFalse
    apply Program.meets_force
    split
    · exact h whenTrue (by simp)
    · exact h whenFalse (by simp)
  · exact Program.meets_pure (Value.holds_of_plain rfl)

theorem switchCasesProgram_within (value : Value) {arguments : List Value}
    (h : ∀ argument ∈ arguments, argument.Holds P) :
    Within P (switchCasesProgram value arguments) := by
  fun_induction switchCasesProgram value arguments with
  | case1 candidate result rest ih =>
    simp only [List.forall_mem_cons] at h
    obtain ⟨hcandidate, hresult, hrest⟩ := h
    refine (Program.meets_force hcandidate).bind fun other _ => ?_
    split
    · exact Program.meets_force hresult
    · exact ih hrest
  | case2 otherwise => exact Program.meets_force (h otherwise (by simp))
  | case3 => exact Program.meets_pure (Value.holds_of_plain rfl)

theorem switchProgram_within {arguments : List Value}
    (h : ∀ argument ∈ arguments, argument.Holds P) : Within P (switchProgram arguments) := by
  cases arguments with
  | nil => exact Program.meets_pure (Value.holds_of_plain rfl)
  | cons value cases => exact switchCasesProgram_within value (List.forall_mem_cons.mp h).2

theorem namedProgram_within (h : ∀ name value, scope.lookup? name = some value → value.Holds P) :
    Within P (scope.namedProgram token) := by
  unfold namedProgram
  cases hvalue : scope.lookup? token.lexeme with
  | none => exact Program.meets_error _
  | some value => exact Program.meets_force (h _ value hvalue)

theorem operandsProgram_meets (lazy : Nat → Bool) (index : Nat) {children : List Tree}
    (h : ∀ child ∈ children, P child) :
    (operandsProgram lazy index children).Meets P (Value.Holds P)
      (fun values => ∀ value ∈ values, value.Holds P) := by
  induction children generalizing index with
  | nil => exact Program.meets_pure (by simp)
  | cons child rest ih =>
    obtain ⟨hchild, hrest⟩ := List.forall_mem_cons.mp h
    have hfirst : Within P (if lazy index then pure (.tree child) else Program.demand child) := by
      split
      · exact Program.meets_pure (Value.holds_tree.mpr hchild)
      · exact Program.meets_demand hchild
    have hsteps : operandsProgram lazy index (child :: rest) =
        ((if lazy index then pure (.tree child) else Program.demand child) >>= fun value =>
          operandsProgram lazy (index + 1) rest >>= fun others => pure (value :: others)) := by
      rw [operandsProgram]
      split <;> rfl
    rw [hsteps]
    refine hfirst.bind fun value hvalue => (ih (index + 1) hrest).bind fun values hvalues => ?_
    exact Program.meets_pure (List.forall_mem_cons.mpr ⟨hvalue, hvalues⟩)

theorem itemAt_holds {array index : Value} (h : array.Holds P) :
    Yields (Value.Holds P) (itemAt token array index) := by
  unfold itemAt
  split
  · split
    · rename_i item hitem
      obtain ⟨_, _, hitem⟩ := Option.bind_eq_some_iff.mp hitem
      exact .ok (Value.holds_of_mem_array h (List.mem_of_getElem? hitem))
    · exact .error
  · exact .error
  · exact .error

theorem fieldOf_holds {field : Token} {value : Value} (h : value.Holds P) :
    Yields (Value.Holds P) (fieldOf token field value) := by
  unfold fieldOf
  split
  · split
    · rename_i found hfound
      exact .ok (Value.holds_of_mem_record h (Dictionary.mem_of_find? hfound))
    · exact .error
  · exact .error

theorem indexProgram_within {children : List Tree} (h : ∀ child ∈ children, P child) :
    Within P (indexProgram token children) := by
  unfold indexProgram
  split
  · rename_i array index
    refine (Program.meets_demand (h array (by simp))).bind fun items hitems => ?_
    refine (Program.meets_demand (h index (by simp))).bind fun position _ => ?_
    exact itemAt_holds hitems
  · exact Program.meets_error _

theorem fieldProgram_within {children : List Tree} (h : ∀ child ∈ children, P child) :
    Within P (fieldProgram token children) := by
  unfold fieldProgram
  split
  · rename_i base field
    refine (Program.meets_demand (h base (by simp))).bind fun value hvalue => ?_
    exact fieldOf_holds hvalue
  · exact Program.meets_error _

theorem applyOperatorProgram_within (hhosts : hosts.Steady) (action : OperatorAction)
    {operands : List Value} (h : ∀ operand ∈ operands, operand.Holds Tree.Steady) :
    Within Tree.Steady (scope.applyOperatorProgram hosts token action operands) := by
  cases action with
  | and => exact shortCircuitProgram_within false h
  | or => exact shortCircuitProgram_within true h
  | host number =>
    simp only [applyOperatorProgram]
    split
    · rename_i program hprogram
      exact (hhosts.operators program (Array.mem_of_getElem? hprogram)).meets _ _ _ _ h
    · exact Program.meets_error _
  | _ =>
    intro value hvalue
    exact Value.holds_of_plain (BuiltIn.applyOperator_plain (by simp) value hvalue)

theorem applyFunctionProgram_within (hhosts : hosts.Steady) (action : FunctionAction)
    {arguments : List Value} (h : ∀ argument ∈ arguments, argument.Holds Tree.Steady) :
    Within Tree.Steady (scope.applyFunctionProgram hosts token action arguments) := by
  cases action with
  | choose => exact chooseProgram_within h
  | switch => exact switchProgram_within h
  | coalesce => exact Yields.ok (BuiltIn.coalesce_holds h)
  | host number =>
    simp only [applyFunctionProgram]
    split
    · rename_i program hprogram
      exact (hhosts.functions program (Array.mem_of_getElem? hprogram)).meets _ _ _ _ h
    · exact Program.meets_error _
  | _ =>
    intro value hvalue
    exact Value.holds_of_plain (BuiltIn.applyFunction_plain rfl value hvalue)

theorem operatorProgram_within (hhosts : hosts.Steady) {children : List Tree}
    (h : ∀ child ∈ children, child.Steady) :
    Within Tree.Steady (scope.operatorProgram hosts token children) := by
  unfold operatorProgram
  cases scope.operatorOf? token with
  | none => exact Program.meets_error _
  | some operator =>
    simp only
    split
    · exact (operandsProgram_meets _ 0 h).bind fun operands hoperands =>
        applyOperatorProgram_within hhosts operator.action hoperands
    · exact Program.meets_error _

theorem functionProgram_within (hhosts : hosts.Steady) {children : List Tree}
    (h : ∀ child ∈ children, child.Steady) :
    Within Tree.Steady (scope.functionProgram hosts token children) := by
  unfold functionProgram
  cases scope.functionOf? token with
  | none => exact Program.meets_error _
  | some function =>
    refine (operandsProgram_meets _ 0 h).bind fun arguments harguments => ?_
    have hcheck : (Program.done (function.signature.check token arguments)).Meets Tree.Steady
        (Value.Holds Tree.Steady) (fun _ => True) := fun _ _ => trivial
    exact hcheck.bind fun _ _ => applyFunctionProgram_within hhosts function.action harguments

/-- A step into a steady tree comes to steady trees only. -/
theorem program_within (hscope : scope.Steady) (hhosts : hosts.Steady) {tree : Tree}
    (htree : tree.Steady) : Within Tree.Steady (scope.program hosts tree) := by
  obtain ⟨token, children⟩ := tree
  have hchildren : ∀ child ∈ children, child.Steady := fun child hchild => htree.child hchild
  simp only [program, Tree.token, Tree.children]
  cases token.kind with
  | number =>
    intro value hvalue
    unfold numberValue at hvalue
    split at hvalue
    · cases hvalue
      exact Value.holds_of_plain rfl
    · cases hvalue
  | text => exact Program.meets_pure (Value.holds_of_plain rfl)
  | name => exact namedProgram_within hscope.names
  | prefixOperator | postfixOperator | infixOperator =>
    exact operatorProgram_within hhosts hchildren
  | function => exact functionProgram_within hhosts hchildren
  | arrayIndex => exact indexProgram_within hchildren
  | separator => exact fieldProgram_within hchildren
  | _ => exact Program.meets_error _

/-! ## Other surroundings -/

theorem applyOperatorProgram_ambient (hhosts : hosts.Steady) (ambient : Ambient)
    (action : OperatorAction) (operands : List Value) :
    { scope with ambient := ambient }.applyOperatorProgram hosts token action operands =
      scope.applyOperatorProgram hosts token action operands := by
  cases action with
  | host number =>
    simp only [applyOperatorProgram]
    split
    · rename_i program hprogram
      exact (hhosts.operators program (Array.mem_of_getElem? hprogram)).ambient _ _ _ _ _
    · rfl
  | _ => rfl

theorem applyFunctionProgram_ambient (hhosts : hosts.Steady) (ambient : Ambient)
    {action : FunctionAction} (haction : action.isSteady = true) (arguments : List Value) :
    { scope with ambient := ambient }.applyFunctionProgram hosts token action arguments =
      scope.applyFunctionProgram hosts token action arguments := by
  cases action with
  | random | now | today => cases haction
  | host number =>
    simp only [applyFunctionProgram]
    split
    · rename_i program hprogram
      exact (hhosts.functions program (Array.mem_of_getElem? hprogram)).ambient _ _ _ _ _
    · rfl
  | _ => rfl

theorem operatorOf?_ambient (scope : Scope) (ambient : Ambient) :
    { scope with ambient := ambient }.operatorOf? token = scope.operatorOf? token :=
  rfl

theorem functionOf?_ambient (scope : Scope) (ambient : Ambient) :
    { scope with ambient := ambient }.functionOf? token = scope.functionOf? token :=
  rfl

theorem operatorProgram_ambient (hhosts : hosts.Steady) (ambient : Ambient)
    (children : List Tree) :
    { scope with ambient := ambient }.operatorProgram hosts token children =
      scope.operatorProgram hosts token children := by
  rw [operatorProgram, operatorProgram, operatorOf?_ambient]
  cases scope.operatorOf? token with
  | none => rfl
  | some operator => simp only [applyOperatorProgram_ambient hhosts]

/-- The function that a steady token calls does without the surroundings. -/
theorem isSteady_of_functionOf? (hscope : scope.Steady)
    (htoken : ∀ function, token.function? = some function → function.action.isSteady = true)
    {function : LibraryFunction} (h : scope.functionOf? token = some function) :
    function.action.isSteady = true := by
  rcases Option.or_eq_some_iff.mp h with hbound | ⟨_, hfound⟩
  · exact htoken function hbound
  · exact hscope.functions _ (Dictionary.mem_of_find? hfound)

theorem functionProgram_ambient (hscope : scope.Steady) (hhosts : hosts.Steady)
    (htoken : ∀ function, token.function? = some function → function.action.isSteady = true)
    (ambient : Ambient) (children : List Tree) :
    { scope with ambient := ambient }.functionProgram hosts token children =
      scope.functionProgram hosts token children := by
  rw [functionProgram, functionProgram, functionOf?_ambient]
  cases hfound : scope.functionOf? token with
  | none => rfl
  | some function =>
    have haction := isSteady_of_functionOf? hscope htoken hfound
    simp only [applyFunctionProgram_ambient hhosts ambient haction]

/-- A step into a steady tree is the same in all surroundings. -/
theorem program_ambient (hscope : scope.Steady) (hhosts : hosts.Steady) {tree : Tree}
    (htree : tree.Steady) (ambient : Ambient) :
    { scope with ambient := ambient }.program hosts tree = scope.program hosts tree := by
  simp only [program]
  cases hkind : tree.token.kind with
  | prefixOperator | postfixOperator | infixOperator =>
    exact operatorProgram_ambient hhosts ambient tree.children
  | function =>
    have htoken := htree tree (Tree.mem_preorder_self tree) hkind
    exact functionProgram_ambient hscope hhosts htoken ambient tree.children
  | _ => rfl

/-- What a steady tree evaluates to is the same in all surroundings, and all trees in it are
    steady. -/
theorem evaluateWithin_steady (hfollows : scope.Follows hosts) (hscope : scope.Steady)
    (hhosts : hosts.Steady) (ambient : Ambient) (levels : Nat) {tree : Tree} (htree : tree.Steady) :
    { scope with ambient := ambient }.evaluateWithin levels tree =
        scope.evaluateWithin levels tree ∧
      Yields (Value.Holds Tree.Steady) (scope.evaluateWithin levels tree) := by
  induction levels generalizing tree with
  | zero => exact ⟨rfl, .error⟩
  | succ levels ih =>
    have hfollows' : Scope.Follows { scope with ambient := ambient } hosts :=
      ⟨hfollows.operators, hfollows.functions⟩
    obtain ⟨hrun, hvalues⟩ :=
      (program_within hscope hhosts htree).run_eq fun child hchild => ih hchild
    simp only [evaluateWithin, ← run_program hfollows, ← run_program hfollows',
      program_ambient hscope hhosts htree, hrun]
    refine ⟨rfl, hvalues.bind fun value hvalue => .ok ?_⟩
    rwa [Value.Holds, Value.trees_finish]

end Scope
end Formula

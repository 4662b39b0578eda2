-- SUMMARY: With the built-in operators and functions, no tree gets out of an evaluation that has not been evaluated.
import Formula.Proofs.Evaluation.Substitution
import Formula.Proofs.Evaluation.Surroundings
import Formula.Session

/-!
# No tree gets out

Trees are values while they wait to be evaluated: as the lazy operands of a node, and as what a
variable stands for. Every construct that gets such a tree evaluates it before it hands it on, and
every other one only hands on what it has been given by evaluations. So with the built-in operators
and functions, what an evaluation yields is no tree and contains none, as long as the trees that
names stand for are not put away in arrays or records (`Value.Loose`).
-/

namespace Formula

namespace Value

/-- A value that can be evaluated completely: a tree of built-in operators and functions, or a value
    without trees. -/
inductive Loose : Value → Prop
  | tree {tree} (builtIn : tree.UsesBuiltIns) : Loose (.tree tree)
  | plain {value} (plain : value.Plain) : Loose value

theorem plain_iff_holds {value : Value} : value.Plain ↔ value.Holds fun _ => False := by
  rw [Plain, Holds, List.eq_nil_iff_forall_not_mem]

theorem not_plain_tree (tree : Tree) : ¬ (Value.tree tree).Plain := List.cons_ne_nil tree []

end Value

namespace Scope

variable {scope : Scope} {evaluate : Evaluator} {token : Token} {children : List Tree}
  {arguments : List Value}

section Step

variable (hevaluate : ∀ tree : Tree, tree.UsesBuiltIns → Yields Value.Plain (evaluate tree))

/-! ## Constructs that hand on what they are given -/

include hevaluate in
theorem force_plain {value : Value} (h : value.Loose) :
    Yields Value.Plain (value.force evaluate) := by
  cases h with
  | tree builtIn => exact hevaluate _ builtIn
  | plain plain =>
    cases value with
    | tree tree => exact absurd plain (Value.not_plain_tree tree)
    | _ => exact .ok plain

include hevaluate in
theorem choose_plain (h : ∀ argument ∈ arguments, argument.Loose) :
    Yields Value.Plain (BuiltIn.choose (scope.context evaluate) arguments) := by
  unfold BuiltIn.choose
  split
  · rename_i condition whenTrue whenFalse
    apply force_plain hevaluate
    split
    · exact h whenTrue (by simp)
    · exact h whenFalse (by simp)
  · exact .ok rfl

include hevaluate in
theorem switchCases_plain (value : Value) (h : ∀ argument ∈ arguments, argument.Loose) :
    Yields Value.Plain (BuiltIn.switchCases (scope.context evaluate) value arguments) := by
  fun_induction BuiltIn.switchCases (scope.context evaluate) value arguments with
  | case1 candidate result rest ih =>
    simp only [List.forall_mem_cons] at h
    obtain ⟨-, hresult, hrest⟩ := h
    refine .last fun other => ?_
    split
    · exact force_plain hevaluate hresult
    · exact ih hrest
  | case2 otherwise => exact force_plain hevaluate (h otherwise (by simp))
  | case3 => exact .ok rfl

include hevaluate in
theorem switch_plain (h : ∀ argument ∈ arguments, argument.Loose) :
    Yields Value.Plain (BuiltIn.switch (scope.context evaluate) arguments) := by
  cases arguments with
  | nil => exact .ok rfl
  | cons value cases => exact switchCases_plain hevaluate value (List.forall_mem_cons.mp h).2

theorem coalesce_plain (h : ∀ argument ∈ arguments, argument.Plain) :
    (BuiltIn.coalesce arguments).Plain :=
  Value.plain_iff_holds.mpr
    (BuiltIn.coalesce_holds fun argument hmem => Value.plain_iff_holds.mp (h argument hmem))

/-! ## Operands -/

include hevaluate in
/-- Operands that were evaluated have no trees in them, and the others are trees of the node. -/
theorem operandValues_loose (lazy : Nat → Bool) (index : Nat)
    (h : ∀ child ∈ children, child.UsesBuiltIns) :
    Yields (fun values => ∀ value ∈ values, value.Loose ∧
        ((∀ index, lazy index = false) → value.Plain))
      (operandValues evaluate lazy index children) := by
  induction children generalizing index with
  | nil => exact .ok (by simp)
  | cons child rest ih =>
    obtain ⟨hchild, hrest⟩ := List.forall_mem_cons.mp h
    have hfirst : Yields (fun value => value.Loose ∧ ((∀ index, lazy index = false) → value.Plain))
        (if lazy index then .ok (.tree child) else evaluate child) := by
      split
      · rename_i hlazy
        exact .ok ⟨.tree hchild, fun heager => by simp [heager] at hlazy⟩
      · intro value hvalue
        have hplain := hevaluate child hchild value hvalue
        exact ⟨.plain hplain, fun _ => hplain⟩
    have hsteps : operandValues evaluate lazy index (child :: rest) =
        ((if lazy index then .ok (.tree child) else evaluate child) >>= fun value =>
          operandValues evaluate lazy (index + 1) rest >>= fun others =>
            .ok (value :: others)) := by
      rw [operandValues]
      split <;> rfl
    rw [hsteps]
    exact hfirst.bind fun value hvalue => (ih (index + 1) hrest).bind fun others hothers =>
      .ok (List.forall_mem_cons.mpr ⟨hvalue, hothers⟩)

/-! ## Nodes -/

variable (hoperators : scope.configuration.operators = BuiltIn.operatorTable)
  (hfunctions : scope.configuration.functions = BuiltIn.functionTable)
  (hnode : (Tree.node token children).UsesBuiltIns)

include hoperators hnode in
/-- What the operators yield is new. -/
theorem operatorValue_plain (hkind : token.kind.fixity?.isSome = true) :
    Yields Value.Plain (scope.operatorValue evaluate token children) := by
  unfold operatorValue
  split
  · exact .error
  · rename_i operator hfound
    obtain ⟨name, hmem⟩ := builtIn_operatorOf? hoperators hnode hkind hfound
    have hbuiltIn : ∀ number, operator.action ≠ .host number := by
      intro number hhost
      have htransparent := BuiltIn.operators_transparent _ hmem
      simp only [Operator.Transparent, hhost] at htransparent
    split
    · exact .last fun _ => BuiltIn.applyOperator_plain hbuiltIn
    · exact .error

include hevaluate hfunctions hnode in
/-- What the functions yield is new, but for three of them. -/
theorem functionValue_plain (hkind : token.kind = .function) :
    Yields Value.Plain (scope.functionValue evaluate token children) := by
  unfold functionValue
  split
  · exact .error
  · rename_i function hfound
    obtain ⟨name, hmem⟩ := builtIn_functionOf? hfunctions hnode hkind hfound
    have htransparent := BuiltIn.functions_transparent _ hmem
    refine (operandValues_loose hevaluate _ 0 fun _ hchild => hnode.child hchild).bind
      fun arguments harguments => .last fun _ => ?_
    cases haction : function.action with
    | choose => exact choose_plain hevaluate fun argument h => (harguments argument h).1
    | switch => exact switch_plain hevaluate fun argument h => (harguments argument h).1
    | coalesce =>
      -- An argument is handed on as it is, so it matters that all of them were evaluated.
      simp only [LibraryFunction.Transparent, haction] at htransparent
      exact .ok (coalesce_plain fun argument h => (harguments argument h).2 htransparent)
    | host number => simp only [LibraryFunction.Transparent, haction] at htransparent
    | _ => exact BuiltIn.applyFunction_plain rfl

include hevaluate hnode in
theorem indexValue_plain : Yields Value.Plain (indexValue evaluate token children) := by
  unfold indexValue
  split
  · rename_i array index
    refine (hevaluate array (hnode.child (by simp))).bind fun items hitems => .last fun _ => ?_
    intro value hvalue
    exact Value.plain_iff_holds.mpr (itemAt_holds (Value.plain_iff_holds.mp hitems) value hvalue)
  · exact .error

include hevaluate hnode in
theorem fieldValue_plain : Yields Value.Plain (fieldValue evaluate token children) := by
  unfold fieldValue
  split
  · rename_i base field
    refine (hevaluate base (hnode.child (by simp))).bind fun record hrecord => ?_
    intro value hvalue
    exact Value.plain_iff_holds.mpr (fieldOf_holds (Value.plain_iff_holds.mp hrecord) value hvalue)
  · exact .error

include hevaluate hoperators hfunctions hnode in
/-- One step yields no tree if the evaluations that it makes yield none. -/
theorem step_plain (hnames : ∀ name value, scope.lookup? name = some value → value.Loose) :
    Yields Value.Plain (scope.step evaluate (.node token children)) := by
  simp only [step, Tree.token, Tree.children]
  cases hkind : token.kind with
  | number =>
    simp only [numberValue]
    split
    · exact .ok rfl
    · exact .error
  | text => exact .ok rfl
  | name =>
    simp only [namedValue]
    split
    · rename_i value hvalue
      exact force_plain hevaluate (hnames _ value hvalue)
    · exact .error
  | prefixOperator | postfixOperator | infixOperator =>
    exact operatorValue_plain hoperators hnode (by rw [hkind]; rfl)
  | function => exact functionValue_plain hevaluate hfunctions hnode hkind
  | arrayIndex => exact indexValue_plain hevaluate hnode
  | separator => exact fieldValue_plain hevaluate hnode
  | _ => exact .error

end Step

/-! ## Evaluations -/

/-- Whatever number of levels there is, no tree gets out. -/
theorem evaluateWithin_plain
    (hoperators : scope.configuration.operators = BuiltIn.operatorTable)
    (hfunctions : scope.configuration.functions = BuiltIn.functionTable)
    (hnames : ∀ name value, scope.lookup? name = some value → value.Loose) (levels : Nat)
    (tree : Tree) (htree : tree.UsesBuiltIns) :
    Yields Value.Plain (scope.evaluateWithin levels tree) := by
  induction levels generalizing tree with
  | zero => exact .error
  | succ levels ih =>
    obtain ⟨token, children⟩ := tree
    rw [evaluateWithin_succ]
    refine (step_plain ih hoperators hfunctions htree hnames).bind fun value hvalue => .ok ?_
    rwa [Value.Plain, Value.trees_finish]

theorem loose_of_lookup?_macroScope {bound : Tree} (hbound : bound.UsesBuiltIns) {name : String}
    {value : Value} (h : (macroScope bound).lookup? name = some value) : value.Loose := by
  have hconstants : ∀ entry ∈ Configuration.standardConstants, entry.2.trees.isEmpty = true := by
    decide +kernel
  rcases Option.or_eq_some_iff.mp h with hconstant | ⟨_, hvariable⟩
  · exact .plain (List.isEmpty_iff.mp (hconstants _ (Dictionary.mem_of_find? hconstant)))
  · have hmem := Dictionary.mem_of_find? hvariable
    simp only [List.mem_cons, Prod.mk.injEq, List.not_mem_nil, or_false] at hmem
    rcases hmem with ⟨-, rfl⟩ | ⟨-, rfl⟩
    · exact .plain rfl
    · exact .tree hbound

end Scope

namespace Session

/-- With the built-in operators and functions, a formula has no value that is a tree or contains
    one. A constant or a variable may be a tree, but must not contain one. -/
theorem evaluate_plain {session : Session}
    (hoperators : session.configuration.operators = BuiltIn.operatorTable)
    (hfunctions : session.configuration.functions = BuiltIn.functionTable) {ambient : Ambient}
    (hnames : ∀ name value, (session.scope ambient).lookup? name = some value → value.Loose)
    {value : Value} (h : session.evaluate ambient = .ok value) : value.Plain := by
  unfold evaluate at h
  split at h
  · rename_i tree htree
    have hbuiltIn : tree.UsesBuiltIns :=
      Tree.forall_of_parse (Tree.inductive_usesBuiltIns hoperators hfunctions) htree
    exact Scope.evaluateWithin_plain hoperators hfunctions hnames _ tree hbuiltIn value h
  · cases h

/-- With `x` bound to `a * 2`, the tree is a branch, a case and an argument. -/
theorem evaluate_plain_standard : ∃ (bound : Tree) (value : Value),
    Configuration.standard.parse "a * 2" = .ok bound ∧
    (Session.mk "COALESCE(NULL, IF(a > 2, SWITCH(a, 3, x), x))" .standard
      Configuration.standardConstants (Scope.macroScope bound).store).evaluate
        ⟨.epoch, fun _ => 0⟩ = .ok value ∧
    value.equal (.number (.ofSmall 6)) = true ∧ value.Plain := by
  have hrun : ((Configuration.standard.parse "a * 2").toOption.any fun bound =>
      ((Session.mk "COALESCE(NULL, IF(a > 2, SWITCH(a, 3, x), x))" .standard
        Configuration.standardConstants (Scope.macroScope bound).store).evaluate
          ⟨.epoch, fun _ => 0⟩).toOption.any fun value =>
        value.equal (.number (.ofSmall 6))) = true := by
    decide +kernel
  obtain ⟨bound, hbound, hrun⟩ := ok_of_any hrun
  obtain ⟨value, hvalue, hsix⟩ := ok_of_any hrun
  refine ⟨bound, value, hbound, hvalue, hsix, evaluate_plain rfl rfl ?_ hvalue⟩
  have hbuiltIn := Tree.forall_of_parse (Tree.inductive_usesBuiltIns rfl rfl) hbound
  exact fun name found => Scope.loose_of_lookup?_macroScope hbuiltIn

end Session
end Formula

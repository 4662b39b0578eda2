-- SUMMARY: An evaluation looks up the names that its tree refers to and no others.
import Formula.Proofs.Evaluation.Form
import Formula.Proofs.Evaluation.Surroundings

/-!
# References of a tree

The names that a tree refers to are collected in one walk over the tree, and the evaluator looks
names up in another one, which leaves out some branches. Where no name stands for a tree, the second
walk stays within the first one: a name that is reported as undefined is one that the tree refers to
(`Scope.evaluateWithin_undefined`), and two scopes in which these names have the same values give
the tree the same value (`Scope.evaluateWithin_congr`).
-/

namespace Formula

/-! ## References -/

namespace Tree

variable {token : Token} {children : List Tree} {N : String → Prop}

theorem mem_referencesAll {name : String} {trees : List Tree} :
    name ∈ referencesAll trees ↔ ∃ tree ∈ trees, name ∈ tree.references := by
  induction trees with
  | nil => simp [referencesAll]
  | cons first rest ih => simp [referencesAll, ih]

theorem references_name (h : token.kind = .name) (children : List Tree) :
    (node token children).references = [token.lexeme] := by
  rw [references.eq_def]
  simp only [h]

/-- The name of a field is no reference. -/
theorem references_field (h : token.kind = .separator) (base : Tree) (fields : List Tree) :
    (node token (base :: fields)).references = base.references := by
  rw [references.eq_def]
  simp only [h]

theorem references_node (hname : token.kind ≠ .name) (hseparator : token.kind ≠ .separator)
    (children : List Tree) : (node token children).references = referencesAll children := by
  rw [references.eq_def]
  simp only
  split
  · exact absurd (by assumption) hname
  · exact absurd (by assumption) hseparator
  · exact absurd (by assumption) hseparator
  · rfl

/-- A regular tree that refers only to names with a property. -/
structure RefersOnly (N : String → Prop) (tree : Tree) : Prop where
  regular : tree.Regular
  names : ∀ name ∈ tree.references, N name

theorem RefersOnly.name (h : (node token children).RefersOnly N) (hkind : token.kind = .name) :
    N token.lexeme := by
  apply h.names
  rw [references_name hkind]
  exact List.mem_singleton_self _

/-- The operands of a node refer to no other names than the node does. -/
theorem RefersOnly.alike (h : (node token children).RefersOnly N) {T : Tree → Tree → Prop}
    (hT : ∀ child ∈ children, child.RefersOnly N → T child child) :
    Scope.Alike T token children children := by
  have hform := h.regular.wellFormed _ (mem_preorder_self _)
  have hnames := h.names
  have hchild : ∀ child ∈ children, (∀ name ∈ child.references, N name) → T child child :=
    fun child hmem hnames => hT child hmem ⟨h.regular.child hmem, hnames⟩
  by_cases hseparator : token.kind = .separator
  · simp only [HasForm, hseparator] at hform
    obtain ⟨base, field, rfl, -⟩ := hform
    rw [references_field hseparator] at hnames
    exact .field hseparator (hchild base List.mem_cons_self hnames) _
  · refine .operands hseparator (List.forall₂_same.mpr fun child hmem => ?_)
    by_cases hname : token.kind = .name
    · simp only [HasForm, hname] at hform
      rw [hform] at hmem
      cases hmem
    · rw [references_node hname hseparator] at hnames
      exact hchild child hmem fun name h => hnames name (mem_referencesAll.mpr ⟨child, hmem, h⟩)

end Tree

/-! ## Undefined names -/

/-- The name that the error reports as undefined, if it reports one, has the property. -/
def EvalError.UndefinedIn (N : String → Prop) (error : EvalError) : Prop :=
  ∀ name position, error = .undefinedVariable name position → N name

/-- No token but a name reports that a name is undefined. -/
theorem Reports.undefinedIn {complete : Prop} {token token' : Token} {error error' : EvalError}
    {N : String → Prop} (h : Reports complete token token' error error')
    (hkind : token.kind ≠ .name) : error.UndefinedIn N := by
  cases h with
  | undefinedVariable kind => exact absurd kind hkind
  | call reported =>
    obtain ⟨fault, _, rfl, _⟩ := reported
    cases fault <;> exact nofun
  | _ => exact nofun

namespace Scope

variable {scope scope' : Scope} {N : String → Prop}

/-- A name that is undefined when a tree is evaluated is one that the tree refers to and that stands
    for nothing. -/
theorem evaluateWithin_undefined
    (hoperators : scope.configuration.operators = BuiltIn.operatorTable)
    (hfunctions : scope.configuration.functions = BuiltIn.functionTable)
    (hnames : ∀ name, N name → ∀ s, scope.lookup? name ≠ some (.tree s)) (levels : Nat) :
    ∀ tree : Tree, tree.RefersOnly N →
      Raises (EvalError.UndefinedIn fun name => N name ∧ scope.lookup? name = none)
        (scope.evaluateWithin levels tree) := by
  suffices h : (Comparison.upTo fun error _ =>
      error.UndefinedIn fun name => N name ∧ scope.lookup? name = none).Simulates
      (fun s s' => s = s' ∧ s.RefersOnly N) (scope.evaluateWithin levels)
      (scope.evaluateWithin levels) by
    exact fun tree htree => Related.raises (h tree tree ⟨rfl, htree⟩) fun _ _ h => h
  induction levels with
  | zero => exact fun _ _ _ => .error nofun
  | succ levels ih =>
    rintro ⟨token, children⟩ _ ⟨rfl, htree⟩
    rw [evaluateWithin_succ]
    refine Related.bind (R := Eq) ?_ fun _ _ hsame => .ok (by rw [hsame])
    by_cases hkind : token.kind = .name
    · simp only [step, Tree.token, hkind, namedValue]
      cases hvalue : scope.lookup? token.lexeme with
      | none =>
        refine .error fun name position h => ?_
        cases h
        exact ⟨htree.name hkind, hvalue⟩
      | some value =>
        cases value with
        | tree s => exact absurd hvalue (hnames _ (htree.name hkind) s)
        | _ => exact .ok rfl
    · exact Comparison.step False ih (.refl scope token) (fun h => absurd h hkind)
        (opens_of_usesBuiltIns hoperators hfunctions htree.regular.builtIn).token False.elim
        (fun _ _ h => h.undefinedIn hkind) (htree.alike fun child _ hchild => ⟨rfl, hchild⟩)

end Scope

/-! ## Two scopes -/

namespace BuiltIn

/-- No built-in operator looks at the surroundings. -/
theorem applyOperator_ambient {action : OperatorAction} (haction : ∀ number, action ≠ .host number)
    (host : Array Behaviour) (context : CallContext) (ambient : Ambient) (token : Token)
    (operands : List Value) :
    applyOperator host { context with ambient := ambient } token action operands =
      applyOperator host context token action operands := by
  cases action with
  | host number => exact absurd rfl (haction number)
  | _ => rfl

theorem switchCases_ambient (context : CallContext) (ambient : Ambient) (value : Value)
    (cases : List Value) :
    switchCases { context with ambient := ambient } value cases =
      switchCases context value cases := by
  fun_induction switchCases context value cases with
  | case1 candidate result rest ih => simp only [switchCases, ih]
  | case2 otherwise => rfl
  | case3 => rfl

/-- No steady built-in function looks at the surroundings. -/
theorem applyFunction_ambient {action : FunctionAction} (haction : ∀ number, action ≠ .host number)
    (hsteady : action.isSteady = true) (host : Array Behaviour) (context : CallContext)
    (ambient : Ambient) (token : Token) (arguments : List Value) :
    applyFunction host { context with ambient := ambient } token action arguments =
      applyFunction host context token action arguments := by
  cases action with
  | host number => exact absurd rfl (haction number)
  | random | now | today => cases hsteady
  | switch =>
    cases arguments with
    | nil => rfl
    | cons value cases => exact switchCases_ambient context ambient value cases
  | _ => rfl

end BuiltIn

namespace Scope

variable {scope scope' : Scope} {N : String → Prop} {evaluate : Evaluator} {tree : Tree}

theorem context_congr (hconfiguration : scope'.configuration = scope.configuration) :
    scope'.context evaluate = { scope.context evaluate with ambient := scope'.ambient } := by
  simp only [context, settings, hconfiguration]

theorem operatorValue_congr (hconfiguration : scope'.configuration = scope.configuration)
    {token : Token} (htoken : scope.Transparent token)
    (hkind : token.kind.fixity?.isSome = true) (children : List Tree) :
    scope'.operatorValue evaluate token children = scope.operatorValue evaluate token children := by
  have hfound : scope'.operatorOf? token = scope.operatorOf? token := by
    rw [operatorOf?, operatorOf?, hconfiguration]
  rw [operatorValue, operatorValue, hfound, context_congr hconfiguration, hconfiguration]
  cases hoperator : scope.operatorOf? token with
  | none => rfl
  | some operator =>
    have haction : ∀ number, operator.action ≠ .host number := by
      intro number haction
      have htransparent := htoken.operator hkind operator hoperator
      rw [Operator.Transparent, haction] at htransparent
      exact htransparent
    simp only [BuiltIn.applyOperator_ambient haction]

theorem functionValue_congr (hconfiguration : scope'.configuration = scope.configuration)
    {token : Token} (htoken : scope.Transparent token) (hkind : token.kind = .function)
    (hambient : scope'.ambient = scope.ambient ∨
      ∀ function, scope.functionOf? token = some function → function.action.isSteady = true)
    (children : List Tree) :
    scope'.functionValue evaluate token children = scope.functionValue evaluate token children := by
  have hfound : scope'.functionOf? token = scope.functionOf? token := by
    rw [functionOf?, functionOf?, hconfiguration]
  rw [functionValue, functionValue, hfound, context_congr hconfiguration, hconfiguration]
  cases hfunction : scope.functionOf? token with
  | none => rfl
  | some function =>
    have haction : ∀ number, function.action ≠ .host number := by
      intro number haction
      have htransparent := htoken.function hkind function hfunction
      rw [LibraryFunction.Transparent, haction] at htransparent
      exact htransparent
    rcases hambient with hambient | hsteady
    · rw [hambient]
      rfl
    · simp only [BuiltIn.applyFunction_ambient haction (hsteady function hfunction)]

/-- One step is the same in two scopes in which the name at hand has the same value, given the same
    way to evaluate trees. -/
theorem step_congr (hconfiguration : scope'.configuration = scope.configuration) {token : Token}
    (htoken : scope.Transparent token)
    (hname : token.kind = .name → scope'.lookup? token.lexeme = scope.lookup? token.lexeme)
    (hambient : scope'.ambient = scope.ambient ∨ (token.kind = .function →
      ∀ function, scope.functionOf? token = some function → function.action.isSteady = true))
    (children : List Tree) :
    scope'.step evaluate (.node token children) = scope.step evaluate (.node token children) := by
  simp only [step, Tree.token, Tree.children]
  cases hkind : token.kind with
  | name => simp only [namedValue, hname hkind]
  | prefixOperator | postfixOperator | infixOperator =>
    exact operatorValue_congr hconfiguration htoken (by rw [hkind]; rfl) children
  | function =>
    exact functionValue_congr hconfiguration htoken hkind (hambient.imp_right (· hkind)) children
  | _ => rfl

/-- The function of a regular tree that does without the surroundings does so itself. -/
theorem isSteady_of_regular {token : Token} {children : List Tree}
    (htree : (Tree.node token children).Regular) (hsteady : (Tree.node token children).Steady)
    (hkind : token.kind = .function) {function : LibraryFunction}
    (hfound : scope.functionOf? token = some function) : function.action.isSteady = true := by
  have hself := Tree.mem_preorder_self (Tree.node token children)
  have hform := htree.wellFormed _ hself
  simp only [Tree.HasForm, hkind] at hform
  obtain ⟨bound, hbinding, -⟩ := hform
  have hbound : token.function? = some bound := by rw [Token.function?, hbinding]
  rw [functionOf?, hbound, Option.some_or] at hfound
  rw [← Option.some.inj hfound]
  exact hsteady _ hself hkind bound hbound

/-- Two scopes give a tree the same value if they give the same values, none of them a tree, to the
    names that it refers to. The surroundings matter only where a function looks at them. -/
theorem evaluateWithin_congr (hoperators : scope.configuration.operators = BuiltIn.operatorTable)
    (hfunctions : scope.configuration.functions = BuiltIn.functionTable)
    (hconfiguration : scope'.configuration = scope.configuration)
    (hnames : ∀ name, N name → scope'.lookup? name = scope.lookup? name ∧
      ∀ s, scope.lookup? name ≠ some (.tree s)) (levels : Nat) :
    ∀ tree : Tree, tree.RefersOnly N → (scope'.ambient = scope.ambient ∨ tree.Steady) →
      scope'.evaluateWithin levels tree = scope.evaluateWithin levels tree := by
  have hsettings : scope'.settings = scope.settings := by rw [settings, settings, hconfiguration]
  suffices h : (Comparison.upTo Eq).Simulates (fun s s' => s = s' ∧ s.RefersOnly N ∧
      (scope'.ambient = scope.ambient ∨ s.Steady)) (scope.evaluateWithin levels)
      (scope'.evaluateWithin levels) by
    exact fun tree htree hambient => (Related.eq (h tree tree ⟨rfl, htree, hambient⟩)).symm
  induction levels with
  | zero =>
    rintro tree _ ⟨rfl, -, -⟩
    rw [evaluateWithin, evaluateWithin, hsettings]
    exact .error rfl
  | succ levels ih =>
    rintro ⟨token, children⟩ _ ⟨rfl, htree, hambient⟩
    have htoken : scope.Transparent token :=
      (opens_of_usesBuiltIns hoperators hfunctions htree.regular.builtIn).token
    -- The two steps differ in the scope and in how operands are evaluated. The scope is changed
    -- first, so that what is left is a comparison of two ways to evaluate in one scope.
    rw [evaluateWithin_succ, evaluateWithin_succ, hsettings,
      step_congr hconfiguration htoken (fun hkind => (hnames _ (htree.name hkind)).1)
        (hambient.imp_right fun hsteady hkind _ hfound =>
          isSteady_of_regular htree.regular hsteady hkind hfound)]
    have hstep := Comparison.step False ih (.refl scope token)
      (fun hkind s hs => absurd hs ((hnames _ (htree.name hkind)).2 s)) htoken False.elim
      (fun _ _ h => h.eq)
      (htree.alike fun child hmem hchild =>
        ⟨rfl, hchild, hambient.imp_right fun hsteady => hsteady.child hmem⟩)
    exact Related.bind hstep fun _ _ hsame => .ok (by rw [hsame])

end Scope
end Formula

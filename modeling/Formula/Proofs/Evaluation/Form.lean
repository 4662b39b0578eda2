-- SUMMARY: A parsed tree is well formed, so evaluating it with the built-in library never finds fault with its form.
import Formula.Proofs.Evaluation.Substitution
import Formula.Proofs.Parsing.WellFormed

/-!
# Errors of form

The evaluator checks what a tree looks like as it goes: that a token has a value at all, that there
are as many operands as it takes, that no argument is missing. A regular tree passes all of these
checks (`Tree.Regular.complete`), and every tree that a text is parsed to is regular. So the only
errors left are those of the values.
-/

namespace Formula

/-- The error is about the form of the tree and not about values. -/
def EvalError.concernsForm : EvalError → Bool
  | .unexpectedToken _ _ _ => true
  | .parse ⟨.malformedNumber _, _, _⟩ => true
  | .unsupportedType (.missingArgument _) _ _ => true
  | .unsupportedType .oneOperandExpected _ _ => true
  | .unsupportedType .twoOperandsExpected _ _ => true
  | _ => false

namespace BuiltIn

/-- The built-in operators stand in a place with as many operands as their actions take. -/
theorem operators_operandCount :
    ∀ entry ∈ operators, operandCount entry.2.action = entry.2.rule.operandCount := by
  decide

/-- The built-in functions cannot be called with fewer arguments than their actions read. -/
theorem functions_required :
    ∀ entry ∈ functions, required entry.2.action ≤ entry.2.signature.minArguments := by
  decide

end BuiltIn

/-! ## Regular trees -/

/-- A well-formed tree with numbers that have values, and no operators and functions but the
    built-in ones. -/
structure Tree.Regular (tree : Tree) : Prop where
  wellFormed : tree.WellFormed
  readable : tree.Readable
  builtIn : tree.UsesBuiltIns

namespace Tree.Regular

variable {scope : Scope} {token : Token} {children : List Tree}

theorem child (h : (Tree.node token children).Regular) {child : Tree} (hchild : child ∈ children) :
    child.Regular := by
  have hbelow : ∀ s ∈ child.preorder, s ∈ (Tree.node token children).preorder :=
    fun s hs => Tree.mem_preorder_node.mpr (.inr ⟨child, hchild, hs⟩)
  exact ⟨fun s hs => h.wellFormed s (hbelow s hs), fun s hs => h.readable s (hbelow s hs),
    h.builtIn.child hchild⟩

/-- A token that is bound to a built-in operator of its place takes as many operands as stand
    there. -/
theorem complete_operator (h : (Tree.node token children).Regular) (fixity : Fixity)
    (hkind : token.kind = fixity.tokenKind)
    (hbound : ∃ operator, token.binding = some (.operator operator) ∧
      operator.rule.fixity = fixity) (hcount : children.length = fixity.operandCount) :
    ∃ operator, scope.operatorOf? token = some operator ∧
      children.length = operator.rule.operandCount ∧
      children.length = BuiltIn.operandCount operator.action := by
  obtain ⟨operator, hbinding, hfixity⟩ := hbound
  have hoperator : token.operator? = some operator := by rw [Token.operator?, hbinding]
  have hplace : token.kind.fixity?.isSome = true := by
    rw [hkind, fixity.fixity?_tokenKind]
    rfl
  obtain ⟨name, hmem⟩ := (h.builtIn _ (Tree.mem_preorder_self _)).1 hplace operator hoperator
  have hrule : children.length = operator.rule.operandCount := by
    rw [hcount, OperatorRule.operandCount, hfixity]
  refine ⟨operator, by rw [Scope.operatorOf?, hoperator]; rfl, hrule, ?_⟩
  rw [hrule, BuiltIn.operators_operandCount _ hmem]

/-- The nodes of a regular tree have what their evaluation needs. -/
theorem complete (h : (Tree.node token children).Regular) :
    scope.Complete token children.length := by
  have hform := h.wellFormed _ (Tree.mem_preorder_self _)
  unfold Scope.Complete
  cases hkind : token.kind with
  | number => exact h.readable _ (Tree.mem_preorder_self _) hkind
  | text | name => trivial
  | prefixOperator =>
    simp only [Tree.HasForm, hkind] at hform
    exact h.complete_operator .before hkind hform.1 hform.2
  | postfixOperator =>
    simp only [Tree.HasForm, hkind] at hform
    exact h.complete_operator .after hkind hform.1 hform.2
  | infixOperator =>
    simp only [Tree.HasForm, hkind] at hform
    exact h.complete_operator .between hkind hform.1 hform.2
  | function =>
    simp only [Tree.HasForm, hkind] at hform
    obtain ⟨function, hbinding, haccepted⟩ := hform
    have hfunction : token.function? = some function := by rw [Token.function?, hbinding]
    obtain ⟨name, hmem⟩ := (h.builtIn _ (Tree.mem_preorder_self _)).2 hkind function hfunction
    have hrequired := BuiltIn.functions_required _ hmem
    refine ⟨function, by rw [Scope.functionOf?, hfunction]; rfl, ?_⟩
    rw [Signature.accepts, Bool.and_eq_true, decide_eq_true_eq] at haccepted
    exact Nat.le_trans hrequired haccepted.1
  | arrayIndex => simpa only [Tree.HasForm, hkind] using hform
  | separator =>
    simp only [Tree.HasForm, hkind] at hform
    obtain ⟨base, field, rfl, _⟩ := hform
    rfl
  | arrayOpen | arrayClose | parenOpen | parenClose | comma =>
    simp only [Tree.HasForm, hkind] at hform

end Tree.Regular

/-- A tree that is parsed with the built-in operators and functions is regular. -/
theorem Tree.regular_of_parse {L : Language} (hoperators : L.operators = BuiltIn.operatorTable)
    (hfunctions : L.functions = BuiltIn.functionTable) {text : String} {tree : Tree}
    (h : parse L text = .ok tree) : tree.Regular :=
  ⟨wellFormed_of_parse h, readable_of_parse h,
    forall_of_parse (inductive_usesBuiltIns hoperators hfunctions) h⟩

/-! ## Evaluation -/

/-- What a complete node reports is not about its form. -/
theorem Reports.concernsForm_eq {token token' : Token} {error error' : EvalError}
    (h : Reports True token token' error error') : error.concernsForm = false := by
  cases h with
  | call reported =>
    obtain ⟨fault, hcount, rfl, _⟩ := reported
    have hcount := hcount trivial
    cases fault with
    | type fault =>
      cases fault with
      | missingArgument | oneOperandExpected | twoOperandsExpected => cases hcount
      | _ => rfl
    | _ => rfl
  | unexpected incomplete => exact absurd trivial incomplete
  | malformedNumber _ incomplete => exact absurd trivial incomplete
  | _ => rfl

namespace Scope

variable {scope : Scope}

/-- Every error of a regular tree has the property, if what complete nodes report has it and the
    trees that names stand for are regular. -/
theorem evaluateWithin_raises {P : EvalError → Prop}
    (hnesting : ∀ limit position, P (.nestingTooDeep limit position))
    (hreports : ∀ {token token' error error'}, Reports True token token' error error' → P error)
    (hoperators : scope.configuration.operators = BuiltIn.operatorTable)
    (hfunctions : scope.configuration.functions = BuiltIn.functionTable)
    (hnames : ∀ name s, scope.lookup? name = some (.tree s) → s.Regular) (levels : Nat) :
    ∀ tree : Tree, tree.Regular → Raises P (scope.evaluateWithin levels tree) := by
  suffices h : (Comparison.upTo fun error _ => P error).Simulates
      (fun s s' => s = s' ∧ s.Regular) (scope.evaluateWithin levels)
      (scope.evaluateWithin levels) by
    exact fun tree htree => Related.raises (h tree tree ⟨rfl, htree⟩) fun _ _ h => h
  induction levels with
  | zero => exact fun _ _ _ => .error (hnesting _ _)
  | succ levels ih =>
    rintro ⟨token, children⟩ _ ⟨rfl, hregular⟩
    have hstep := Comparison.step True ih (.refl scope token)
      (fun _ s hs => ⟨rfl, hnames _ s hs⟩)
      (opens_of_usesBuiltIns hoperators hfunctions hregular.builtIn).token
      (fun _ => hregular.complete) (fun _ _ h => hreports h)
      (.refl fun child hchild => ⟨rfl, hregular.child hchild⟩)
    exact Related.bind hstep fun _ _ hsame => .ok (by rw [hsame])

/-- No error of a regular tree is about its form. -/
theorem evaluateWithin_regular
    (hoperators : scope.configuration.operators = BuiltIn.operatorTable)
    (hfunctions : scope.configuration.functions = BuiltIn.functionTable)
    (hnames : ∀ name s, scope.lookup? name = some (.tree s) → s.Regular) (levels : Nat) :
    ∀ tree : Tree, tree.Regular →
      Raises (fun error => error.concernsForm = false) (scope.evaluateWithin levels tree) :=
  evaluateWithin_raises (fun _ _ => rfl) (fun h => h.concernsForm_eq) hoperators hfunctions hnames
    levels

/-- A text is parsed to a well-formed tree, whatever the operators and functions are. Evaluating it
    with the built-in ones yields no error about the form of a tree, if the trees that names stand
    for are regular, as all trees are that texts are parsed to. -/
theorem evaluate_form {configuration : Configuration} {text : String} {tree : Tree}
    (h : configuration.parse text = .ok tree) :
    tree.WellFormed ∧
    ∀ scope : Scope, scope.configuration = configuration →
      configuration.operators = BuiltIn.operatorTable →
      configuration.functions = BuiltIn.functionTable →
      (∀ name s, scope.lookup? name = some (.tree s) → s.Regular) →
      ∀ error, scope.evaluate tree = .error error → error.concernsForm = false := by
  refine ⟨Tree.wellFormed_of_parse h, ?_⟩
  rintro scope rfl hoperators hfunctions hnames
  exact evaluateWithin_regular hoperators hfunctions hnames _ tree
    (Tree.regular_of_parse hoperators hfunctions h)

/-- With `x` bound to `a * 2`, what is wrong with `x / 0` is not its form. -/
theorem evaluate_form_standard : ∃ (tree new : Tree) (error : EvalError),
    Configuration.standard.parse "x / 0" = .ok tree ∧
    Configuration.standard.parse "a * 2" = .ok new ∧ tree.WellFormed ∧
    (macroScope new).evaluate tree = .error error ∧ error.concernsForm = false := by
  have hrun : ((Configuration.standard.parse "x / 0").toOption.any fun tree =>
      (Configuration.standard.parse "a * 2").toOption.any fun new =>
      ((macroScope new).evaluate tree).toOption.isNone) = true := by
    decide +kernel
  obtain ⟨tree, htree, hrun⟩ := ok_of_any hrun
  obtain ⟨new, hnew, hrun⟩ := ok_of_any hrun
  have hform := evaluate_form htree
  cases hresult : (macroScope new).evaluate tree with
  | ok value =>
    rw [hresult] at hrun
    cases hrun
  | error error =>
    refine ⟨tree, new, error, htree, hnew, hform.1, hresult, ?_⟩
    refine hform.2 (macroScope new) rfl rfl rfl ?_ error hresult
    intro name s hs
    rw [lookup?_macroScope hs]
    exact Tree.regular_of_parse rfl rfl hnew

end Scope
end Formula

-- SUMMARY: A variable that is bound to a tree means the tree: writing the tree in its place does not change the result.
import Formula.Proofs.BuiltIn.Table
import Formula.Proofs.Decimal.Finish
import Formula.Proofs.Evaluation.Refinement
import Formula.Proofs.Parsing.Shape
import Formula.Proofs.Tree.Replacement

/-!
# Variables that stand for trees

A variable that is bound to a tree can be replaced by the tree. Two things differ between the two
evaluations: a variable costs a level of nesting, and the number that its tree yields is finished
twice. The limit of nesting is why the result is the same only if it is not cut short; finishing a
number twice changes nothing. Everything else is `Scope.step_refines`, for which the built-in
operators and functions must do nothing with a tree but evaluate it.
-/

namespace Formula

/-! ## Built-in operators and functions -/

namespace BuiltIn

theorem operators_transparent : ∀ entry ∈ operators, entry.2.Transparent := by
  simp [operators, Operator.Transparent, OperatorRule.between, OperatorRule.before,
    OperatorRule.onTrees, OperatorRule.rightAssociative, OperatorRule.adjustedBy]

/-- The parameter that governs an argument is one of the parameters. -/
theorem mem_of_parameter? {signature : Signature} {index : Nat} {parameter : Parameter}
    (h : signature.parameter? index = some parameter) : parameter ∈ signature.parameters := by
  unfold Signature.parameter? at h
  split at h
  · rename_i own hown
    cases h
    exact List.mem_of_getElem? hown
  · exact List.mem_of_getLast? (Option.eq_some_of_filter_eq_some h)

/-- A function without a parameter that gets trees evaluates all arguments. -/
theorem isLazy_eq_false {signature : Signature}
    (h : ∀ parameter ∈ signature.parameters, parameter.lazy = false) (index : Nat) :
    Scope.isLazy signature index = false := by
  unfold Scope.isLazy
  cases hparameter : signature.parameter? index with
  | none => rfl
  | some parameter => exact h parameter (mem_of_parameter? hparameter)

/-- The parameters of `SWITCH`. -/
def switchSignature : Signature :=
  ⟨[{ name := "expression" }, { onDemand "cases" with variadic := true }]⟩

/-- The first argument is evaluated, and the others are trees. -/
theorem isLazy_switchSignature (index : Nat) :
    Scope.isLazy switchSignature index = decide (0 < index) := by
  match index with
  | 0 => rfl
  | 1 => rfl
  | index + 2 => simp [Scope.isLazy, Signature.parameter?, switchSignature, onDemand]

theorem transparent_of_isEager {function : LibraryFunction} (h : isEager function.action = true)
    (hlazy : ∀ index, Scope.isLazy function.signature index = false) : function.Transparent := by
  unfold LibraryFunction.Transparent
  cases haction : function.action with
  | choose | switch | host => simp [haction, isEager] at h
  | _ => exact hlazy

theorem functions_transparent : ∀ entry ∈ functions, entry.2.Transparent := by
  -- All functions but two evaluate all of their arguments.
  have hkinds : ∀ entry ∈ functions,
      (entry.2.action = .choose ∧ Scope.isLazy entry.2.signature 1 = true ∧
        Scope.isLazy entry.2.signature 2 = true) ∨
      entry.2 = ⟨switchSignature, .switch⟩ ∨
      (isEager entry.2.action = true ∧
        ∀ parameter ∈ entry.2.signature.parameters, parameter.lazy = false) := by
    decide +kernel
  intro entry hentry
  rcases hkinds entry hentry with ⟨haction, hlazy⟩ | hswitch | ⟨haction, heager⟩
  · rw [LibraryFunction.Transparent, haction]
    exact hlazy
  · rw [LibraryFunction.Transparent, hswitch]
    exact isLazy_switchSignature
  · exact transparent_of_isEager haction (isLazy_eq_false heager)

theorem mem_of_find?_operatorTable {fixity : Fixity} {name : String} {operator : Operator}
    (h : operatorTable.find? fixity name = some operator) :
    ∃ key, (key, operator) ∈ operators :=
  OperatorTable.forall_extend (fun operator => ∃ key, (key, operator) ∈ operators)
    (OperatorTable.forall_empty fun operator => ∃ key, (key, operator) ∈ operators)
    (fun entry hentry => ⟨entry.1, hentry⟩) fixity _ (Dictionary.mem_of_find? h)

end BuiltIn

namespace Tree

/-- The operators and functions of the tree are built in. -/
def UsesBuiltIns (tree : Tree) : Prop :=
  ∀ s ∈ tree.preorder,
    (s.token.kind.fixity?.isSome = true → ∀ operator, s.token.operator? = some operator →
      ∃ name, (name, operator) ∈ BuiltIn.operators) ∧
    (s.token.kind = .function → ∀ function, s.token.function? = some function →
      ∃ name, (name, function) ∈ BuiltIn.functions)

theorem UsesBuiltIns.within {s tree : Tree} (h : tree.UsesBuiltIns) (hs : s ∈ tree.preorder) :
    s.UsesBuiltIns :=
  fun _ hu => h _ (mem_preorder_trans hu hs)

theorem UsesBuiltIns.child {token : Token} {children : List Tree}
    (h : (node token children).UsesBuiltIns) {child : Tree} (hchild : child ∈ children) :
    child.UsesBuiltIns :=
  h.within (mem_preorder_node.mpr (.inr ⟨child, hchild, mem_preorder_self child⟩))

/-- The trees of a language that has only built-in operators and functions use no others. -/
theorem inductive_usesBuiltIns {L : Language} (hoperators : L.operators = BuiltIn.operatorTable)
    (hfunctions : L.functions = BuiltIn.functionTable) :
    Parser.Inductive L UsesBuiltIns := by
  refine Parser.Inductive.of_tokens (Q := fun token =>
    (token.kind.fixity?.isSome = true → ∀ operator, token.operator? = some operator →
      ∃ name, (name, operator) ∈ BuiltIn.operators) ∧
    (token.kind = .function → ∀ function, token.function? = some function →
      ∃ name, (name, function) ∈ BuiltIn.functions)) ?plain ?operator ?call
  case plain =>
    intro token hfixity hfunction
    exact ⟨fun hkind => by simp [hfixity] at hkind, fun hkind => absurd hkind hfunction⟩
  case operator =>
    intro fixity sign
    refine ⟨fun _ operator hoperator => ?_, fun hkind => ?_⟩
    · cases hoperator
      have hfound := sign.found
      rw [hoperators] at hfound
      exact BuiltIn.mem_of_find?_operatorTable hfound
    · rw [sign.bound_kind] at hkind
      cases fixity <;> cases hkind
  case call =>
    intro callee
    refine ⟨fun hkind => ?_, fun _ function hfunction => ?_⟩
    · rw [callee.bound_kind] at hkind
      cases hkind
    · cases hfunction
      have hfound := callee.found
      rw [hfunctions] at hfound
      exact BuiltIn.mem_of_find?_functionTable hfound

end Tree

/-! ## Finished values -/

/-- Finishing a value a second time changes nothing. -/
theorem Value.finish_finish {settings : Settings} (hstrip : settings.stripTrailingZeros = true)
    (value : Value) : (value.finish settings).finish settings = value.finish settings := by
  cases value with
  | number n => simp only [finish, Settings.finishNumber_finishNumber hstrip]
  | _ => rfl

/-- No standard constant is a tree. -/
theorem Configuration.standardConstants_ne_tree {name : String} {s : Tree} :
    Dictionary.find? Configuration.standardConstants name ≠ some (.tree s) := by
  have hconstants : ∀ entry ∈ Configuration.standardConstants, entry.2.toTree?.isNone = true := by
    decide +kernel
  intro h
  cases hconstants _ (Dictionary.mem_of_find? h)

namespace Scope

variable {scope : Scope}

theorem evaluateWithin_succ (scope : Scope) (levels : Nat) (tree : Tree) :
    scope.evaluateWithin (levels + 1) tree =
      (scope.step (scope.evaluateWithin levels) tree >>= fun value =>
        .ok (value.finish scope.settings)) := rfl

/-- What a tree evaluates to is finished. -/
theorem finish_of_evaluateWithin (hstrip : scope.settings.stripTrailingZeros = true) {levels : Nat}
    {tree : Tree} {value : Value} (h : scope.evaluateWithin levels tree = .ok value) :
    value.finish scope.settings = value := by
  cases levels with
  | zero => cases h
  | succ levels =>
    obtain ⟨stepped, _, hfinished⟩ := ok_of_bind h
    cases hfinished
    exact Value.finish_finish hstrip stepped

/-! ## Replacing a variable -/

/-- What the tokens of the tree stand for does with trees nothing but evaluate them. -/
def Opens (scope : Scope) (tree : Tree) : Prop := ∀ s ∈ tree.preorder, scope.Transparent s.token

theorem Opens.token {token : Token} {children : List Tree}
    (h : scope.Opens (.node token children)) : scope.Transparent token :=
  h _ (Tree.mem_preorder_self _)

theorem Opens.child {token : Token} {children : List Tree}
    (h : scope.Opens (.node token children)) {child : Tree} (hchild : child ∈ children) :
    scope.Opens child :=
  fun s hs => h s (Tree.mem_preorder_node.mpr (.inr ⟨child, hchild, hs⟩))

/-- Whether a token is the name, in any letter case. -/
def isName (name : String) (token : Token) : Bool :=
  token.kind == .name && Text.upper token.lexeme == Text.upper name

/-- A tree and the tree with another one in the place of a name. -/
def Replaced (scope : Scope) (name : String) (new s s' : Tree) : Prop :=
  scope.Opens s ∧ (s' = s ∨ s' = Tree.replace (isName name) new s)

variable {name : String} {new : Tree}

/-- The operands of a node that is not the name stay, or are replaced. -/
theorem alike_replaced {token : Token} {children : List Tree}
    (h : scope.Opens (.node token children)) (hname : isName name token = false) {s' : Tree}
    (hs' : s' = .node token children ∨
      s' = Tree.replace (isName name) new (.node token children)) :
    ∃ children', s' = .node token children' ∧
      Alike (scope.Replaced name new) token children children' := by
  have hsame : ∀ child ∈ children, scope.Replaced name new child child :=
    fun child hchild => ⟨h.child hchild, .inl rfl⟩
  have hreplaced : ∀ child ∈ children,
      scope.Replaced name new child (Tree.replace (isName name) new child) :=
    fun child hchild => ⟨h.child hchild, .inr rfl⟩
  by_cases hkind : token.kind = .separator
  · cases children with
    | nil =>
      refine ⟨[], ?_, .none hkind⟩
      rcases hs' with rfl | rfl
      · rfl
      · rw [Tree.replace.eq_def]
        simp [hname, hkind, Tree.replaceAll]
    | cons base fields =>
      rcases hs' with rfl | rfl
      · exact ⟨_, rfl, .field hkind (hsame base List.mem_cons_self) fields⟩
      · exact ⟨_, Tree.replace_field hname hkind base fields,
          .field hkind (hreplaced base List.mem_cons_self) fields⟩
  · rcases hs' with rfl | rfl
    · exact ⟨children, rfl, .operands hkind (List.forall₂_same.mpr hsame)⟩
    · refine ⟨_, Tree.replace_node hname hkind children, .operands hkind ?_⟩
      exact List.forall₂_map_right_iff.mpr (List.forall₂_same.mpr hreplaced)

/-- Evaluating a name that is bound to a tree costs one level and evaluates the tree. -/
theorem evaluateWithin_name {token : Token} (hkind : token.kind = .name)
    (hbound : scope.lookup? token.lexeme = some (.tree new)) (levels : Nat) (children : List Tree) :
    scope.evaluateWithin (levels + 1) (.node token children) =
      (scope.evaluateWithin levels new >>= fun value => .ok (value.finish scope.settings)) := by
  rw [evaluateWithin_succ]
  simp only [step, Tree.token, hkind, namedValue, hbound]
  rfl

/-- With no fewer levels, the tree with the variable replaced has the same result unless the limit
    of nesting cuts the evaluation of the variable short. -/
theorem evaluateWithin_refines (hstrip : scope.settings.stripTrailingZeros = true)
    (hbound : ∀ token, isName name token = true → scope.lookup? token.lexeme = some (.tree new))
    (hnew : scope.Opens new)
    (hnames : ∀ name s, scope.lookup? name = some (.tree s) → scope.Opens s) :
    ∀ levels levels', levels ≤ levels' → Simulates (scope.Replaced name new)
      (scope.evaluateWithin levels) (scope.evaluateWithin levels') := by
  intro levels
  induction levels with
  | zero =>
    intro levels' _ s s' _
    exact .cut _ _ _
  | succ levels ih =>
    intro levels' hle s s' hreplaced
    obtain ⟨levels', rfl⟩ : ∃ fewer, levels' = fewer + 1 := ⟨levels' - 1, by omega⟩
    obtain ⟨token, children⟩ := s
    obtain ⟨hopens, hs'⟩ := hreplaced
    have hself : scope.Replaced name new new new := ⟨hnew, .inl rfl⟩
    cases hname : isName name token with
    | true =>
      have hkind : token.kind = .name := by
        simp only [isName, Bool.and_eq_true, beq_iff_eq] at hname
        exact hname.1
      rw [evaluateWithin_name hkind (hbound token hname)]
      rcases hs' with rfl | rfl
      · rw [evaluateWithin_name hkind (hbound token hname)]
        refine (ih levels' (by omega) new new hself).bind fun value value' hsame => ?_
        exact .ok (by rw [hsame])
      · -- The tree in the place of the variable has one level more, and is finished once only.
        rw [Tree.replace_chosen hname]
        have hrefines := ih (levels' + 1) (by omega) new new hself
        have hfinish := @finish_of_evaluateWithin scope hstrip (levels' + 1) new
        generalize scope.evaluateWithin levels new = first at hrefines ⊢
        generalize scope.evaluateWithin (levels' + 1) new = second at hrefines hfinish ⊢
        cases hrefines with
        | cut limit position result => exact .cut limit position _
        | error error => exact .error error
        | ok related =>
          subst related
          exact .ok (hfinish rfl)
    | false =>
      obtain ⟨children', rfl, halike⟩ := alike_replaced hopens hname hs'
      rw [evaluateWithin_succ, evaluateWithin_succ]
      have hstep := step_refines (ih levels' (by omega))
        (fun name s hs => ⟨hnames name s hs, .inl rfl⟩) hopens.token halike
      refine hstep.bind fun value value' hsame => ?_
      exact .ok (by rw [hsame])

/-- The operator that a token of such a tree stands for is built in. -/
theorem builtIn_operatorOf? (hoperators : scope.configuration.operators = BuiltIn.operatorTable)
    {s : Tree} (h : s.UsesBuiltIns) (hkind : s.token.kind.fixity?.isSome = true)
    {operator : Operator} (hfound : scope.operatorOf? s.token = some operator) :
    ∃ name, (name, operator) ∈ BuiltIn.operators := by
  rcases Option.or_eq_some_iff.mp hfound with hbound | ⟨_, hfound⟩
  · exact (h s (Tree.mem_preorder_self s)).1 hkind operator hbound
  · rw [hoperators] at hfound
    exact BuiltIn.mem_of_find?_operatorTable hfound

theorem builtIn_functionOf? (hfunctions : scope.configuration.functions = BuiltIn.functionTable)
    {s : Tree} (h : s.UsesBuiltIns) (hkind : s.token.kind = .function)
    {function : LibraryFunction} (hfound : scope.functionOf? s.token = some function) :
    ∃ name, (name, function) ∈ BuiltIn.functions := by
  rcases Option.or_eq_some_iff.mp hfound with hbound | ⟨_, hfound⟩
  · exact (h s (Tree.mem_preorder_self s)).2 hkind function hbound
  · rw [hfunctions] at hfound
    exact BuiltIn.mem_of_find?_functionTable hfound

theorem opens_of_usesBuiltIns (hoperators : scope.configuration.operators = BuiltIn.operatorTable)
    (hfunctions : scope.configuration.functions = BuiltIn.functionTable) {tree : Tree}
    (h : tree.UsesBuiltIns) : scope.Opens tree := by
  intro s hs
  constructor
  · intro hkind operator hfound
    obtain ⟨key, hmem⟩ := builtIn_operatorOf? hoperators (h.within hs) hkind hfound
    exact BuiltIn.operators_transparent _ hmem
  · intro hkind function hfound
    obtain ⟨key, hmem⟩ := builtIn_functionOf? hfunctions (h.within hs) hkind hfound
    exact BuiltIn.functions_transparent _ hmem

theorem lookup?_of_isName {entries : Dictionary Value} (hstore : scope.store = .table entries)
    (hconstant : Dictionary.find? scope.constants (Text.upper name) = none)
    (hbound : scope.store.get? name = some (.tree new)) {token : Token}
    (h : isName name token = true) : scope.lookup? token.lexeme = some (.tree new) := by
  simp only [isName, Bool.and_eq_true, beq_iff_eq] at h
  rw [hstore, VariableStore.get?] at hbound
  rw [lookup?, h.2, hconstant, hstore, VariableStore.get?, h.2, hbound]
  rfl

/-- Where a variable is bound to a tree, writing the tree in its place does not change what a
    formula evaluates to, unless the evaluation is cut short by the limit of nesting. -/
theorem evaluate_replace {entries : Dictionary Value} {text newText : String} {tree : Tree}
    (hoperators : scope.configuration.operators = BuiltIn.operatorTable)
    (hfunctions : scope.configuration.functions = BuiltIn.functionTable)
    (hstore : scope.store = .table entries)
    (hstrip : scope.settings.stripTrailingZeros = true)
    (htree : scope.configuration.parse text = .ok tree)
    (hnew : scope.configuration.parse newText = .ok new)
    (hconstant : Dictionary.find? scope.constants (Text.upper name) = none)
    (hbound : scope.store.get? name = some (.tree new))
    (hothers : ∀ other s, scope.lookup? other = some (.tree s) → s.UsesBuiltIns)
    (hcut : ∀ limit position, scope.evaluate tree ≠ .error (.nestingTooDeep limit position)) :
    scope.evaluate (Tree.replace (isName name) new tree) = scope.evaluate tree := by
  have hopens : ∀ {s : Tree}, s.UsesBuiltIns → scope.Opens s :=
    opens_of_usesBuiltIns hoperators hfunctions
  have hparsed := Tree.inductive_usesBuiltIns hoperators hfunctions
  have hrefines := evaluateWithin_refines hstrip
    (fun token => lookup?_of_isName hstore hconstant hbound)
    (hopens (Tree.forall_of_parse hparsed hnew)) (fun other s hs => hopens (hothers other s hs))
    scope.settings.maxNesting scope.settings.maxNesting (Nat.le_refl _) tree _
    ⟨hopens (Tree.forall_of_parse hparsed htree), .inr rfl⟩
  exact hrefines.eq_of_not_cut hcut

theorem find?_standardConstants_x :
    Dictionary.find? Configuration.standardConstants (Text.upper "x") = none :=
  Option.isNone_iff_eq_none.mp (by decide +kernel)

/-- The standard configuration with `a = 3` and `x` bound to a tree. -/
def macroScope (new : Tree) : Scope where
  configuration := .standard
  constants := Configuration.standardConstants
  store := .table [("A", .number (.ofSmall 3)), ("X", .tree new)]
  ambient := ⟨.epoch, fun _ => 0⟩

theorem lookup?_macroScope {new s : Tree} {other : String}
    (h : (macroScope new).lookup? other = some (.tree s)) : s = new := by
  rcases Option.or_eq_some_iff.mp h with hconstant | ⟨_, hvariable⟩
  · exact (Configuration.standardConstants_ne_tree hconstant).elim
  · have hmem := Dictionary.mem_of_find? hvariable
    simp only [List.mem_cons, Prod.mk.injEq, List.not_mem_nil, or_false, reduceCtorEq, and_false,
      false_or, Value.tree.injEq] at hmem
    exact hmem.2

/-- With `x` bound to `a * 2`, `x + 1` has the value of `a * 2 + 1`. -/
theorem evaluate_replace_standard : ∃ (tree new : Tree) (value : Value),
    Configuration.standard.parse "x + 1" = .ok tree ∧
    Configuration.standard.parse "a * 2" = .ok new ∧
    (macroScope new).store.get? "x" = some (.tree new) ∧
    (macroScope new).evaluate tree = .ok value ∧
    (macroScope new).evaluate (Tree.replace (isName "x") new tree) = .ok value ∧
    value.equal (.number (.ofSmall 7)) = true := by
  have hrun : ((Configuration.standard.parse "x + 1").toOption.any fun tree =>
      (Configuration.standard.parse "a * 2").toOption.any fun new =>
      ((macroScope new).evaluate tree).toOption.any fun value =>
        value.equal (.number (.ofSmall 7))) = true := by
    decide +kernel
  obtain ⟨tree, htree, hrun⟩ := ok_of_any hrun
  obtain ⟨new, hnew, hrun⟩ := ok_of_any hrun
  obtain ⟨value, hvalue, hseven⟩ := ok_of_any hrun
  have hname : Text.upper "x" = "X" := by decide +kernel
  have hbound : (macroScope new).store.get? "x" = some (.tree new) := by
    simp [macroScope, VariableStore.get?, hname, Dictionary.find?]
  have hparsed := Tree.forall_of_parse (Tree.inductive_usesBuiltIns rfl rfl) hnew
  refine ⟨tree, new, value, htree, hnew, hbound, hvalue, ?_, hseven⟩
  rw [← hvalue]
  apply evaluate_replace rfl rfl rfl rfl htree hnew find?_standardConstants_x hbound
  · intro other s hs
    rwa [lookup?_macroScope hs]
  · simp [hvalue]

end Scope

end Formula

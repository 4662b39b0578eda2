-- SUMMARY: What an evaluation does not come to makes no difference: a branch that is not taken, cases behind the one that is met, operands behind one that fails.
import Formula.Proofs.Evaluation.Arguments
import Formula.Proofs.Evaluation.Substitution

/-!
# What an evaluation leaves alone

Some operands of a node make no difference to its value, whatever they are: those that it does not
take, and those behind one whose evaluation fails (`Scope.Spared`). Which ones these are follows from
the other operands, so the operand can be replaced by any tree at all (`Scope.step_modify`), also deep
inside of a tree (`Scope.Spares`).

For each construct that gets its operands as trees there is one equation that says what it does with
them, for example `Scope.functionValue_choose`.
-/

namespace Formula

/-! ## Paths -/

namespace Tree

/-- The tree with a new one at the end of a path. A path that leads nowhere changes nothing. -/
def replaceAt (new : Tree) : List Nat → Tree → Tree
  | [], _ => new
  | index :: path, node token children => node token (children.modify index (replaceAt new path))

end Tree

/-- The values are the same, or numbers of the same value. -/
def Value.Agrees (a b : Value) : Prop :=
  a = b ∨ ∃ m n, a = .number m ∧ b = .number n ∧ m.same n = true

/-! ## Equations -/

namespace BuiltIn

/-- The parameters of `IF`. -/
def chooseSignature : Signature :=
  ⟨[{ name := "condition" }, onDemand "resultIfTrue", onDemand "resultIfFalse"]⟩

/-- Of three arguments the first one is evaluated, and the others are trees. -/
theorem isLazy_chooseSignature :
    ∀ index, index ≤ 2 → Scope.isLazy chooseSignature index = decide (0 < index) := by
  decide

theorem functions_choose :
    ∀ entry ∈ functions, entry.2.action = .choose → entry.2 = ⟨chooseSignature, .choose⟩ := by
  decide +kernel

theorem functions_switch :
    ∀ entry ∈ functions, entry.2.action = .switch → entry.2 = ⟨switchSignature, .switch⟩ := by
  decide +kernel

theorem operators_conditions : ∀ entry ∈ operators,
    entry.2.action = .and ∨ entry.2.action = .or →
      entry.2.rule.lazy = true ∧ entry.2.rule.operandCount = 2 := by
  decide +kernel

/-- Parameters that demand nothing reject nothing. -/
theorem check_ok {signature : Signature}
    (h : ∀ parameter ∈ signature.parameters,
      parameter.nonZero = false ∧ parameter.nonNegative = false)
    (token : Token) (arguments : List Value) : signature.check token arguments = .ok () := by
  refine Signature.check_ok_iff.mpr ?_
  rintro index parameter fault ⟨hgoverns, argument, -, hforbids⟩
  obtain ⟨hnonZero, hnonNegative⟩ := h parameter (mem_of_parameter? hgoverns)
  cases hforbids with
  | zero demand => cases hnonZero.symm.trans demand
  | negative demand => cases hnonNegative.symm.trans demand

end BuiltIn

namespace Scope

variable {scope : Scope} {evaluate : Evaluator} {token : Token}

/-- Where nothing is evaluated, the operands are trees. -/
theorem operandValues_trees {lazy : Nat → Bool} {index : Nat} {trees : List Tree}
    (h : ∀ later, index ≤ later → later < index + trees.length → lazy later = true) :
    operandValues evaluate lazy index trees = .ok (trees.map .tree) := by
  induction trees generalizing index with
  | nil => rfl
  | cons tree rest ih =>
    simp only [List.length_cons] at h
    rw [operandValues, h index (by omega) (by omega),
      ih fun later hle hlt => h later (by omega) (by omega)]
    rfl

/-- A function that demands nothing evaluates its first argument and gets the others as trees. -/
theorem functionValue_first {function : LibraryFunction}
    (hfound : scope.functionOf? token = some function)
    (hdemand : ∀ parameter ∈ function.signature.parameters,
      parameter.nonZero = false ∧ parameter.nonNegative = false)
    {trees : List Tree} (hlazy : ∀ index, index ≤ trees.length →
      isLazy function.signature index = decide (0 < index)) (first : Tree) :
    scope.functionValue evaluate token (first :: trees) =
      (evaluate first >>= fun value =>
        BuiltIn.applyFunction scope.configuration.hostFunctions (scope.context evaluate) token
          function.action (value :: trees.map .tree)) := by
  have htrees : operandValues evaluate (isLazy function.signature) 1 trees =
      .ok (trees.map .tree) := by
    refine operandValues_trees fun later hle hlt => ?_
    rw [hlazy later (by omega), decide_eq_true (by omega)]
  simp only [functionValue, hfound, operandValues, hlazy 0 (Nat.zero_le _), htrees]
  cases evaluate first with
  | error error => rfl
  | ok value =>
    change (function.signature.check token _ >>= fun _ => _) = _
    rw [BuiltIn.check_ok hdemand]
    rfl

/-- `IF` evaluates its condition and then one of its branches. -/
theorem functionValue_choose
    (h : scope.functionOf? token = some ⟨BuiltIn.chooseSignature, .choose⟩)
    (condition whenTrue whenFalse : Tree) :
    scope.functionValue evaluate token [condition, whenTrue, whenFalse] =
      (evaluate condition >>= fun value =>
        evaluate (if value.toBool then whenTrue else whenFalse)) := by
  have hlazy : ∀ index, index ≤ [whenTrue, whenFalse].length →
      isLazy BuiltIn.chooseSignature index = decide (0 < index) := BuiltIn.isLazy_chooseSignature
  rw [functionValue_first h (by decide) hlazy]
  congr 1
  funext value
  change Value.force evaluate (if value.toBool then .tree whenTrue else .tree whenFalse) = _
  split <;> rfl

/-- `SWITCH` evaluates its expression and then its cases. -/
theorem functionValue_switch
    (h : scope.functionOf? token = some ⟨BuiltIn.switchSignature, .switch⟩)
    (expression : Tree) (cases : List Tree) :
    scope.functionValue evaluate token (expression :: cases) =
      (evaluate expression >>= fun value =>
        BuiltIn.switchCases (scope.context evaluate) value (cases.map .tree)) :=
  functionValue_first h (by decide) (fun index _ => BuiltIn.isLazy_switchSignature index) _

theorem switchCases_cons (value : Value) (candidate result : Tree) (rest : List Value) :
    BuiltIn.switchCases (scope.context evaluate) value (.tree candidate :: .tree result :: rest) =
      (evaluate candidate >>= fun other =>
        if value.equal other then evaluate result
        else BuiltIn.switchCases (scope.context evaluate) value rest) := rfl

/-- `&&` and `||` evaluate their left operand and, unless it is decisive, the right one. -/
theorem operatorValue_conditions {operator : Operator} {decisive : Bool}
    (hfound : scope.operatorOf? token = some operator) (hlazy : operator.rule.lazy = true)
    (hcount : operator.rule.operandCount = 2)
    (haction : operator.action = if decisive then .or else .and) (left right : Tree) :
    scope.operatorValue evaluate token [left, right] =
      (evaluate left >>= fun value =>
        if value.toBool == decisive then .ok (.boolean decisive)
        else evaluate right >>= fun value => .ok (.boolean value.toBool)) := by
  have hoperands : operandValues evaluate (fun _ => operator.rule.lazy) 0 [left, right] =
      .ok [.tree left, .tree right] :=
    operandValues_trees fun _ _ _ => hlazy
  simp only [operatorValue, hfound, hcount, hoperands, haction]
  cases decisive <;> rfl

/-! ## Operands that make no difference -/

/-- The token calls a function that does this. -/
def Calls (scope : Scope) (token : Token) (action : FunctionAction) : Prop :=
  token.kind = .function ∧
    ∃ function, scope.functionOf? token = some function ∧ function.action = action

/-- The token stands for an operator that does this. -/
def Performs (scope : Scope) (token : Token) (action : OperatorAction) : Prop :=
  token.kind.fixity?.isSome = true ∧
    ∃ operator, scope.operatorOf? token = some operator ∧ operator.action = action

/-- The operand at an index is evaluated before the token gets its operands. -/
def IsEager (scope : Scope) (token : Token) (index : Nat) : Prop :=
  match token.kind with
  | .prefixOperator | .postfixOperator | .infixOperator =>
    ∃ operator, scope.operatorOf? token = some operator ∧ operator.rule.lazy = false
  | .function =>
    ∃ function, scope.functionOf? token = some function ∧ isLazy function.signature index = false
  | .arrayIndex => True
  | .separator => index = 0
  | _ => False

/-- An argument of `SWITCH` that is not needed to find the result for a value: the result of a case
    that is not met, or anything behind a case that is. -/
inductive SparedCase (evaluate : Evaluator) (value : Value) : List Tree → Nat → Prop
  | result {candidate result rest}
      (unmet : Yields (fun other => value.equal other = false) (evaluate candidate)) :
      SparedCase evaluate value (candidate :: result :: rest) 1
  | behind {candidate result rest index}
      (met : Yields (fun other => value.equal other = true) (evaluate candidate)) :
      SparedCase evaluate value (candidate :: result :: rest) (index + 2)
  | later {candidate result rest index} (spared : SparedCase evaluate value rest index) :
      SparedCase evaluate value (candidate :: result :: rest) (index + 2)

/-- The operand at an index is not needed, given what the other operands evaluate to: it is the
    branch that is not taken, the condition that is not decisive, an argument of `SWITCH` that is not
    needed, or any operand behind an eager one that has no value. -/
inductive Spared (scope : Scope) (evaluate : Evaluator) (token : Token) :
    List Tree → Nat → Prop
  | whenTrue {condition whenTrue whenFalse} (calls : scope.Calls token .choose)
      (falsy : Yields (fun value => value.toBool = false) (evaluate condition)) :
      Spared scope evaluate token [condition, whenTrue, whenFalse] 1
  | whenFalse {condition whenTrue whenFalse} (calls : scope.Calls token .choose)
      (truthy : Yields (fun value => value.toBool = true) (evaluate condition)) :
      Spared scope evaluate token [condition, whenTrue, whenFalse] 2
  | and {left right} (performs : scope.Performs token .and)
      (falsy : Yields (fun value => value.toBool = false) (evaluate left)) :
      Spared scope evaluate token [left, right] 1
  | or {left right} (performs : scope.Performs token .or)
      (truthy : Yields (fun value => value.toBool = true) (evaluate left)) :
      Spared scope evaluate token [left, right] 1
  | case {expression cases index} (calls : scope.Calls token .switch)
      (spared : Yields (fun value => SparedCase evaluate value cases index)
        (evaluate expression)) :
      Spared scope evaluate token (expression :: cases) (index + 1)
  | failed {children child error earlier index} (found : children[earlier]? = some child)
      (eager : scope.IsEager token earlier) (failure : evaluate child = .error error)
      (before : earlier < index) : Spared scope evaluate token children index

section Modify

variable {children : List Tree} {index : Nat} {change : Tree → Tree}

theorem switchCases_modify {value : Value} (h : SparedCase evaluate value children index) :
    BuiltIn.switchCases (scope.context evaluate) value ((children.modify index change).map .tree) =
      BuiltIn.switchCases (scope.context evaluate) value (children.map .tree) := by
  induction h with
  | result unmet =>
    simp only [List.modify_succ_cons, List.modify_zero_cons, List.map_cons, switchCases_cons]
    refine unmet.bind_congr fun other hother => ?_
    rw [hother]
    rfl
  | behind met =>
    simp only [List.modify_succ_cons, List.map_cons, switchCases_cons]
    refine met.bind_congr fun other hother => ?_
    rw [if_pos hother, if_pos hother]
  | later _ ih => simp only [List.modify_succ_cons, List.map_cons, switchCases_cons, ih]

theorem indexValue_of_length (h : children.length ≠ 2) :
    indexValue evaluate token children = .error token.unexpected := by
  unfold indexValue
  split
  · simp at h
  · rfl

theorem fieldValue_of_length (h : children.length ≠ 2) :
    fieldValue evaluate token children = .error token.unexpected := by
  unfold fieldValue
  split
  · simp at h
  · rfl

section Failed

variable {earlier : Nat} {child : Tree} {error : EvalError}
  (hfound : children[earlier]? = some child) (hfailure : evaluate child = .error error)
  (hbefore : earlier < index)

include hfound hbefore in
/-- The only operand of two that has another one before it is the second one. -/
theorem modify_pair (hlength : children.length = 2) :
    (∃ second, children = [child, second] ∧
      children.modify index change = [child, change second]) ∨
    children.modify index change = children := by
  match children, hlength with
  | [first, second], _ =>
    by_cases hindex : index = 1
    · obtain rfl : earlier = 0 := by omega
      cases hfound
      subst hindex
      exact .inl ⟨second, rfl, rfl⟩
    · exact .inr (List.modify_eq_self (by simp only [List.length_cons, List.length_nil]; omega))

include hfound hfailure hbefore

/-- Operands behind one that has no value are not evaluated. -/
theorem operandValues_modify {lazy : Nat → Bool} {start : Nat}
    (heager : lazy (start + earlier) = false) :
    operandValues evaluate lazy start (children.modify index change) =
      operandValues evaluate lazy start children := by
  obtain ⟨index, rfl⟩ : ∃ fewer, index = fewer + 1 := ⟨index - 1, by omega⟩
  induction children generalizing start earlier index with
  | nil => rfl
  | cons first rest ih =>
    rw [List.modify_succ_cons, operandValues, operandValues]
    cases earlier with
    | zero =>
      cases hfound
      rw [Nat.add_zero] at heager
      rw [heager, hfailure]
      rfl
    | succ earlier =>
      obtain ⟨index, rfl⟩ : ∃ fewer, index = fewer + 1 := ⟨index - 1, by omega⟩
      rw [ih hfound (by rwa [Nat.add_assoc, Nat.add_comm 1]) index (by omega)]

theorem operatorValue_modify {operator : Operator}
    (hoperator : scope.operatorOf? token = some operator) (heager : operator.rule.lazy = false) :
    scope.operatorValue evaluate token (children.modify index change) =
      scope.operatorValue evaluate token children := by
  simp only [operatorValue, hoperator]
  by_cases hcount : children.length = operator.rule.operandCount
  · rw [if_pos hcount, if_pos (by rwa [List.length_modify]),
      operandValues_modify hfound hfailure hbefore heager]
  · rw [if_neg hcount, if_neg (by rwa [List.length_modify])]

theorem functionValue_modify {function : LibraryFunction}
    (hfunction : scope.functionOf? token = some function)
    (heager : isLazy function.signature earlier = false) :
    scope.functionValue evaluate token (children.modify index change) =
      scope.functionValue evaluate token children := by
  simp only [functionValue, hfunction]
  rw [operandValues_modify hfound hfailure hbefore (by rwa [Nat.zero_add])]

theorem indexValue_modify :
    indexValue evaluate token (children.modify index change) =
      indexValue evaluate token children := by
  by_cases hlength : children.length = 2
  · rcases @modify_pair children index change _ _ hfound hbefore hlength with
      ⟨second, rfl, hmodify⟩ | hmodify
    · rw [hmodify]
      simp only [indexValue, hfailure]
      rfl
    · rw [hmodify]
  · rw [indexValue_of_length hlength, indexValue_of_length (by rwa [List.length_modify])]

theorem fieldValue_modify :
    fieldValue evaluate token (children.modify index change) =
      fieldValue evaluate token children := by
  by_cases hlength : children.length = 2
  · rcases @modify_pair children index change _ _ hfound hbefore hlength with
      ⟨second, rfl, hmodify⟩ | hmodify
    · rw [hmodify]
      simp only [fieldValue, hfailure]
      rfl
    · rw [hmodify]
  · rw [fieldValue_of_length hlength, fieldValue_of_length (by rwa [List.length_modify])]

/-- Operands behind an eager one that has no value make no difference. -/
theorem step_modify_failed (heager : scope.IsEager token earlier) :
    scope.step evaluate (.node token (children.modify index change)) =
      scope.step evaluate (.node token children) := by
  cases hkind : token.kind with
  | prefixOperator | postfixOperator | infixOperator =>
    simp only [IsEager, hkind] at heager
    obtain ⟨operator, hoperator, hlazy⟩ := heager
    simp only [step, Tree.token, Tree.children, hkind]
    exact operatorValue_modify hfound hfailure hbefore hoperator hlazy
  | function =>
    simp only [IsEager, hkind] at heager
    obtain ⟨function, hfunction, hlazy⟩ := heager
    simp only [step, Tree.token, Tree.children, hkind]
    exact functionValue_modify hfound hfailure hbefore hfunction hlazy
  | arrayIndex =>
    simp only [step, Tree.token, Tree.children, hkind]
    exact indexValue_modify hfound hfailure hbefore
  | separator =>
    simp only [step, Tree.token, Tree.children, hkind]
    exact fieldValue_modify hfound hfailure hbefore
  | _ => simp [IsEager, hkind] at heager

end Failed

variable (hoperators : scope.configuration.operators = BuiltIn.operatorTable)
  (hfunctions : scope.configuration.functions = BuiltIn.functionTable)

include hoperators in
theorem step_conditions (hbuiltIn : (Tree.node token children).UsesBuiltIns) (decisive : Bool)
    (h : scope.Performs token (if decisive then .or else .and)) (left right : Tree) :
    scope.step evaluate (.node token [left, right]) =
      (evaluate left >>= fun value =>
        if value.toBool == decisive then .ok (.boolean decisive)
        else evaluate right >>= fun value => .ok (.boolean value.toBool)) := by
  obtain ⟨hkind, operator, hfound, haction⟩ := h
  obtain ⟨name, hmem⟩ := builtIn_operatorOf? hoperators hbuiltIn hkind hfound
  have hcondition : operator.action = .and ∨ operator.action = .or := by
    cases decisive with
    | false => exact .inl haction
    | true => exact .inr haction
  obtain ⟨hlazy, hcount⟩ := BuiltIn.operators_conditions _ hmem hcondition
  rw [step_operator hkind, operatorValue_conditions hfound hlazy hcount haction]

include hfunctions in
theorem step_choose (hbuiltIn : (Tree.node token children).UsesBuiltIns)
    (h : scope.Calls token .choose) (condition whenTrue whenFalse : Tree) :
    scope.step evaluate (.node token [condition, whenTrue, whenFalse]) =
      (evaluate condition >>= fun value =>
        evaluate (if value.toBool then whenTrue else whenFalse)) := by
  obtain ⟨hkind, function, hfound, haction⟩ := h
  obtain ⟨name, hmem⟩ := builtIn_functionOf? hfunctions hbuiltIn hkind hfound
  have hchoose : function = ⟨BuiltIn.chooseSignature, .choose⟩ :=
    BuiltIn.functions_choose _ hmem haction
  rw [step_function hkind, functionValue_choose (hchoose ▸ hfound)]

include hfunctions in
theorem step_switch (hbuiltIn : (Tree.node token children).UsesBuiltIns)
    (h : scope.Calls token .switch) (expression : Tree) (cases : List Tree) :
    scope.step evaluate (.node token (expression :: cases)) =
      (evaluate expression >>= fun value =>
        BuiltIn.switchCases (scope.context evaluate) value (cases.map .tree)) := by
  obtain ⟨hkind, function, hfound, haction⟩ := h
  obtain ⟨name, hmem⟩ := builtIn_functionOf? hfunctions hbuiltIn hkind hfound
  have hswitch : function = ⟨BuiltIn.switchSignature, .switch⟩ :=
    BuiltIn.functions_switch _ hmem haction
  rw [step_function hkind, functionValue_switch (hswitch ▸ hfound)]

include hoperators hfunctions in
/-- A spared operand makes no difference to its node, whatever it is changed to. -/
theorem step_modify (hbuiltIn : (Tree.node token children).UsesBuiltIns)
    (h : scope.Spared evaluate token children index) :
    scope.step evaluate (.node token (children.modify index change)) =
      scope.step evaluate (.node token children) := by
  cases h with
  | whenTrue calls falsy =>
    simp only [List.modify_succ_cons, List.modify_zero_cons, step_choose hfunctions hbuiltIn calls]
    refine falsy.bind_congr fun value hvalue => ?_
    rw [hvalue]
    rfl
  | whenFalse calls truthy =>
    simp only [List.modify_succ_cons, List.modify_zero_cons, step_choose hfunctions hbuiltIn calls]
    refine truthy.bind_congr fun value hvalue => ?_
    rw [hvalue]
    rfl
  | and performs falsy =>
    simp only [List.modify_succ_cons, List.modify_zero_cons,
      step_conditions hoperators hbuiltIn false performs]
    refine falsy.bind_congr fun value hvalue => ?_
    rw [hvalue]
    rfl
  | or performs truthy =>
    simp only [List.modify_succ_cons, List.modify_zero_cons,
      step_conditions hoperators hbuiltIn true performs]
    refine truthy.bind_congr fun value hvalue => ?_
    rw [hvalue]
    rfl
  | case calls spared =>
    simp only [List.modify_succ_cons, step_switch hfunctions hbuiltIn calls]
    exact spared.bind_congr fun value hvalue => switchCases_modify hvalue
  | failed found eager failure before => exact step_modify_failed found failure before eager

end Modify

/-! ## Deep inside of a tree -/

/-- The path leads into an operand that is not needed when the tree is evaluated with so many levels
    left. -/
inductive Spares (scope : Scope) : Nat → Tree → List Nat → Prop
  | here {levels token children index path}
      (spared : scope.Spared (scope.evaluateWithin levels) token children index) :
      Spares scope (levels + 1) (.node token children) (index :: path)
  | within {levels token children index child path} (found : children[index]? = some child)
      (spared : Spares scope levels child path) :
      Spares scope (levels + 1) (.node token children) (index :: path)

/-- A path into an operand does not lead to the tree itself. -/
theorem Spares.token_replaceAt {levels : Nat} {tree : Tree} {path : List Nat}
    (h : scope.Spares levels tree path) (new : Tree) :
    (Tree.replaceAt new path tree).token = tree.token := by
  cases h <;> rfl

section Below

variable {levels : Nat} {children : List Tree} {index : Nat} {child : Tree} {change : Tree → Tree}

theorem forall₂_modify {T : Tree → Tree → Prop} (hrefl : ∀ s, T s s)
    (hfound : children[index]? = some child) (hchange : T child (change child)) :
    List.Forall₂ T children (children.modify index change) := by
  induction children generalizing index with
  | nil =>
    rw [List.modify_nil]
    exact .nil
  | cons first rest ih =>
    cases index with
    | zero =>
      cases hfound
      exact .cons hchange (List.forall₂_same.mpr fun s _ => hrefl s)
    | succ index => exact .cons (hrefl first) (ih hfound)

/-- Of the name of a field only the token counts. -/
theorem fieldValue_modify_field (hfound : children[index + 1]? = some child)
    (htoken : (change child).token = child.token) :
    fieldValue evaluate token (children.modify (index + 1) change) =
      fieldValue evaluate token children := by
  by_cases hlength : children.length = 2
  · match children, hlength with
    | [base, field], _ =>
      cases index with
      | zero =>
        cases hfound
        simp only [List.modify_succ_cons, List.modify_zero_cons, fieldValue, htoken]
      | succ index => cases hfound
  · rw [fieldValue_of_length hlength, fieldValue_of_length (by rwa [List.length_modify])]

/-- A child that evaluates to the same makes no difference to its parent. -/
theorem step_modify_below (hopens : scope.Opens (.node token children))
    (hfound : children[index]? = some child)
    (htoken : (change child).token = child.token)
    (hsame : scope.evaluateWithin levels (change child) = scope.evaluateWithin levels child) :
    scope.step (scope.evaluateWithin levels) (.node token (children.modify index change)) =
      scope.step (scope.evaluateWithin levels) (.node token children) := by
  let T : Tree → Tree → Prop := fun s s' =>
    scope.evaluateWithin levels s' = scope.evaluateWithin levels s
  have hrefl : ∀ s, T s s := fun s => rfl
  have hsimulates : (Comparison.upTo Eq).Simulates T (scope.evaluateWithin levels)
      (scope.evaluateWithin levels) := by
    intro s s' hs
    change Related Eq Eq _ _
    rw [hs]
    exact .refl (fun _ => rfl) _
  have hstep : Scope.Alike T token children (children.modify index change) →
      scope.step (scope.evaluateWithin levels) (.node token (children.modify index change)) =
        scope.step (scope.evaluateWithin levels) (.node token children) := by
    intro halike
    have hrelated := Comparison.step False hsimulates (.refl scope token) (fun _ s _ => hrefl s)
      hopens.token False.elim (fun _ _ h => h.eq) halike
    exact (Related.eq hrelated).symm
  by_cases hkind : token.kind = .separator
  · cases index with
    | zero =>
      cases children with
      | nil => rfl
      | cons base fields =>
        cases hfound
        exact hstep (.field hkind hsame fields)
    | succ index =>
      simp only [step, Tree.token, Tree.children, hkind]
      exact fieldValue_modify_field hfound htoken
  · exact hstep (.operands hkind (forall₂_modify hrefl hfound hsame))

end Below

/-- What a tree evaluates to does not depend on what is spared. -/
theorem evaluateWithin_replaceAt
    (hoperators : scope.configuration.operators = BuiltIn.operatorTable)
    (hfunctions : scope.configuration.functions = BuiltIn.functionTable) {levels : Nat}
    {tree : Tree} {path : List Nat} (h : scope.Spares levels tree path) (htree : tree.UsesBuiltIns)
    (new : Tree) :
    scope.evaluateWithin levels (Tree.replaceAt new path tree) =
      scope.evaluateWithin levels tree := by
  induction h with
  | here spared =>
    rw [Tree.replaceAt, evaluateWithin_succ, evaluateWithin_succ,
      step_modify hoperators hfunctions htree spared]
  | within found spared ih =>
    have hsame := ih (htree.child (List.mem_of_getElem? found))
    have hopens := opens_of_usesBuiltIns hoperators hfunctions htree
    rw [Tree.replaceAt, evaluateWithin_succ, evaluateWithin_succ,
      step_modify_below hopens found (spared.token_replaceAt new) hsame]

/-! ## Conditional functions -/

/-- A value that is finished a second time stays what it is. -/
theorem finish_agrees {levels : Nat} {tree : Tree} {value : Value}
    (h : scope.evaluateWithin levels tree = .ok value) :
    value.Agrees (value.finish scope.settings) := by
  cases levels with
  | zero => cases h
  | succ levels =>
    obtain ⟨stepped, _, hfinished⟩ := ok_of_bind h
    cases hfinished
    cases stepped with
    | number n =>
      refine .inr ⟨_, _, rfl, rfl, ?_⟩
      rw [Decimal.same_iff, Settings.value_finishNumber_finishNumber]
    | _ => exact .inl rfl

/-- `IF` has the value of the branch that its condition selects. -/
theorem evaluateWithin_choose
    (hfunctions : scope.configuration.functions = BuiltIn.functionTable)
    {condition whenTrue whenFalse : Tree}
    (htree : (Tree.node token [condition, whenTrue, whenFalse]).UsesBuiltIns)
    (hcalls : scope.Calls token .choose) {levels : Nat} {value : Value}
    (hvalue : scope.evaluateWithin levels condition = .ok value) :
    Related Eq Value.Agrees
      (scope.evaluateWithin levels (if value.toBool then whenTrue else whenFalse))
      (scope.evaluateWithin (levels + 1) (.node token [condition, whenTrue, whenFalse])) := by
  have hstep : scope.step (scope.evaluateWithin levels)
      (.node token [condition, whenTrue, whenFalse]) =
        scope.evaluateWithin levels (if value.toBool then whenTrue else whenFalse) := by
    rw [step_choose hfunctions htree hcalls, hvalue]
    rfl
  rw [evaluateWithin_succ, hstep]
  cases hbranch : scope.evaluateWithin levels (if value.toBool then whenTrue else whenFalse) with
  | error error => exact .error rfl
  | ok branch => exact .ok (finish_agrees hbranch)

/-- With the built-in operators and functions, a tree evaluates to the same whatever stands where
    nothing is evaluated. `IF` evaluates to what the branch that its condition selects does. -/
theorem evaluate_spared
    (hoperators : scope.configuration.operators = BuiltIn.operatorTable)
    (hfunctions : scope.configuration.functions = BuiltIn.functionTable) {tree : Tree}
    (htree : tree.UsesBuiltIns) :
    (∀ levels path, scope.Spares levels tree path → ∀ new,
      scope.evaluateWithin levels (Tree.replaceAt new path tree) =
        scope.evaluateWithin levels tree) ∧
    (∀ token condition whenTrue whenFalse, tree = .node token [condition, whenTrue, whenFalse] →
      scope.Calls token .choose → ∀ levels value,
      scope.evaluateWithin levels condition = .ok value →
      Related Eq Value.Agrees
        (scope.evaluateWithin levels (if value.toBool then whenTrue else whenFalse))
        (scope.evaluateWithin (levels + 1) tree)) := by
  refine ⟨fun levels path h new => evaluateWithin_replaceAt hoperators hfunctions h htree new, ?_⟩
  rintro token condition whenTrue whenFalse rfl hcalls levels value hvalue
  exact evaluateWithin_choose hfunctions htree hcalls hvalue

/-- With `x` bound to `a * 2`, any tree can stand for `b` in `1 + IF(x < 7, 4, b)`. -/
theorem evaluate_spared_standard : ∃ (tree bound : Tree) (value : Value),
    Configuration.standard.parse "1 + IF(x < 7, 4, b)" = .ok tree ∧
    Configuration.standard.parse "a * 2" = .ok bound ∧
    (macroScope bound).Spares 512 tree [1, 2] ∧
    (macroScope bound).evaluate tree = .ok value ∧
    value.equal (.number (.ofSmall 5)) = true ∧
    ∀ new, (macroScope bound).evaluate (Tree.replaceAt new [1, 2] tree) = .ok value := by
  have hrun : ((Configuration.standard.parse "1 + IF(x < 7, 4, b)").toOption.any fun tree =>
      (Configuration.standard.parse "a * 2").toOption.any fun bound =>
      ((tree.at? [1]).any fun call => call.token.kind == .function &&
        ((macroScope bound).functionOf? call.token).any (·.action == .choose) &&
        call.children.length == 3 && call.children.head?.any fun condition =>
          ((macroScope bound).evaluateWithin 510 condition).toOption.any Value.toBool) &&
      ((macroScope bound).evaluate tree).toOption.any fun value =>
        value.equal (.number (.ofSmall 5))) = true := by
    decide +kernel
  obtain ⟨tree, htree, hrun⟩ := ok_of_any hrun
  obtain ⟨bound, hbound, hrun⟩ := ok_of_any hrun
  rw [Bool.and_eq_true] at hrun
  obtain ⟨hform, hrun⟩ := hrun
  obtain ⟨value, hvalue, hfive⟩ := ok_of_any hrun
  have hspares : (macroScope bound).Spares 512 tree [1, 2] := by
    obtain ⟨call, hcall, hform⟩ := (Option.any_eq_true _ _).mp hform
    obtain ⟨token, children⟩ := tree
    obtain ⟨callee, arguments⟩ := call
    simp only [Tree.token, Tree.children, Bool.and_eq_true, beq_iff_eq, Option.any_eq_true]
      at hform
    obtain ⟨⟨⟨hkind, function, hfunction, haction⟩, hthree⟩, condition, hfirst, holds,
      hcondition, htruthy⟩ := hform
    obtain ⟨_, whenTrue, whenFalse, rfl⟩ := List.length_eq_three.mp hthree
    cases hfirst
    have hfound : children[1]? = some (.node callee [condition, whenTrue, whenFalse]) := by
      simp only [Tree.at?, Tree.children] at hcall
      cases hsecond : children[1]? with
      | none => simp [hsecond] at hcall
      | some second => simpa [hsecond, Tree.at?] using hcall
    refine .within hfound (.here (.whenFalse ⟨hkind, function, hfunction, haction⟩ ?_))
    intro other hother
    rw [hother] at hcondition
    cases hcondition
    exact htruthy
  have hbuiltIn := Tree.forall_of_parse (Tree.inductive_usesBuiltIns rfl rfl) htree
  refine ⟨tree, bound, value, htree, hbound, hspares, hvalue, hfive, fun new => ?_⟩
  rw [← hvalue]
  exact (evaluate_spared rfl rfl hbuiltIn).1 512 [1, 2] hspares new

end Scope
end Formula

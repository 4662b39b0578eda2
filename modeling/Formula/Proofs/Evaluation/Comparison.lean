-- SUMMARY: Comparing two evaluations: the results of one step compare if those of the operands do and the reports of the token do.
import Formula.Proofs.Evaluation.Reports
import Mathlib.Data.List.Forall2

/-!
# Comparing two evaluations

Two evaluations are compared along a relation of trees, in any way that passes through the steps of
a computation (`Comparison`). If two ways to evaluate trees compare on related trees, then so do the
steps into two nodes with related operands, provided that their tokens mean the same
(`Scope.Twin`) and that what such tokens can report compares (`Reports`). The operators and
functions must do no more with a tree than evaluate it (`Operator.Transparent`).
-/

namespace Formula

/-! ## Comparisons -/

/-- A way to compare results along a relation of their values. -/
structure Comparison where
  Errors : EvalError → EvalError → Prop
  Results : {α β : Type} → (α → β → Prop) → Except EvalError α → Except EvalError β → Prop
  ok : ∀ {α β : Type} {R : α → β → Prop} {a : α} {b : β}, R a b → Results R (.ok a) (.ok b)
  error : ∀ {α β : Type} {R : α → β → Prop} {e e' : EvalError}, Errors e e' →
    Results R (.error e) (.error e')
  bind : ∀ {α β γ δ : Type} {R : α → β → Prop} {S : γ → δ → Prop} {first : Except EvalError α}
    {second : Except EvalError β} {f : α → Except EvalError γ} {g : β → Except EvalError δ},
    Results R first second → (∀ a b, R a b → Results S (f a) (g b)) →
      Results S (first >>= f) (second >>= g)

namespace Comparison

/-- The comparison for which the values correspond, and the errors are related. -/
def upTo (E : EvalError → EvalError → Prop) : Comparison where
  Errors := E
  Results := Related E
  ok := .ok
  error := .error
  bind := .bind

/-- The comparison for which the second result refines the first one. -/
def refinement : Comparison where
  Errors := Eq
  Results := Refines
  ok := .ok
  error := by
    rintro α β R e _ rfl
    exact .error e
  bind h := h.bind

variable (C : Comparison)

/-- The two ways to evaluate compare on related trees. -/
def Simulates (T : Tree → Tree → Prop) (evaluate evaluate' : Evaluator) : Prop :=
  ∀ s s', T s s' → C.Results Eq (evaluate s) (evaluate' s')

variable {C}

theorem of_related {α β : Type} {R : α → β → Prop} {E : EvalError → EvalError → Prop}
    {first : Except EvalError α} {second : Except EvalError β} (h : Related E R first second)
    (herrors : ∀ e e', E e e' → C.Errors e e') : C.Results R first second := by
  cases h with
  | error related => exact C.error (herrors _ _ related)
  | ok related => exact C.ok related

end Comparison

/-! ## Operators and functions that only evaluate trees -/

/-- An operator that gets its operands as trees only to evaluate them. -/
def Operator.Transparent (operator : Operator) : Prop :=
  match operator.action with
  | .and | .or => operator.rule.lazy = true
  | .host _ => False
  | _ => operator.rule.lazy = false

/-- A function that gets arguments as trees only to evaluate them. -/
def LibraryFunction.Transparent (function : LibraryFunction) : Prop :=
  match function.action with
  | .choose =>
    Scope.isLazy function.signature 1 = true ∧ Scope.isLazy function.signature 2 = true
  | .switch => ∀ index, Scope.isLazy function.signature index = decide (0 < index)
  | .host _ => False
  | _ => ∀ index, Scope.isLazy function.signature index = false

/-! ## Arguments -/

section Trees

variable {C : Comparison} {T : Tree → Tree → Prop} {evaluate evaluate' : Evaluator}

/-- Arguments from an index on that are equal where they were evaluated, and are related trees where
    they were not. -/
inductive Arguments (T : Tree → Tree → Prop) (lazy : Nat → Bool) :
    Nat → List Value → List Value → Prop
  | nil (index) : Arguments T lazy index [] []
  | eager {index value rest rest'} (evaluated : lazy index = false)
      (others : Arguments T lazy (index + 1) rest rest') :
      Arguments T lazy index (value :: rest) (value :: rest')
  | tree {index s s' rest rest'} (kept : lazy index = true) (related : T s s')
      (others : Arguments T lazy (index + 1) rest rest') :
      Arguments T lazy index (.tree s :: rest) (.tree s' :: rest')

/-- Operands are evaluated to corresponding arguments, as many as there are. -/
theorem Comparison.operandValues (h : C.Simulates T evaluate evaluate') (lazy : Nat → Bool)
    {index : Nat} {children children' : List Tree} (hchildren : List.Forall₂ T children children') :
    C.Results (fun values values' => Arguments T lazy index values values' ∧
        values.length = children.length)
      (Scope.operandValues evaluate lazy index children)
      (Scope.operandValues evaluate' lazy index children') := by
  induction hchildren generalizing index with
  | nil => exact C.ok ⟨.nil index, rfl⟩
  | @cons s s' rest rest' hfirst _ ih =>
    simp only [Scope.operandValues]
    cases hlazy : lazy index with
    | true =>
      change C.Results _
        (Scope.operandValues evaluate lazy (index + 1) rest >>= fun values =>
          .ok (.tree s :: values))
        (Scope.operandValues evaluate' lazy (index + 1) rest' >>= fun values =>
          .ok (.tree s' :: values))
      refine C.bind ih fun values values' hvalues => ?_
      exact C.ok ⟨.tree hlazy hfirst hvalues.1, congrArg (· + 1) hvalues.2⟩
    | false =>
      simp only [Bool.false_eq_true, if_false]
      refine C.bind (h s s' hfirst) fun value value' hvalue => ?_
      subst hvalue
      refine C.bind ih fun values values' hvalues => ?_
      exact C.ok ⟨.eager hlazy hvalues.1, congrArg (· + 1) hvalues.2⟩

namespace Arguments

variable {lazy : Nat → Bool} {index : Nat} {values values' : List Value}

theorem eq_of_eager (h : Arguments T lazy index values values')
    (heager : ∀ index, lazy index = false) : values = values' := by
  induction h with
  | nil index => rfl
  | eager _ _ ih => rw [ih]
  | tree kept => simp [heager] at kept

/-- Trees meet every demand of a parameter. -/
theorem checkFrom_eq (h : Arguments T lazy index values values') (signature : Signature)
    (token : Token) :
    signature.checkFrom token index values = signature.checkFrom token index values' := by
  induction h with
  | nil index => rfl
  | eager _ _ ih => simp only [Signature.checkFrom, ih]
  | tree _ _ _ ih => simp only [Signature.checkFrom, Parameter.faultOf, ih]

/-- Where nothing is evaluated, the arguments are related trees. -/
theorem exists_trees (h : Arguments T lazy index values values')
    (hlazy : ∀ later, index ≤ later → lazy later = true) :
    ∃ trees trees' : List Tree, List.Forall₂ T trees trees' ∧ values = trees.map .tree ∧
      values' = trees'.map .tree := by
  induction h with
  | nil index => exact ⟨[], [], .nil, rfl, rfl⟩
  | @eager index _ _ _ evaluated => simp [hlazy index (Nat.le_refl index)] at evaluated
  | tree _ related _ ih =>
    obtain ⟨trees, trees', htrees, rfl, rfl⟩ := ih fun later hle => hlazy later (by omega)
    exact ⟨_ :: trees, _ :: trees', .cons related htrees, rfl, rfl⟩

end Arguments

/-! ## Built-in actions -/

variable {scope : Scope} {token token' : Token} {values values' : List Value}

namespace Comparison

/-- Both conditions are trees, and whether the second one is evaluated depends on the first one. -/
theorem shortCircuit (h : C.Simulates T evaluate evaluate') (decisive : Bool)
    {trees trees' : List Tree} (htrees : List.Forall₂ T trees trees') :
    C.Results Eq (BuiltIn.shortCircuit (scope.context evaluate) decisive (trees.map .tree))
      (BuiltIn.shortCircuit (scope.context evaluate') decisive (trees'.map .tree)) := by
  match htrees with
  | .nil => exact C.ok rfl
  | .cons _ .nil => exact C.ok rfl
  | .cons hleft (.cons hright .nil) =>
    refine C.bind (h _ _ hleft) fun left left' hsame => ?_
    subst hsame
    split
    · exact C.ok rfl
    · refine C.bind (h _ _ hright) fun right right' hsame => ?_
      subst hsame
      exact C.ok rfl
  | .cons _ (.cons _ (.cons _ _)) => exact C.ok rfl

/-- The condition decides which branch is evaluated. -/
theorem choose (h : C.Simulates T evaluate evaluate') {lazy : Nat → Bool}
    (hone : lazy 1 = true) (htwo : lazy 2 = true) {condition condition' : Value}
    (hcondition : condition.toBool = condition'.toBool)
    (hvalues : Arguments T lazy 1 values values') :
    C.Results Eq (BuiltIn.choose (scope.context evaluate) (condition :: values))
      (BuiltIn.choose (scope.context evaluate') (condition' :: values')) := by
  cases hvalues with
  | nil => exact C.ok rfl
  | eager evaluated => simp [hone] at evaluated
  | tree _ hwhenTrue hrest =>
    cases hrest with
    | nil => exact C.ok rfl
    | eager evaluated => simp [htwo] at evaluated
    | tree _ hwhenFalse hrest =>
      cases hrest with
      | nil =>
        simp only [BuiltIn.choose, hcondition]
        split
        · exact h _ _ hwhenTrue
        · exact h _ _ hwhenFalse
      | eager => exact C.ok rfl
      | tree => exact C.ok rfl

/-- The cases are evaluated in order up to the one that is met. -/
theorem switchCases (h : C.Simulates T evaluate evaluate') (value : Value) :
    ∀ {trees trees' : List Tree}, List.Forall₂ T trees trees' →
      C.Results Eq (BuiltIn.switchCases (scope.context evaluate) value (trees.map .tree))
        (BuiltIn.switchCases (scope.context evaluate') value (trees'.map .tree))
  | _, _, .nil => C.ok rfl
  | _, _, .cons hotherwise .nil => h _ _ hotherwise
  | _, _, .cons hcandidate (.cons hresult hrest) => by
    refine C.bind (h _ _ hcandidate) fun candidate candidate' hsame => ?_
    subst hsame
    split
    · exact h _ _ hresult
    · exact switchCases h value hrest

theorem applyOperator (enough : Prop) (h : C.Simulates T evaluate evaluate') {operator : Operator}
    (htransparent : operator.Transparent)
    (hvalues : Arguments T (fun _ => operator.rule.lazy) 0 values values')
    (hcount : enough → values.length = BuiltIn.operandCount operator.action)
    (herrors : ∀ e e', Reported enough token token' e e' → C.Errors e e')
    (host : Array Behaviour) :
    C.Results Eq
      (BuiltIn.applyOperator host (scope.context evaluate) token operator.action values)
      (BuiltIn.applyOperator host (scope.context evaluate') token' operator.action values') := by
  unfold Operator.Transparent at htransparent
  split at htransparent
  · rename_i haction
    obtain ⟨trees, trees', htrees, rfl, rfl⟩ := hvalues.exists_trees fun _ _ => htransparent
    rw [haction]
    exact shortCircuit h false htrees
  · rename_i haction
    obtain ⟨trees, trees', htrees, rfl, rfl⟩ := hvalues.exists_trees fun _ _ => htransparent
    rw [haction]
    exact shortCircuit h true htrees
  · exact htransparent.elim
  · rename_i hand hor hhost
    obtain rfl := hvalues.eq_of_eager fun _ => htransparent
    have heager : BuiltIn.isEagerOperator operator.action = true := by
      cases haction : operator.action with
      | and => exact absurd haction hand
      | or => exact absurd haction hor
      | host number => exact absurd haction (hhost number)
      | _ => rfl
    exact of_related (BuiltIn.applyOperator_parallel heager hcount) herrors

theorem applyFunction (enough : Prop) (h : C.Simulates T evaluate evaluate')
    {function : LibraryFunction} (htransparent : function.Transparent)
    (hvalues : Arguments T (Scope.isLazy function.signature) 0 values values')
    (hcount : enough → BuiltIn.required function.action ≤ values.length)
    (hposition : token'.position = token.position)
    (herrors : ∀ e e', Reported enough token token' e e' → C.Errors e e')
    (host : Array Behaviour) :
    C.Results Eq
      (BuiltIn.applyFunction host (scope.context evaluate) token function.action values)
      (BuiltIn.applyFunction host (scope.context evaluate') token' function.action values') := by
  unfold LibraryFunction.Transparent at htransparent
  split at htransparent
  · rename_i haction
    rw [haction]
    cases hvalues with
    | nil => exact C.ok rfl
    | eager _ others => exact choose h htransparent.1 htransparent.2 rfl others
    | tree _ _ others => exact choose h htransparent.1 htransparent.2 rfl others
  · rename_i haction
    rw [haction]
    cases hvalues with
    | nil => exact C.ok rfl
    | tree kept => simp [htransparent] at kept
    | eager _ others =>
      obtain ⟨trees, trees', htrees, rfl, rfl⟩ := others.exists_trees fun later hle => by
        rw [htransparent, decide_eq_true_eq]
        omega
      exact switchCases h _ htrees
  · exact htransparent.elim
  · rename_i hchoose hswitch hhost
    obtain rfl := hvalues.eq_of_eager htransparent
    have heager : BuiltIn.isEager function.action = true := by
      cases haction : function.action with
      | choose => exact absurd haction hchoose
      | switch => exact absurd haction hswitch
      | host number => exact absurd haction (hhost number)
      | _ => rfl
    exact of_related (BuiltIn.applyFunction_parallel heager rfl rfl hposition hcount) herrors

end Comparison

/-! ## Nodes -/

namespace Scope

theorem step_operator (hkind : token.kind.fixity?.isSome = true) (children : List Tree) :
    scope.step evaluate (.node token children) = scope.operatorValue evaluate token children := by
  simp only [step, Tree.token, Tree.children]
  cases h : token.kind with
  | prefixOperator => rfl
  | postfixOperator => rfl
  | infixOperator => rfl
  | _ => simp [h, TokenKind.fixity?] at hkind

theorem step_function (hkind : token.kind = .function) (children : List Tree) :
    scope.step evaluate (.node token children) = scope.functionValue evaluate token children := by
  simp only [step, Tree.token, Tree.children, hkind]

/-- What a token stands for does with trees nothing but evaluate them. -/
structure Transparent (scope : Scope) (token : Token) : Prop where
  operator : token.kind.fixity?.isSome = true →
    ∀ operator, scope.operatorOf? token = some operator → operator.Transparent
  function : token.kind = .function → ∀ function, scope.functionOf? token = some function →
    function.Transparent

/-- A second token in the same place that means the same. -/
structure Twin (scope : Scope) (token token' : Token) : Prop where
  kind : token'.kind = token.kind
  position : token'.position = token.position
  literal : token.kind = .number ∨ token.kind = .text → token'.lexeme = token.lexeme
  name : token.kind = .name → scope.lookup? token'.lexeme = scope.lookup? token.lexeme
  operator : token.kind.fixity?.isSome = true → scope.operatorOf? token' = scope.operatorOf? token
  function : token.kind = .function → scope.functionOf? token' = scope.functionOf? token

theorem Twin.refl (scope : Scope) (token : Token) : scope.Twin token token :=
  ⟨rfl, rfl, fun _ => rfl, fun _ => rfl, fun _ => rfl, fun _ => rfl⟩

/-- The token can be evaluated, stands for something, and has as many operands as that takes. -/
def Complete (scope : Scope) (token : Token) (count : Nat) : Prop :=
  match token.kind with
  | .number => (Decimal.ofLiteral? token.lexeme.toList).isSome = true
  | .text | .name => True
  | .prefixOperator | .postfixOperator | .infixOperator =>
    ∃ operator, scope.operatorOf? token = some operator ∧ count = operator.rule.operandCount ∧
      count = BuiltIn.operandCount operator.action
  | .function => ∃ function, scope.functionOf? token = some function ∧
      BuiltIn.required function.action ≤ count
  | .arrayIndex | .separator => count = 2
  | _ => False

end Scope

/-- The errors report the same at two tokens. At a complete node it is nothing about its form. -/
inductive Reports (complete : Prop) (token token' : Token) : EvalError → EvalError → Prop
  | call {error error'} (reported : Reported complete token token' error error') :
      Reports complete token token' error error'
  | unexpected (incomplete : ¬ complete) :
      Reports complete token token' token.unexpected token'.unexpected
  | malformedNumber (kind : token.kind = .number) (incomplete : ¬ complete) :
      Reports complete token token'
        (.parse ⟨.malformedNumber .notDecimal, token.position, token.lexeme⟩)
        (.parse ⟨.malformedNumber .notDecimal, token'.position, token'.lexeme⟩)
  | undefinedVariable (kind : token.kind = .name) :
      Reports complete token token' (.undefinedVariable token.lexeme token.position)
        (.undefinedVariable token'.lexeme token'.position)
  | undefinedField (field : Token) :
      Reports complete token token' (.undefinedField field.lexeme field.position)
        (.undefinedField field.lexeme field.position)
  | indexOutOfBounds (index : Decimal) (length : Nat) :
      Reports complete token token' (.indexOutOfBounds index length token.position)
        (.indexOutOfBounds index length token'.position)

/-- Operands of one token that are related. The name of a field is no operand. -/
inductive Scope.Alike (T : Tree → Tree → Prop) (token : Token) : List Tree → List Tree → Prop
  | operands {children children'} (kind : token.kind ≠ .separator)
      (related : List.Forall₂ T children children') : Alike T token children children'
  | field {base base'} (kind : token.kind = .separator) (related : T base base') (fields) :
      Alike T token (base :: fields) (base' :: fields)
  | none (kind : token.kind = .separator) : Alike T token [] []

theorem Scope.Alike.refl {children : List Tree} (h : ∀ child ∈ children, T child child) :
    Scope.Alike T token children children := by
  by_cases hkind : token.kind = .separator
  · cases children with
    | nil => exact .none hkind
    | cons base fields => exact .field hkind (h base List.mem_cons_self) fields
  · exact .operands hkind (List.forall₂_same.mpr h)

namespace Comparison

variable {complete : Prop} {children children' : List Tree}

theorem operatorValue (h : C.Simulates T evaluate evaluate')
    (hkind : token.kind.fixity?.isSome = true) (htwin : scope.Twin token token')
    (htoken : scope.Transparent token) (hcomplete : complete → scope.Complete token children.length)
    (herrors : ∀ e e', Reports complete token token' e e' → C.Errors e e')
    (hchildren : List.Forall₂ T children children') :
    C.Results Eq (scope.operatorValue evaluate token children)
      (scope.operatorValue evaluate' token' children') := by
  have hform : complete → ∃ operator, scope.operatorOf? token = some operator ∧
      children.length = operator.rule.operandCount ∧
      children.length = BuiltIn.operandCount operator.action := by
    intro h
    have hform := hcomplete h
    unfold Scope.Complete at hform
    cases hcase : token.kind with
    | prefixOperator => rwa [hcase] at hform
    | postfixOperator => rwa [hcase] at hform
    | infixOperator => rwa [hcase] at hform
    | _ => simp [hcase, TokenKind.fixity?] at hkind
  unfold Scope.operatorValue
  rw [htwin.operator hkind]
  cases hoperator : scope.operatorOf? token with
  | none =>
    refine C.error (herrors _ _ (.unexpected fun h => ?_))
    obtain ⟨operator, hfound, _⟩ := hform h
    simp [hoperator] at hfound
  | some operator =>
    simp only [hchildren.length_eq.symm]
    split
    · refine C.bind (operandValues h _ hchildren) fun values values' hvalues => ?_
      refine applyOperator complete h (htoken.operator hkind operator hoperator)
        hvalues.1 (fun h => ?_) (fun e e' he => herrors e e' (.call he)) _
      obtain ⟨_, hfound, _, hcount⟩ := hform h
      rw [hoperator] at hfound
      cases hfound
      rw [hvalues.2, hcount]
    · rename_i hcount
      refine C.error (herrors _ _ (.unexpected fun h => hcount ?_))
      obtain ⟨_, hfound, hrule, _⟩ := hform h
      rw [hoperator] at hfound
      cases hfound
      exact hrule

theorem functionValue (h : C.Simulates T evaluate evaluate') (hkind : token.kind = .function)
    (htwin : scope.Twin token token') (htoken : scope.Transparent token)
    (hcomplete : complete → scope.Complete token children.length)
    (herrors : ∀ e e', Reports complete token token' e e' → C.Errors e e')
    (hchildren : List.Forall₂ T children children') :
    C.Results Eq (scope.functionValue evaluate token children)
      (scope.functionValue evaluate' token' children') := by
  simp only [Scope.Complete, hkind] at hcomplete
  have hcalls : ∀ e e', Reported complete token token' e e' → C.Errors e e' :=
    fun e e' he => herrors e e' (.call he)
  unfold Scope.functionValue
  rw [htwin.function hkind]
  cases hfunction : scope.functionOf? token with
  | none =>
    refine C.error (herrors _ _ (.unexpected fun h => ?_))
    obtain ⟨function, hfound, _⟩ := hcomplete h
    simp [hfunction] at hfound
  | some function =>
    refine C.bind (operandValues h _ hchildren) fun values values' hvalues => ?_
    have hcheck : C.Results Eq (function.signature.check token values)
        (function.signature.check token' values') := by
      rw [Signature.check, hvalues.1.checkFrom_eq]
      exact of_related (Signature.check_parallel _ _) hcalls
    refine C.bind hcheck fun _ _ _ => ?_
    refine applyFunction complete h (htoken.function hkind function hfunction)
      hvalues.1 (fun h => ?_) htwin.position hcalls _
    obtain ⟨_, hfound, hcount⟩ := hcomplete h
    rw [hfunction] at hfound
    cases hfound
    rw [hvalues.2]
    exact hcount

theorem itemAt (herrors : ∀ e e', Reports complete token token' e e' → C.Errors e e')
    (array index : Value) :
    C.Results Eq (Scope.itemAt token array index) (Scope.itemAt token' array index) := by
  have htype : ∀ fault : TypeFault, (CallFault.type fault).isMiscount = false →
      C.Errors (token.unsupported fault) (token'.unsupported fault) :=
    fun fault h => herrors _ _ (.call ⟨.type fault, fun _ => h, rfl, rfl⟩)
  unfold Scope.itemAt
  split
  · split
    · exact C.ok rfl
    · exact C.error (herrors _ _ (.indexOutOfBounds _ _))
  · exact C.error (htype _ rfl)
  · exact C.error (htype _ rfl)

theorem indexValue (h : C.Simulates T evaluate evaluate')
    (hcomplete : complete → children.length = 2)
    (herrors : ∀ e e', Reports complete token token' e e' → C.Errors e e')
    (hchildren : List.Forall₂ T children children') :
    C.Results Eq (Scope.indexValue evaluate token children)
      (Scope.indexValue evaluate' token' children') := by
  match hchildren with
  | .nil => exact C.error (herrors _ _ (.unexpected fun h => by simpa using hcomplete h))
  | .cons _ .nil => exact C.error (herrors _ _ (.unexpected fun h => by simpa using hcomplete h))
  | .cons harray (.cons hindex .nil) =>
    refine C.bind (h _ _ harray) fun array array' hsame => ?_
    subst hsame
    refine C.bind (h _ _ hindex) fun index index' hsame => ?_
    subst hsame
    exact itemAt herrors _ _
  | .cons _ (.cons _ (.cons _ _)) =>
    exact C.error (herrors _ _ (.unexpected fun h => by simpa using hcomplete h))

theorem fieldOf (herrors : ∀ e e', Reports complete token token' e e' → C.Errors e e')
    (field : Token) (value : Value) :
    C.Results Eq (Scope.fieldOf token field value) (Scope.fieldOf token' field value) := by
  unfold Scope.fieldOf
  split
  · split
    · exact C.ok rfl
    · exact C.error (herrors _ _ (.undefinedField field))
  · exact C.error (herrors _ _ (.call ⟨.type (.noFields _), fun _ => rfl, rfl, rfl⟩))

theorem fieldValue (h : C.Simulates T evaluate evaluate') {base base' : Tree}
    (hbase : T base base') {fields : List Tree}
    (hcomplete : complete → (base :: fields).length = 2)
    (herrors : ∀ e e', Reports complete token token' e e' → C.Errors e e') :
    C.Results Eq (Scope.fieldValue evaluate token (base :: fields))
      (Scope.fieldValue evaluate' token' (base' :: fields)) := by
  match fields with
  | [] => exact C.error (herrors _ _ (.unexpected fun h => by simpa using hcomplete h))
  | [field] =>
    refine C.bind (h _ _ hbase) fun value value' hsame => ?_
    subst hsame
    exact fieldOf herrors _ _
  | _ :: _ :: _ => exact C.error (herrors _ _ (.unexpected fun h => by simpa using hcomplete h))

theorem numberValue (hlexeme : token'.lexeme = token.lexeme)
    (hkind : token.kind = .number)
    (hcomplete : complete → (Decimal.ofLiteral? token.lexeme.toList).isSome = true)
    (herrors : ∀ e e', Reports complete token token' e e' → C.Errors e e') :
    C.Results Eq (Scope.numberValue token) (Scope.numberValue token') := by
  unfold Scope.numberValue
  rw [hlexeme]
  split
  · exact C.ok rfl
  · rename_i hnone
    have hreport := herrors _ _ (.malformedNumber hkind fun h => by simpa [hnone] using hcomplete h)
    rw [hlexeme] at hreport
    exact C.error hreport

theorem namedValue (h : C.Simulates T evaluate evaluate') (hkind : token.kind = .name)
    (hname : scope.lookup? token'.lexeme = scope.lookup? token.lexeme)
    (hbound : ∀ s, scope.lookup? token.lexeme = some (.tree s) → T s s)
    (herrors : ∀ e e', Reports complete token token' e e' → C.Errors e e') :
    C.Results Eq (scope.namedValue evaluate token) (scope.namedValue evaluate' token') := by
  unfold Scope.namedValue
  rw [hname]
  cases hvalue : scope.lookup? token.lexeme with
  | none => exact C.error (herrors _ _ (.undefinedVariable hkind))
  | some value =>
    cases value with
    | tree s => exact h s s (hbound s hvalue)
    | _ => exact C.ok rfl

/-- One step into two nodes compares if evaluating their operands does, their tokens mean the same,
    and what such tokens report compares. -/
theorem step (complete : Prop) (h : C.Simulates T evaluate evaluate') (htwin : scope.Twin token token')
    (hbound : token.kind = .name → ∀ s, scope.lookup? token.lexeme = some (.tree s) → T s s)
    (htoken : scope.Transparent token) (hcomplete : complete → scope.Complete token children.length)
    (herrors : ∀ e e', Reports complete token token' e e' → C.Errors e e')
    (hchildren : Scope.Alike T token children children') :
    C.Results Eq (scope.step evaluate (.node token children))
      (scope.step evaluate' (.node token' children')) := by
  have hunexpected : (¬ complete) → C.Results (α := Value) (β := Value) Eq
      (.error token.unexpected) (.error token'.unexpected) :=
    fun h => C.error (herrors _ _ (.unexpected h))
  simp only [Scope.step, Tree.token, Tree.children, htwin.kind]
  cases hchildren with
  | field kind related fields =>
    simp only [Scope.Complete, kind] at hcomplete ⊢
    exact fieldValue h related hcomplete herrors
  | none kind =>
    simp only [Scope.Complete, kind] at hcomplete ⊢
    exact hunexpected fun h => by simpa using hcomplete h
  | operands kind related =>
    cases hkind : token.kind with
    | number =>
      simp only [Scope.Complete, hkind] at hcomplete ⊢
      exact numberValue (htwin.literal (.inl hkind)) hkind hcomplete herrors
    | text =>
      simp only [htwin.literal (.inr hkind)]
      exact C.ok rfl
    | name => exact namedValue h hkind (htwin.name hkind) (hbound hkind) herrors
    | prefixOperator | postfixOperator | infixOperator =>
      exact operatorValue h (by rw [hkind]; rfl) htwin htoken hcomplete herrors related
    | function => exact functionValue h hkind htwin htoken hcomplete herrors related
    | arrayIndex =>
      simp only [Scope.Complete, hkind] at hcomplete ⊢
      exact indexValue h hcomplete herrors related
    | separator => exact absurd hkind kind
    | arrayOpen | arrayClose | parenOpen | parenClose | comma =>
      simp only [Scope.Complete, hkind] at hcomplete ⊢
      exact hunexpected hcomplete

end Comparison

end Trees

end Formula

-- SUMMARY: A tree without its bindings evaluates as the tree that was parsed: the evaluator finds what the parser bound.
import Formula.Proofs.BuiltIn.Bindings
import Formula.Proofs.Evaluation.Termination
import Formula.Proofs.Parsing.Reading
import Formula.Proofs.Parsing.Shape
import Mathlib.Data.List.Forall2

/-!
# Bindings and what is found without them

The parser binds operators and functions while it reads, and the evaluator looks up by name those
that are not bound. What a token resolves to in the end is `Scope.resolution`. Trees whose tokens
resolve to the same evaluate to the same (`Scope.evaluateWithin_coherent`), and so the parsed tree
does without its bindings.

Evaluation hands trees to operators and functions and gets values from them that may contain trees,
so values are compared up to resolution as well (`Scope.Agree`). A behaviour of the host can look at
the binding of its token, and then it does not do without (`Scope.evaluate_bare_ne`). All others
treat bindings as data that follows from the rest (`Scope.Oblivious`).
-/

namespace Formula

/-- Lists whose items have the same images one by one have the same image. -/
theorem forall₂_iff_map_eq {α β : Type} {f : α → β} {xs ys : List α} :
    List.Forall₂ (fun x y => f x = f y) xs ys ↔ xs.map f = ys.map f := by
  rw [← List.forall₂_eq_eq_eq, List.forall₂_map_left_iff, List.forall₂_map_right_iff]

/-! ## Resolution -/

namespace Scope

/-- What a token of an operator or function stands for: what it is bound to, or else what its name
    is found to be. -/
def resolution (scope : Scope) (token : Token) : Option Binding :=
  match token.kind with
  | .function => (scope.functionOf? token).map .function
  | .prefixOperator | .postfixOperator | .infixOperator =>
    (scope.operatorOf? token).map .operator
  | _ => none

variable {scope : Scope} {evaluate : Evaluator} {token token' : Token}

theorem resolution_operator (hkind : token.kind.fixity?.isSome = true) :
    scope.resolution token = (scope.operatorOf? token).map .operator := by
  unfold resolution
  cases h : token.kind with
  | prefixOperator | postfixOperator | infixOperator => rfl
  | _ => simp [h, TokenKind.fixity?] at hkind

theorem resolution_function (hkind : token.kind = .function) :
    scope.resolution token = (scope.functionOf? token).map .function := by
  simp only [resolution, hkind]

theorem resolution_plain (hfixity : token.kind.fixity? = none) (hfunction : token.kind ≠ .function) :
    scope.resolution token = none := by
  unfold resolution
  cases h : token.kind with
  | prefixOperator | postfixOperator | infixOperator => simp [h, TokenKind.fixity?] at hfixity
  | function => exact absurd h hfunction
  | _ => rfl

/-! ## Agreement -/

/-- The same lexeme of the same kind at the same place, which resolves to the same. -/
def SameToken (scope : Scope) (token token' : Token) : Prop :=
  token.rebind scope.resolution = token'.rebind scope.resolution

/-- Trees of one shape with the same tokens. -/
def SameTree (scope : Scope) (tree tree' : Tree) : Prop :=
  tree.rebind scope.resolution = tree'.rebind scope.resolution

/-- Values that are the same but for their trees, which have the same tokens. -/
def Agree (scope : Scope) (value value' : Value) : Prop :=
  value.rebind scope.resolution = value'.rebind scope.resolution

/-- A way to evaluate whose results agree for trees with the same tokens. -/
def Coherent (scope : Scope) (evaluate : Evaluator) : Prop :=
  ∀ tree tree', scope.SameTree tree tree' →
    Related Eq scope.Agree (evaluate tree) (evaluate tree')

/-- A behaviour to which a binding is nothing but what follows from the rest of the token: for the
    same token and operands that agree its results do, however it evaluates trees. -/
def Oblivious (scope : Scope) (behaviour : Behaviour) : Prop :=
  ∀ evaluate, scope.Coherent evaluate → ∀ token token' operands operands',
    scope.SameToken token token' → List.Forall₂ scope.Agree operands operands' →
      Related Eq scope.Agree (behaviour (scope.context evaluate) token operands)
        (behaviour (scope.context evaluate) token' operands')

/-- The operators and functions of the host make nothing of bindings. -/
structure HostsOblivious (scope : Scope) : Prop where
  operators : ∀ behaviour ∈ scope.configuration.hostOperators, scope.Oblivious behaviour
  functions : ∀ behaviour ∈ scope.configuration.hostFunctions, scope.Oblivious behaviour

namespace SameToken

variable (h : scope.SameToken token token')
include h

theorem kind_eq : token.kind = token'.kind := (Token.mk.inj h).1

theorem lexeme_eq : token.lexeme = token'.lexeme := (Token.mk.inj h).2.1

theorem position_eq : token.position = token'.position := (Token.mk.inj h).2.2.1

theorem resolution_eq : scope.resolution token = scope.resolution token' := (Token.mk.inj h).2.2.2

theorem operatorOf?_eq (hkind : token.kind.fixity?.isSome = true) :
    scope.operatorOf? token = scope.operatorOf? token' := by
  have hresolution := h.resolution_eq
  rw [resolution_operator hkind, resolution_operator (h.kind_eq ▸ hkind)] at hresolution
  exact Option.map_injective (fun _ _ => Binding.operator.inj) hresolution

theorem functionOf?_eq (hkind : token.kind = .function) :
    scope.functionOf? token = scope.functionOf? token' := by
  have hresolution := h.resolution_eq
  rw [resolution_function hkind, resolution_function (h.kind_eq ▸ hkind)] at hresolution
  exact Option.map_injective (fun _ _ => Binding.function.inj) hresolution

theorem unexpected_eq : token.unexpected = token'.unexpected := by
  rw [Token.unexpected, h.kind_eq, h.lexeme_eq, h.position_eq, Token.unexpected]

end SameToken

theorem sameTree_node {children children' : List Tree} :
    scope.SameTree (.node token children) (.node token' children') ↔
      scope.SameToken token token' ∧ List.Forall₂ scope.SameTree children children' := by
  rw [SameTree, Tree.rebind_node, Tree.rebind_node, Tree.node.injEq, ← forall₂_iff_map_eq]
  exact Iff.rfl

/-! ## Values that agree -/

namespace Agree

variable {value value' : Value}

theorem tree {s s' : Tree} (h : scope.SameTree s s') : scope.Agree (.tree s) (.tree s') :=
  congrArg Value.tree h

variable (h : scope.Agree value value')
include h

theorem toBool_eq : value.toBool = value'.toBool := by
  simpa using congrArg Value.toBool h

theorem equal_eq {other other' : Value} (hother : scope.Agree other other') :
    value.equal other = value'.equal other' := by
  rw [← Value.equal_rebind value other, h, hother, Value.equal_rebind]

theorem finish (settings : Settings) :
    scope.Agree (value.finish settings) (value'.finish settings) := by
  have hfinish : ∀ value : Value, (value.finish settings).rebind scope.resolution =
      (value.rebind scope.resolution).finish settings := by
    intro value
    cases value <;> rfl
  exact (hfinish value).trans ((congrArg _ h).trans (hfinish value').symm)

theorem force (hevaluate : scope.Coherent evaluate) :
    Related Eq scope.Agree (value.force evaluate) (value'.force evaluate) := by
  have hforce : ∀ value : Value,
      value.force evaluate = (value.toTree?.map evaluate).getD (.ok value) := by
    intro value
    cases value <;> rfl
  have htree : value.toTree?.map (Tree.rebind scope.resolution) =
      value'.toTree?.map (Tree.rebind scope.resolution) := by
    simpa using congrArg Value.toTree? h
  rw [hforce, hforce]
  cases hvalue : value.toTree? <;> cases hvalue' : value'.toTree? <;> rw [hvalue, hvalue'] at htree
  · exact .ok h
  · cases htree
  · cases htree
  · exact hevaluate _ _ (Option.some.inj htree)

end Agree

theorem Agree.refl (scope : Scope) (value : Value) : scope.Agree value value := rfl

/-! ## Built-in actions -/

section Actions

variable {operands operands' : List Value}

/-- Both conditions are evaluated, if need be. -/
theorem shortCircuit_coherent (h : scope.Coherent evaluate) (decisive : Bool)
    (hoperands : List.Forall₂ scope.Agree operands operands') :
    Related Eq scope.Agree (BuiltIn.shortCircuit (scope.context evaluate) decisive operands)
      (BuiltIn.shortCircuit (scope.context evaluate) decisive operands') := by
  match hoperands with
  | .nil => exact .ok rfl
  | .cons _ .nil => exact .ok rfl
  | .cons hleft (.cons hright .nil) =>
    refine (hleft.force h).bind fun left left' hleft => ?_
    rw [hleft.toBool_eq]
    split
    · exact .ok rfl
    · refine (hright.force h).bind fun right right' hright => ?_
      rw [hright.toBool_eq]
      exact .ok rfl
  | .cons _ (.cons _ (.cons _ _)) => exact .ok rfl

theorem choose_coherent (h : scope.Coherent evaluate)
    (hoperands : List.Forall₂ scope.Agree operands operands') :
    Related Eq scope.Agree (BuiltIn.choose (scope.context evaluate) operands)
      (BuiltIn.choose (scope.context evaluate) operands') := by
  match hoperands with
  | .nil => exact .ok rfl
  | .cons _ .nil => exact .ok rfl
  | .cons _ (.cons _ .nil) => exact .ok rfl
  | .cons hcondition (.cons hwhenTrue (.cons hwhenFalse .nil)) =>
    simp only [BuiltIn.choose, hcondition.toBool_eq]
    split
    · exact hwhenTrue.force h
    · exact hwhenFalse.force h
  | .cons _ (.cons _ (.cons _ (.cons _ _))) => exact .ok rfl

theorem switchCases_coherent (h : scope.Coherent evaluate) {value value' : Value}
    (hvalue : scope.Agree value value') : ∀ {operands operands' : List Value},
    List.Forall₂ scope.Agree operands operands' →
      Related Eq scope.Agree (BuiltIn.switchCases (scope.context evaluate) value operands)
        (BuiltIn.switchCases (scope.context evaluate) value' operands')
  | _, _, .nil => .ok rfl
  | _, _, .cons hotherwise .nil => hotherwise.force h
  | _, _, .cons hcandidate (.cons hresult hrest) => by
    refine (hcandidate.force h).bind fun candidate candidate' hcandidate => ?_
    rw [hvalue.equal_eq hcandidate]
    split
    · exact hresult.force h
    · exact switchCases_coherent h hvalue hrest

/-- A behaviour of the host, or none, with a number. -/
theorem host_coherent {behaviours : Array Behaviour}
    (hbehaviours : ∀ behaviour ∈ behaviours, scope.Oblivious behaviour)
    (h : scope.Coherent evaluate) (htoken : scope.SameToken token token')
    (hoperands : List.Forall₂ scope.Agree operands operands') (number : Nat) :
    Related Eq scope.Agree
      (match behaviours[number]? with
        | some behaviour => behaviour (scope.context evaluate) token operands
        | none => .error token.unexpected)
      (match behaviours[number]? with
        | some behaviour => behaviour (scope.context evaluate) token' operands'
        | none => .error token'.unexpected) := by
  cases hfound : behaviours[number]? with
  | none => exact .error htoken.unexpected_eq
  | some behaviour =>
    exact hbehaviours behaviour (Array.mem_of_getElem? hfound) evaluate h _ _ _ _ htoken hoperands

theorem applyOperator_coherent (hhosts : scope.HostsOblivious) (h : scope.Coherent evaluate)
    (htoken : scope.SameToken token token') (action : OperatorAction)
    (hoperands : List.Forall₂ scope.Agree operands operands') :
    Related Eq scope.Agree
      (BuiltIn.applyOperator scope.configuration.hostOperators (scope.context evaluate) token action
        operands)
      (BuiltIn.applyOperator scope.configuration.hostOperators (scope.context evaluate) token'
        action operands') := by
  cases heager : BuiltIn.isEagerOperator action with
  | true =>
    -- Both calls give what the call with the resolved token and operands gives.
    rw [← BuiltIn.applyOperator_rebind heager, htoken, forall₂_iff_map_eq.mp hoperands,
      BuiltIn.applyOperator_rebind heager]
    exact (Related.refl (fun _ => rfl) _).mono (fun _ _ => id) fun _ _ => congrArg _
  | false =>
    cases action with
    | and => exact shortCircuit_coherent h false hoperands
    | or => exact shortCircuit_coherent h true hoperands
    | host number => exact host_coherent hhosts.operators h htoken hoperands number
    | _ => cases heager

theorem applyFunction_coherent (hhosts : scope.HostsOblivious) (h : scope.Coherent evaluate)
    (htoken : scope.SameToken token token') (action : FunctionAction)
    (hoperands : List.Forall₂ scope.Agree operands operands') :
    Related Eq scope.Agree
      (BuiltIn.applyFunction scope.configuration.hostFunctions (scope.context evaluate) token action
        operands)
      (BuiltIn.applyFunction scope.configuration.hostFunctions (scope.context evaluate) token'
        action operands') := by
  cases hhandsOn : BuiltIn.handsOn action with
  | false =>
    rw [← BuiltIn.applyFunction_rebind hhandsOn, htoken, forall₂_iff_map_eq.mp hoperands,
      BuiltIn.applyFunction_rebind hhandsOn]
    exact (Related.refl (fun _ => rfl) _).mono (fun _ _ => id) fun _ _ => congrArg _
  | true =>
    cases action with
    | coalesce =>
      have hvalues := congrArg BuiltIn.coalesce (forall₂_iff_map_eq.mp hoperands)
      rw [BuiltIn.coalesce_rebind, BuiltIn.coalesce_rebind] at hvalues
      exact .ok hvalues
    | choose => exact choose_coherent h hoperands
    | switch =>
      cases hoperands with
      | nil => exact .ok rfl
      | cons hvalue hcases => exact switchCases_coherent h hvalue hcases
    | host number => exact host_coherent hhosts.functions h htoken hoperands number
    | _ => cases hhandsOn

end Actions

/-! ## Nodes -/

section Nodes

variable {children children' : List Tree}

theorem operandValues_coherent (h : scope.Coherent evaluate) (lazy : Nat → Bool) {index : Nat}
    (hchildren : List.Forall₂ scope.SameTree children children') :
    Related Eq (List.Forall₂ scope.Agree) (operandValues evaluate lazy index children)
      (operandValues evaluate lazy index children') := by
  induction hchildren generalizing index with
  | nil => exact .ok .nil
  | @cons s s' rest rest' hfirst _ ih =>
    have hoperand : Related Eq scope.Agree (if lazy index then .ok (.tree s) else evaluate s)
        (if lazy index then .ok (.tree s') else evaluate s') := by
      split
      · exact .ok (.tree hfirst)
      · exact h s s' hfirst
    rw [operandValues_cons, operandValues_cons]
    exact hoperand.bind fun _ _ hvalue => ih.bind fun _ _ hothers => .ok (.cons hvalue hothers)

theorem operatorValue_coherent (hhosts : scope.HostsOblivious) (h : scope.Coherent evaluate)
    (hkind : token.kind.fixity?.isSome = true) (htoken : scope.SameToken token token')
    (hchildren : List.Forall₂ scope.SameTree children children') :
    Related Eq scope.Agree (scope.operatorValue evaluate token children)
      (scope.operatorValue evaluate token' children') := by
  unfold operatorValue
  rw [htoken.operatorOf?_eq hkind, hchildren.length_eq]
  cases scope.operatorOf? token' with
  | none => exact .error htoken.unexpected_eq
  | some operator =>
    simp only
    split
    · exact (operandValues_coherent h _ hchildren).bind fun _ _ hoperands =>
        applyOperator_coherent hhosts h htoken operator.action hoperands
    · exact .error htoken.unexpected_eq

theorem functionValue_coherent (hhosts : scope.HostsOblivious) (h : scope.Coherent evaluate)
    (hkind : token.kind = .function) (htoken : scope.SameToken token token')
    (hchildren : List.Forall₂ scope.SameTree children children') :
    Related Eq scope.Agree (scope.functionValue evaluate token children)
      (scope.functionValue evaluate token' children') := by
  unfold functionValue
  rw [htoken.functionOf?_eq hkind]
  cases scope.functionOf? token' with
  | none => exact .error htoken.unexpected_eq
  | some function =>
    refine (operandValues_coherent h _ hchildren).bind fun arguments arguments' harguments => ?_
    have hcheck : function.signature.check token arguments =
        function.signature.check token' arguments' := by
      rw [← Signature.check_rebind, htoken, forall₂_iff_map_eq.mp harguments, Signature.check_rebind]
    rw [hcheck]
    exact (Related.refl (fun _ => rfl) _).bind fun _ _ _ =>
      applyFunction_coherent hhosts h htoken function.action harguments

/-- The item that is taken from an array keeps its bindings. -/
theorem itemAt_rebind {binding : Token → Option Binding} (array index : Value) :
    itemAt (token.rebind binding) (array.rebind binding) (index.rebind binding) =
      mapBoth id (Value.rebind binding) (itemAt token array index) := by
  cases array with
  | array items =>
    cases index with
    | number n =>
      simp only [itemAt, Value.rebind, Value.rebindItems_eq, List.getElem?_map, List.length_map]
      cases n.trunc.toIndex? with
      | none => rfl
      | some position =>
        simp only [Option.bind_some]
        cases items[position]? <;> rfl
    | _ => rfl
  | _ => rfl

theorem indexValue_coherent (h : scope.Coherent evaluate) (htoken : scope.SameToken token token')
    (hchildren : List.Forall₂ scope.SameTree children children') :
    Related Eq scope.Agree (indexValue evaluate token children)
      (indexValue evaluate token' children') := by
  match hchildren with
  | .nil => exact .error htoken.unexpected_eq
  | .cons _ .nil => exact .error htoken.unexpected_eq
  | .cons harray (.cons hindex .nil) =>
    refine (h _ _ harray).bind fun array array' harray => (h _ _ hindex).bind
      fun index index' hindex => Related.mapBoth_id_iff.mp ?_
    rw [← itemAt_rebind, htoken, harray, hindex, itemAt_rebind]
  | .cons _ (.cons _ (.cons _ _)) => exact .error htoken.unexpected_eq

/-- The field that is taken from a record keeps its bindings. -/
theorem fieldOf_rebind {binding : Token → Option Binding} (field : Token) (value : Value) :
    fieldOf (token.rebind binding) (field.rebind binding) (value.rebind binding) =
      mapBoth id (Value.rebind binding) (fieldOf token field value) := by
  cases value with
  | record fields =>
    simp only [fieldOf, Value.rebind, Value.find?_rebindFields, Token.rebind]
    cases Dictionary.find? fields field.lexeme <;> rfl
  | _ => rfl

theorem fieldValue_coherent (h : scope.Coherent evaluate) (htoken : scope.SameToken token token')
    (hchildren : List.Forall₂ scope.SameTree children children') :
    Related Eq scope.Agree (fieldValue evaluate token children)
      (fieldValue evaluate token' children') := by
  match hchildren with
  | .nil => exact .error htoken.unexpected_eq
  | .cons _ .nil => exact .error htoken.unexpected_eq
  | .cons hbase (.cons (a := .node name _) (b := .node name' _) hfield .nil) =>
    obtain ⟨hname, _⟩ := sameTree_node.mp hfield
    refine (h _ _ hbase).bind fun value value' hvalue => Related.mapBoth_id_iff.mp ?_
    simp only [Tree.token]
    rw [← fieldOf_rebind, htoken, hvalue, hname, fieldOf_rebind]
  | .cons _ (.cons _ (.cons _ _)) => exact .error htoken.unexpected_eq

theorem namedValue_coherent (h : scope.Coherent evaluate) (htoken : scope.SameToken token token') :
    Related Eq scope.Agree (scope.namedValue evaluate token)
      (scope.namedValue evaluate token') := by
  unfold namedValue
  rw [htoken.lexeme_eq, htoken.position_eq]
  cases scope.lookup? token'.lexeme with
  | none => exact .error rfl
  | some value => exact (Agree.refl scope value).force h

theorem numberValue_coherent (htoken : scope.SameToken token token') :
    Related Eq scope.Agree (numberValue token) (numberValue token') := by
  unfold numberValue
  rw [htoken.lexeme_eq, htoken.position_eq]
  split
  · exact .ok rfl
  · exact .error rfl

/-- One step is coherent if the evaluation of other trees is. -/
theorem step_coherent (hhosts : scope.HostsOblivious) (h : scope.Coherent evaluate) :
    scope.Coherent (scope.step evaluate) := by
  rintro ⟨token, children⟩ ⟨token', children'⟩ hsame
  obtain ⟨htoken, hchildren⟩ := sameTree_node.mp hsame
  simp only [step, Tree.token, Tree.children, ← htoken.kind_eq]
  cases hkind : token.kind with
  | number => exact numberValue_coherent htoken
  | text =>
    rw [htoken.lexeme_eq]
    exact .ok rfl
  | name => exact namedValue_coherent h htoken
  | prefixOperator | postfixOperator | infixOperator =>
    exact operatorValue_coherent hhosts h (by rw [hkind]; rfl) htoken hchildren
  | function => exact functionValue_coherent hhosts h hkind htoken hchildren
  | arrayIndex => exact indexValue_coherent h htoken hchildren
  | separator => exact fieldValue_coherent h htoken hchildren
  | arrayOpen | arrayClose | parenOpen | parenClose | comma => exact .error htoken.unexpected_eq

end Nodes

/-! ## Evaluation -/

/-- Trees whose tokens resolve to the same evaluate to the same. -/
theorem evaluateWithin_coherent (hhosts : scope.HostsOblivious) (levels : Nat) :
    scope.Coherent (scope.evaluateWithin levels) := by
  -- By induction on the levels, as trees that are evaluated on demand need not be smaller.
  induction levels with
  | zero =>
    rintro ⟨token, children⟩ ⟨token', children'⟩ hsame
    have htoken := (sameTree_node.mp hsame).1
    refine .error ?_
    simp only [Tree.token, htoken.position_eq]
  | succ levels ih =>
    intro tree tree' hsame
    exact (step_coherent hhosts ih tree tree' hsame).bind fun _ _ hvalue =>
      .ok (hvalue.finish scope.settings)

/-! ## Parsed trees -/

/-- The token is bound, if it is one of an operator or function, and to what is found under its name
    without the binding. -/
structure Found (scope : Scope) (token : Token) : Prop where
  operator : token.kind.fixity?.isSome = true → ∃ operator,
    token.operator? = some operator ∧ scope.operatorOf? token.bare = some operator
  function : token.kind = .function → ∃ function,
    token.function? = some function ∧ scope.functionOf? token.bare = some function

/-- The parser binds every token to what the evaluator finds. -/
theorem found_of_parse {text : String} {tree : Tree}
    (h : scope.configuration.parse text = .ok tree) :
    ∀ s ∈ tree.preorder, scope.Found s.token := by
  refine Tree.forall_of_parse (.of_tokens ?plain ?operator ?call) h
  case plain =>
    intro token hfixity hfunction
    exact ⟨fun hkind => by simp [hfixity] at hkind, fun hkind => absurd hkind hfunction⟩
  case operator =>
    intro fixity sign
    have hfixity : sign.bound.kind.fixity? = some fixity := by
      rw [sign.bound_kind, Fixity.fixity?_tokenKind]
    refine ⟨fun _ => ⟨sign.operator, rfl, ?_⟩, fun hkind => ?_⟩
    · simp only [operatorOf?, Token.bare, Token.operator?, Option.none_or, hfixity, Option.getD_some]
      exact sign.found
    · rw [hkind] at hfixity
      cases hfixity
  case call =>
    intro callee
    refine ⟨fun hkind => ?_, fun _ => ⟨callee.function, rfl, ?_⟩⟩
    · rw [callee.bound_kind] at hkind
      cases hkind
    · simp only [functionOf?, Token.bare, Token.function?, Option.none_or]
      exact callee.found

/-- A token that is found resolves to the same without its binding. -/
theorem Found.sameToken (h : scope.Found token) : scope.SameToken token.bare token := by
  suffices hresolution : scope.resolution token.bare = scope.resolution token by
    simp only [SameToken, Token.rebind, hresolution]
    rfl
  by_cases hoperator : token.kind.fixity?.isSome = true
  · obtain ⟨operator, hbound, hfound⟩ := h.operator hoperator
    have hbare : scope.resolution token.bare = _ := resolution_operator hoperator
    rw [hbare, resolution_operator hoperator, hfound, operatorOf?, hbound]
    rfl
  · by_cases hfunction : token.kind = .function
    · obtain ⟨function, hbound, hfound⟩ := h.function hfunction
      have hbare : scope.resolution token.bare = _ := resolution_function hfunction
      rw [hbare, resolution_function hfunction, hfound, functionOf?, hbound]
      rfl
    · have hfixity : token.kind.fixity? = none := by simpa using hoperator
      have hbare : scope.resolution token.bare = none := resolution_plain hfixity hfunction
      rw [hbare, resolution_plain hfixity hfunction]

/-- The tokens of a text are bound to what the evaluator finds by itself, and the tree evaluates to
    the same without its bindings, whatever the constants and variables are: the error is the same,
    or else the value is, up to bindings in trees that it contains. -/
theorem evaluateWithin_bare {text : String} {tree : Tree}
    (h : scope.configuration.parse text = .ok tree) :
    (∀ s ∈ tree.preorder, scope.Found s.token) ∧
    (scope.HostsOblivious → ∀ levels,
      mapBoth id Value.bare (scope.evaluateWithin levels tree.bare) =
        mapBoth id Value.bare (scope.evaluateWithin levels tree)) := by
  have hfound := found_of_parse h
  refine ⟨hfound, fun hhosts levels => ?_⟩
  have hsame : scope.SameTree tree.bare tree :=
    Tree.rebind_bare fun s hs => (hfound s hs).sameToken
  refine Related.mapBoth_id_iff.mpr ?_
  refine (evaluateWithin_coherent hhosts levels _ _ hsame).mono (fun _ _ => id) ?_
  intro value value' hagree
  have hbare := congrArg Value.bare hagree
  rwa [Value.bare_rebind, Value.bare_rebind] at hbare

/-- The standard configuration with `BOUND`, which tells whether its token is bound. -/
def boundConfiguration : Configuration :=
  Configuration.standard.withFunction "BOUND" ⟨[]⟩ fun _ token _ =>
    .ok (.boolean token.function?.isSome)

def boundScope : Scope where
  configuration := boundConfiguration
  constants := Configuration.standardConstants
  store := .empty
  ambient := ⟨.epoch, fun _ => 0⟩

/-- A function that looks at the binding of its token tells a tree from the one without bindings. -/
theorem evaluate_bare_ne : ∃ tree : Tree, boundConfiguration.parse "BOUND()" = .ok tree ∧
    boundScope.evaluate tree = .ok (.boolean true) ∧
    boundScope.evaluate tree.bare = .ok (.boolean false) := by
  have hrun : (boundConfiguration.parse "BOUND()").toOption.any (fun tree =>
      tree.children.isEmpty && decide (tree.token.kind = .function ∧ tree.token.lexeme = "BOUND" ∧
        tree.token.position = 0 ∧ tree.token.function? = some ⟨⟨[]⟩, .host 0⟩)) = true := by
    decide +kernel
  obtain ⟨⟨⟨kind, lexeme, position, binding⟩, children⟩, hparse, hshape⟩ := ok_of_any hrun
  rw [Bool.and_eq_true, List.isEmpty_iff, decide_eq_true_eq] at hshape
  obtain ⟨rfl, rfl, rfl, rfl, hfunction⟩ := hshape
  cases binding with
  | none => cases hfunction
  | some binding =>
    cases binding with
    | operator => cases hfunction
    | function =>
      cases hfunction
      exact ⟨_, hparse, rfl, rfl⟩

/-- A function that evaluates its argument twice makes nothing of bindings. -/
theorem oblivious_again (scope : Scope) : scope.Oblivious again.behaviour := by
  intro evaluate h token token' operands operands' _ hoperands
  have hhead : scope.Agree (operands.headD .null) (operands'.headD .null) := by
    cases hoperands with
    | nil => exact .refl scope .null
    | cons hfirst _ => exact hfirst
  have hagain : ∀ token operands, again.behaviour (scope.context evaluate) token operands =
      ((operands.headD .null).force evaluate >>= fun _ =>
        (operands.headD .null).force evaluate) := by
    intro token operands
    simp only [HostProgram.behaviour, again, Program.run_bind, Program.run_force]
    rfl
  rw [hagain, hagain]
  exact (hhead.force h).bind fun _ _ _ => hhead.force h

theorem hostsOblivious_cyclicScope (body : Tree) : (cyclicScope body).HostsOblivious where
  operators := by simp [cyclicScope, againConfiguration, Configuration.withFunction,
    Configuration.standard]
  functions := by simp [cyclicScope, againConfiguration, Configuration.withFunction,
    Configuration.standard, oblivious_again]

/-- A name with two operators, a product that is not written, and operands that a function of the
    host and an operator of logic evaluate. -/
theorem evaluateWithin_bare_again : ∃ tree body : Tree, ∃ value value' : Value,
    againConfiguration.parse "AGAIN(2x - -3) > 6 && x" = .ok tree ∧
    againConfiguration.parse "1 + 1" = .ok body ∧ tree.token.operator?.isSome = true ∧
    (cyclicScope body).evaluate tree = .ok value ∧ value.same (.boolean true) = true ∧
    (cyclicScope body).evaluate tree.bare = .ok value' ∧ value'.bare = value.bare := by
  have hrun : ((againConfiguration.parse "AGAIN(2x - -3) > 6 && x").toOption.any fun tree =>
      (againConfiguration.parse "1 + 1").toOption.any fun body =>
        tree.token.operator?.isSome &&
          ((cyclicScope body).evaluate tree).toOption.any fun value =>
            value.same (.boolean true)) = true := by
    decide +kernel
  obtain ⟨tree, htree, hrun⟩ := ok_of_any hrun
  obtain ⟨body, hbody, hrun⟩ := ok_of_any hrun
  obtain ⟨hbound, hrun⟩ := Bool.and_eq_true_iff.mp hrun
  obtain ⟨value, hvalue, htrue⟩ := ok_of_any hrun
  have hsame : mapBoth id Value.bare ((cyclicScope body).evaluate tree.bare) =
      mapBoth id Value.bare ((cyclicScope body).evaluate tree) :=
    (evaluateWithin_bare htree).2 (hostsOblivious_cyclicScope body) _
  rw [hvalue] at hsame
  obtain ⟨value', hvalue', hbare⟩ : ∃ value',
      (cyclicScope body).evaluate tree.bare = .ok value' ∧ value'.bare = value.bare := by
    cases hresult : (cyclicScope body).evaluate tree.bare with
    | error error => rw [hresult] at hsame; cases hsame
    | ok value' => rw [hresult] at hsame; exact ⟨value', rfl, Except.ok.inj hsame⟩
  exact ⟨tree, body, value, value', htree, hbody, hbound, hvalue, htrue, hvalue', hbare⟩

end Scope
end Formula

-- SUMMARY: A choice between cases means a chain of conditions that compare the value with one case after the other.
import Formula.Proofs.Evaluation.Laziness
import Formula.Proofs.Evaluation.Nesting

/-!
# Cases and conditions

`SWITCH` compares one value with its cases. A chain of `IF`s does the same with an equation for each
case (`Tree.conditions`). It evaluates the value once for every case that it comes to, and each of
its levels finishes the result once more, so the two have the same value up to the form of numbers.
The chain is nested more deeply. Where the limit of nesting does not cut it short, it comes to the
same values and errors in the same order (`Scope.conditions_refines`).
-/

namespace Formula

/-! ## Values that agree -/

namespace Value.Agrees

variable {a b c : Value}

theorem refl (a : Value) : a.Agrees a := .inl rfl

theorem symm (h : a.Agrees b) : b.Agrees a := by
  rcases h with rfl | ⟨m, n, rfl, rfl, hsame⟩
  · exact .refl a
  · exact .inr ⟨n, m, rfl, rfl, Decimal.same_iff.mpr (Decimal.same_iff.mp hsame).symm⟩

theorem trans (hab : a.Agrees b) (hbc : b.Agrees c) : a.Agrees c := by
  rcases hab with rfl | ⟨m, n, rfl, rfl, hsame⟩
  · exact hbc
  · rcases hbc with rfl | ⟨n', k, hn, rfl, hsame'⟩
    · exact .inr ⟨m, n, rfl, rfl, hsame⟩
    · cases hn
      have hvalue := (Decimal.same_iff.mp hsame).trans (Decimal.same_iff.mp hsame')
      exact .inr ⟨m, k, rfl, rfl, Decimal.same_iff.mpr hvalue⟩

end Value.Agrees

/-! ## Two ways to write cases -/

/-- A case with its result, and the tokens that compare the value with it and choose the result. -/
structure Branch where
  choose : Token
  compare : Token
  candidate : Tree
  result : Tree

namespace Tree

/-- The conditions that compare a value with one case after the other. -/
def conditions (value otherwise : Tree) : List Branch → Tree
  | [] => otherwise
  | branch :: rest =>
    node branch.choose
      [node branch.compare [value, branch.candidate], branch.result,
        conditions value otherwise rest]

/-- The cases with their results, and what there is if no case is met. -/
def caseArguments (branches : List Branch) (otherwise : Option Tree) : List Tree :=
  branches.flatMap (fun branch => [branch.candidate, branch.result]) ++ otherwise.toList

/-- Tokens that are not bound use nothing. -/
theorem usesBuiltIns_of_unbound {tree : Tree}
    (h : tree.preorder.all (·.token.binding.isNone) = true) : tree.UsesBuiltIns := by
  intro s hs
  have hnone : s.token.binding = none :=
    Option.isNone_iff_eq_none.mp (List.all_eq_true.mp h s hs)
  simp [Token.operator?, Token.function?, hnone]

end Tree

namespace BuiltIn

theorem operators_equal : ∀ entry ∈ operators, entry.2.action = .equal →
    entry.2.rule.lazy = false ∧ entry.2.rule.operandCount = 2 := by
  decide +kernel

end BuiltIn

namespace Scope

variable {scope : Scope} {evaluate : Evaluator} {token : Token}

/-- The tokens of the branch choose and compare. -/
structure Chooses (scope : Scope) (branch : Branch) : Prop where
  calls : scope.Calls branch.choose .choose
  performs : scope.Performs branch.compare .equal

/-- The token is a name that stands for nothing. -/
def NamesNull (scope : Scope) (token : Token) : Prop :=
  token.kind = .name ∧ scope.lookup? token.lexeme = some .null

/-- An equation evaluates its sides from left to right. -/
theorem step_equal (hoperators : scope.configuration.operators = BuiltIn.operatorTable)
    {left right : Tree} (hbuiltIn : (Tree.node token [left, right]).UsesBuiltIns)
    (h : scope.Performs token .equal) :
    scope.step evaluate (.node token [left, right]) =
      (evaluate left >>= fun a => evaluate right >>= fun b => .ok (.boolean (a.equal b))) := by
  obtain ⟨hkind, operator, hfound, haction⟩ := h
  obtain ⟨name, hmem⟩ := builtIn_operatorOf? hoperators hbuiltIn hkind hfound
  obtain ⟨heager, hcount⟩ : operator.rule.lazy = false ∧ operator.rule.operandCount = 2 :=
    BuiltIn.operators_equal _ hmem haction
  rw [step_operator hkind]
  simp only [operatorValue, hfound, hcount, haction, operandValues, heager]
  cases evaluate left with
  | error error => rfl
  | ok a => cases evaluate right <;> rfl

/-- What holds of all values of trees and of nothing holds of what the cases yield. -/
theorem switchCases_yields {P : Value → Prop} (hnull : P .null)
    (htrees : ∀ tree, Yields P (evaluate tree)) (value : Value) :
    ∀ trees : List Tree,
      Yields P (BuiltIn.switchCases (scope.context evaluate) value (trees.map .tree))
  | [] => .ok hnull
  | [otherwise] => htrees otherwise
  | candidate :: result :: rest => by
    refine Yields.last fun other => ?_
    split
    · exact htrees result
    · exact switchCases_yields hnull htrees value rest

/-- Finishing the value of a tree once more changes nothing of what it agrees with. -/
theorem finish_refines {levels : Nat} {tree : Tree} {result : Except EvalError Value}
    (h : Refines Value.Agrees (scope.evaluateWithin levels tree) result) :
    Refines Value.Agrees
      (scope.evaluateWithin levels tree >>= fun value => .ok (value.finish scope.settings))
      result := by
  have hfinish := @finish_agrees scope levels tree
  generalize scope.evaluateWithin levels tree = first at h hfinish
  cases h with
  | cut limit position => exact .cut limit position _
  | error error => exact .error error
  | ok related => exact .ok ((hfinish rfl).symm.trans related)

theorem refines_finish {first second : Except EvalError Value}
    (h : Refines Value.Agrees first second)
    (hfinish : Yields (fun value => value.Agrees (value.finish scope.settings)) second) :
    Refines Value.Agrees first
      (second >>= fun value => .ok (value.finish scope.settings)) := by
  cases h with
  | cut limit position => exact .cut limit position _
  | error error => exact .error error
  | ok related => exact .ok (related.trans (hfinish _ rfl))

section Conditions

variable (hoperators : scope.configuration.operators = BuiltIn.operatorTable)
  (hfunctions : scope.configuration.functions = BuiltIn.functionTable)
  (hnames : ∀ name s, scope.lookup? name = some (.tree s) → s.UsesBuiltIns)

include hoperators hfunctions hnames

/-- More levels make no difference to the built-in operators and functions. -/
theorem levels_refines {levels levels' : Nat} (hle : levels ≤ levels') {tree : Tree}
    (htree : tree.UsesBuiltIns) :
    Refines Eq (scope.evaluateWithin levels tree) (scope.evaluateWithin levels' tree) :=
  evaluateWithin_levels
    (fun name s hs => opens_of_usesBuiltIns hoperators hfunctions (hnames name s hs)) hle tree tree
    ⟨rfl, opens_of_usesBuiltIns hoperators hfunctions htree⟩

variable {levels levels' : Nat} (hle : levels ≤ levels') {value otherwise : Tree}

include hle

/-- The equation of a branch evaluates the value and the case, and compares them. -/
theorem compare_refines {branch : Branch} (hperforms : scope.Performs branch.compare .equal)
    (hbuiltIn : (Tree.node branch.compare [value, branch.candidate]).UsesBuiltIns) :
    Refines (fun condition pair => condition = .boolean (pair.1.equal pair.2))
      (scope.evaluateWithin levels (.node branch.compare [value, branch.candidate]))
      (scope.evaluateWithin levels' value >>= fun a =>
        scope.evaluateWithin levels' branch.candidate >>= fun b => .ok (a, b)) := by
  cases levels with
  | zero => exact .cut _ _ _
  | succ levels =>
    have hlevels : levels ≤ levels' := Nat.le_of_succ_le hle
    have hvalue : value.UsesBuiltIns := hbuiltIn.child (by simp)
    have hcandidate : branch.candidate.UsesBuiltIns := hbuiltIn.child (by simp)
    rw [evaluateWithin_succ, step_equal hoperators hbuiltIn hperforms, bind_assoc]
    refine (levels_refines hoperators hfunctions hnames hlevels hvalue).bind fun a _ ha => ?_
    rw [bind_assoc]
    refine (levels_refines hoperators hfunctions hnames hlevels hcandidate).bind fun b _ hb => ?_
    exact .ok (by rw [ha, hb]; rfl)

/-- One condition does what one case does, if the conditions behind it do what the cases behind it
    do. -/
theorem conditions_cons {branch : Branch} {rest : List Branch} (hchooses : scope.Chooses branch)
    (hbuiltIn : (Tree.conditions value otherwise (branch :: rest)).UsesBuiltIns)
    {others : List Value}
    (hrest : ∀ a, scope.evaluateWithin levels' value = .ok a →
      Refines Value.Agrees
        (scope.evaluateWithin levels (Tree.conditions value otherwise rest))
        (BuiltIn.switchCases (scope.context (scope.evaluateWithin levels')) a others)) :
    Refines Value.Agrees
      (scope.evaluateWithin (levels + 1) (Tree.conditions value otherwise (branch :: rest)))
      (scope.evaluateWithin levels' value >>= fun a =>
        BuiltIn.switchCases (scope.context (scope.evaluateWithin levels')) a
          (.tree branch.candidate :: .tree branch.result :: others)) := by
  -- Both sides come to the value and the case first, and then choose by the pair of them.
  have hcases : (scope.evaluateWithin levels' value >>= fun a =>
      BuiltIn.switchCases (scope.context (scope.evaluateWithin levels')) a
        (.tree branch.candidate :: .tree branch.result :: others)) =
      ((scope.evaluateWithin levels' value >>= fun a =>
        scope.evaluateWithin levels' branch.candidate >>= fun b => .ok (a, b)) >>= fun pair =>
        if pair.1.equal pair.2 then scope.evaluateWithin levels' branch.result
        else BuiltIn.switchCases (scope.context (scope.evaluateWithin levels')) pair.1 others) := by
    simp only [switchCases_cons, bind_assoc]
    rfl
  have hcompare := compare_refines hoperators hfunctions hnames hle hchooses.performs
    (hbuiltIn.child List.mem_cons_self)
  rw [Tree.conditions, evaluateWithin_succ, step_choose hfunctions hbuiltIn hchooses.calls,
    bind_assoc, hcases]
  refine hcompare.bind_of_ok fun condition pair hpair hcondition => ?_
  obtain ⟨a, hvalue, hpair⟩ := ok_of_bind hpair
  obtain ⟨b, _, hpair⟩ := ok_of_bind hpair
  cases hpair
  subst hcondition
  change Refines _ (scope.evaluateWithin levels
    (if a.equal b then branch.result else Tree.conditions value otherwise rest) >>= _)
    (if a.equal b then _ else _)
  split
  · have hresult : branch.result.UsesBuiltIns := hbuiltIn.child (by simp)
    have hrefines := levels_refines hoperators hfunctions hnames hle hresult
    exact finish_refines (hrefines.mono fun _ _ hsame => .inl hsame)
  · exact finish_refines (hrest a hvalue)

/-- What stands behind the conditions does what the last argument does, or what a missing one
    does. -/
theorem otherwise_refines {last : Option Tree} {null : Token}
    (hnull : last = none → scope.NamesNull null)
    (hbuiltIn : (last.getD (.leaf null)).UsesBuiltIns) (a : Value) :
    Refines Value.Agrees (scope.evaluateWithin levels (last.getD (.leaf null)))
      (BuiltIn.switchCases (scope.context (scope.evaluateWithin levels')) a
        (last.toList.map .tree)) := by
  cases last with
  | some tree =>
    have hrefines := levels_refines hoperators hfunctions hnames hle hbuiltIn
    exact hrefines.mono fun _ _ hsame => .inl hsame
  | none =>
    obtain ⟨hkind, hlookup⟩ := hnull rfl
    cases levels with
    | zero => exact .cut _ _ _
    | succ levels =>
      have hvalue : scope.evaluateWithin (levels + 1) (.leaf null) = .ok .null := by
        rw [evaluateWithin_succ]
        simp only [step, Tree.leaf, Tree.token, hkind, namedValue, hlookup]
        rfl
      rw [Option.getD_none, hvalue]
      exact .ok (.refl .null)

/-- A chain of conditions does what the cases do, whichever level of it is evaluated. -/
theorem conditions_refines {branches : List Branch} (hbranches : ∀ b ∈ branches, scope.Chooses b)
    {last : Option Tree} {null : Token} (hnull : last = none → scope.NamesNull null)
    (hbuiltIn : (Tree.conditions value (last.getD (.leaf null)) branches).UsesBuiltIns) {a : Value}
    (hvalue : scope.evaluateWithin levels' value = .ok a) :
    Refines Value.Agrees
      (scope.evaluateWithin levels (Tree.conditions value (last.getD (.leaf null)) branches))
      (BuiltIn.switchCases (scope.context (scope.evaluateWithin levels')) a
        ((Tree.caseArguments branches last).map .tree)) := by
  induction branches generalizing levels with
  | nil => exact otherwise_refines hoperators hfunctions hnames hle hnull hbuiltIn a
  | cons branch rest ih =>
    obtain ⟨hbranch, hrest⟩ := List.forall_mem_cons.mp hbranches
    cases levels with
    | zero => exact .cut _ _ _
    | succ levels =>
      have hlevels : levels ≤ levels' := Nat.le_of_succ_le hle
      have hbelow : (Tree.conditions value (last.getD (.leaf null)) rest).UsesBuiltIns :=
        hbuiltIn.child (by simp)
      have hlater : ∀ b, scope.evaluateWithin levels' value = .ok b →
          Refines Value.Agrees
            (scope.evaluateWithin levels (Tree.conditions value (last.getD (.leaf null)) rest))
            (BuiltIn.switchCases (scope.context (scope.evaluateWithin levels')) b
              ((Tree.caseArguments rest last).map .tree)) := by
        intro b hb
        rw [hvalue] at hb
        cases hb
        exact ih hlevels hrest hbelow
      have hcons := conditions_cons hoperators hfunctions hnames hlevels hbranch hbuiltIn hlater
      rw [hvalue] at hcons
      exact hcons

end Conditions

/-- `SWITCH` with one case or more has the result of the chain of `IF`s that compare the value with
    the cases, with `NULL` in the place of a missing default, unless the chain is cut short by the
    limit of nesting: both report the same error, or their values agree. -/
theorem switch_agrees_conditions
    (hoperators : scope.configuration.operators = BuiltIn.operatorTable)
    (hfunctions : scope.configuration.functions = BuiltIn.functionTable)
    (hnames : ∀ name s, scope.lookup? name = some (.tree s) → s.UsesBuiltIns)
    {switch null : Token} {value : Tree} {branches : List Branch} {last : Option Tree}
    (hswitch : scope.Calls switch .switch) (hbranches : ∀ b ∈ branches, scope.Chooses b)
    (hsome : branches ≠ []) (hnull : last = none → scope.NamesNull null)
    (hcases : (Tree.node switch (value :: Tree.caseArguments branches last)).UsesBuiltIns)
    (hchain : (Tree.conditions value (last.getD (.leaf null)) branches).UsesBuiltIns) (levels : Nat)
    (hcut : ∀ limit position,
      scope.evaluateWithin levels (Tree.conditions value (last.getD (.leaf null)) branches) ≠
        .error (.nestingTooDeep limit position)) :
    Related Eq Value.Agrees
      (scope.evaluateWithin levels (Tree.conditions value (last.getD (.leaf null)) branches))
      (scope.evaluateWithin levels
        (.node switch (value :: Tree.caseArguments branches last))) := by
  refine Refines.related_of_not_cut ?_ hcut
  cases levels with
  | zero => exact .cut _ _ _
  | succ levels =>
    obtain ⟨branch, rest, rfl⟩ := List.exists_cons_of_ne_nil hsome
    obtain ⟨hbranch, hrest⟩ := List.forall_mem_cons.mp hbranches
    have hbelow : (Tree.conditions value (last.getD (.leaf null)) rest).UsesBuiltIns :=
      hchain.child (by simp)
    -- The cases are evaluated with the levels that are left to the parts of the first condition.
    rw [evaluateWithin_succ scope levels (.node switch _), step_switch hfunctions hcases hswitch]
    refine refines_finish ?_ (Yields.last fun a => switchCases_yields (.refl .null)
      (fun tree b hb => finish_agrees hb) a _)
    exact conditions_cons hoperators hfunctions hnames (Nat.le_refl levels) hbranch hchain
      fun a ha => conditions_refines hoperators hfunctions hnames (Nat.le_refl levels) hrest hnull
        hbelow ha

/-- A token that is not bound calls the built-in function of its name. -/
theorem calls_of_mem (hfunctions : scope.configuration.functions = BuiltIn.functionTable)
    {action : FunctionAction} (hkind : token.kind = .function) (hbound : token.function? = none)
    (h : ∃ signature, (token.lexeme, ⟨signature, action⟩) ∈ BuiltIn.functions) :
    scope.Calls token action := by
  obtain ⟨signature, hmem⟩ := h
  refine ⟨hkind, ⟨signature, action⟩, ?_, rfl⟩
  rw [functionOf?, hbound, hfunctions, BuiltIn.find?_functionTable hmem, Option.none_or]

theorem performs_of_any (hoperators : scope.configuration.operators = BuiltIn.operatorTable)
    {action : OperatorAction} {fixity : Fixity} (hkind : token.kind.fixity? = some fixity)
    (hbound : token.operator? = none)
    (h : (BuiltIn.operatorTable.find? fixity token.lexeme).any (·.action == action) = true) :
    scope.Performs token action := by
  obtain ⟨operator, hfound, haction⟩ := (Option.any_eq_true _ _).mp h
  refine ⟨by rw [hkind]; rfl, operator, ?_, eq_of_beq haction⟩
  rw [operatorOf?, hbound, hoperators, hkind, Option.getD_some, hfound, Option.none_or]

theorem find?_standardConstants_null :
    Dictionary.find? Configuration.standardConstants (Text.upper "NULL") = some .null := by
  have hany : (Dictionary.find? Configuration.standardConstants (Text.upper "NULL")).any
      Value.isNull = true := by
    decide +kernel
  obtain ⟨value, hfound, hnull⟩ := (Option.any_eq_true _ _).mp hany
  cases value with
  | null => exact hfound
  | _ => cases hnull

/-- The cases `1, "one", 2, "two"`, and the tokens of conditions that do the same. -/
def namedNumbers : List Branch :=
  let branch (number name : String) : Branch :=
    ⟨⟨.function, "IF", 0, none⟩, ⟨.infixOperator, "=", 0, none⟩,
      .leaf ⟨.number, number, 0, none⟩, .leaf ⟨.text, name, 0, none⟩⟩
  [branch "1" "one", branch "2" "two"]

theorem macroScope_operators (bound : Tree) :
    (macroScope bound).configuration.operators = BuiltIn.operatorTable :=
  rfl

theorem macroScope_functions (bound : Tree) :
    (macroScope bound).configuration.functions = BuiltIn.functionTable :=
  rfl

theorem chooses_namedNumbers (bound : Tree) :
    ∀ branch ∈ namedNumbers, (macroScope bound).Chooses branch := by
  have hif : (macroScope bound).Calls ⟨.function, "IF", 0, none⟩ .choose :=
    calls_of_mem (macroScope_functions bound) rfl rfl
      (by simp [BuiltIn.functions, BuiltIn.basicFunctions])
  have hequal : (macroScope bound).Performs ⟨.infixOperator, "=", 0, none⟩ .equal :=
    performs_of_any (macroScope_operators bound) rfl rfl (by decide +kernel)
  simp only [namedNumbers, List.forall_mem_cons]
  exact ⟨⟨hif, hequal⟩, ⟨hif, hequal⟩, List.forall_mem_nil _⟩

/-- With `x` bound to `a - 1` and `a = 3`, `SWITCH(x, 1, "one", 2, "two")` and
    `IF(x = 1, "one", IF(x = 2, "two", NULL))` are both `"two"`. -/
theorem switch_agrees_conditions_standard :
    let x : Tree := .leaf ⟨.name, "x", 0, none⟩
    let null : Token := ⟨.name, "NULL", 0, none⟩
    let chain := Tree.conditions x (.leaf null) namedNumbers
    let choice : Tree :=
      .node ⟨.function, "SWITCH", 0, none⟩ (x :: Tree.caseArguments namedNumbers none)
    ∃ (bound : Tree) (value : Value), Configuration.standard.parse "a - 1" = .ok bound ∧
      (macroScope bound).evaluate chain = .ok value ∧ value.equal (.text "two") = true ∧
      ∃ other, (macroScope bound).evaluate choice = .ok other ∧ value.Agrees other := by
  intro x null chain choice
  have hrun : ((Configuration.standard.parse "a - 1").toOption.any fun bound =>
      ((macroScope bound).evaluate chain).toOption.any fun value =>
        value.equal (.text "two")) = true := by
    decide +kernel
  obtain ⟨bound, hbound, hrun⟩ := ok_of_any hrun
  obtain ⟨value, hvalue, htwo⟩ := ok_of_any hrun
  have hnames : ∀ name s, (macroScope bound).lookup? name = some (.tree s) → s.UsesBuiltIns := by
    intro name s hs
    rw [lookup?_macroScope hs]
    exact Tree.forall_of_parse (Tree.inductive_usesBuiltIns rfl rfl) hbound
  have hswitch : (macroScope bound).Calls ⟨.function, "SWITCH", 0, none⟩ .switch :=
    calls_of_mem (macroScope_functions bound) rfl rfl
      (by simp [BuiltIn.functions, BuiltIn.basicFunctions])
  have hnull : (macroScope bound).NamesNull null :=
    ⟨rfl, Option.or_eq_some_iff.mpr (.inl find?_standardConstants_null)⟩
  have hchain : chain.UsesBuiltIns := Tree.usesBuiltIns_of_unbound (by decide +kernel)
  have hchoice : choice.UsesBuiltIns := Tree.usesBuiltIns_of_unbound (by decide +kernel)
  have hcut : ∀ limit position,
      (macroScope bound).evaluateWithin 512 chain ≠ .error (.nestingTooDeep limit position) := by
    intro limit position h
    cases h.symm.trans hvalue
  have hrelated : Related Eq Value.Agrees ((macroScope bound).evaluate chain)
      ((macroScope bound).evaluate choice) :=
    switch_agrees_conditions (macroScope_operators bound) (macroScope_functions bound) hnames
      hswitch (chooses_namedNumbers bound) (List.cons_ne_nil _ _) (fun _ => hnull) hchoice hchain
      512 hcut
  rw [hvalue] at hrelated
  generalize hother : (macroScope bound).evaluate choice = result at hrelated
  cases hrelated with
  | ok related => exact ⟨bound, value, hbound, hvalue, htwo, _, hother, related⟩

end Scope
end Formula

-- SUMMARY: The names that a session reports as used: no other name can be undefined, and setting any other variable changes no result.
import Formula.Proofs.Evaluation.References
import Formula.Proofs.Session.Live

/-!
# What a formula depends on

A session reports which names its formula uses, and which of these have no value, without evaluating
it. With the built-in library, and if none of these names stands for a tree, both reports can be
relied on: an evaluation finds no other name undefined (`mem_undefined_of_evaluate`), and the values
of other names do not matter to it (`evaluate_set_unused`).
-/

namespace Formula

namespace VariableStore

/-- Setting a variable leaves the variables that are no other spelling of its name. -/
def Private (store : VariableStore) : Prop :=
  ∀ {name other : String}, Text.upper other ≠ Text.upper name → ∀ value,
    (store.set name value).get? other = store.get? other

theorem private_table (entries : Dictionary Value) : (table entries).Private := by
  intro name other h value
  simp only [set, get?, Dictionary.find?_insert, if_neg (Ne.symm h)]

end VariableStore

namespace Session

variable {session next : Session} {tree : Tree} {used : List String} {name : String}
  {value : Value}

/-! ## Names in use -/

theorem mem_sortNames {names : List String} : name ∈ sortNames names ↔ name ∈ names := by
  simp [sortNames, Dictionary.mem_names_ofEntries]

theorem mem_namesIn :
    name ∈ session.namesIn tree ↔ name ∈ tree.references ∧ session.isConstant name = false := by
  simp [namesIn, mem_sortNames]

theorem usedVariables_eq (h : session.tree = .ok tree) :
    session.usedVariables = .ok (session.namesIn tree) := by
  rw [usedVariables, h]
  rfl

theorem undefinedVariables_eq (h : session.tree = .ok tree) :
    session.undefinedVariables = .ok (session.unboundIn tree) := by
  rw [undefinedVariables, usedVariables_eq h]
  rfl

/-- Only a formula that parses has names in use. -/
theorem exists_tree_of_used (h : session.usedVariables = .ok used) :
    ∃ tree, session.tree = .ok tree ∧ used = session.namesIn tree := by
  obtain ⟨tree, htree, -⟩ := ok_of_bind h
  rw [usedVariables_eq htree] at h
  cases h
  exact ⟨tree, htree, rfl⟩

/-! ## What names stand for -/

theorem set_variable (h : session.isConstant name = false) (value : Value) :
    session.set name value = .ok { session with store := session.store.set name value } := by
  simp only [set, h, Bool.false_eq_true, if_false]

theorem isConstant_eq_false :
    session.isConstant name = false ↔
      Dictionary.find? session.constants (Text.upper name) = none := by
  simp [isConstant, Dictionary.contains]

/-- A name that a formula refers to stands for no tree, if no constant and no name in use does. -/
theorem lookup?_ne_tree
    (hconstants : ∀ key s, Dictionary.find? session.constants key ≠ some (.tree s))
    (hvariables : ∀ name ∈ session.namesIn tree, ∀ s, session.get? name ≠ some (.tree s))
    (hname : name ∈ tree.references) (ambient : Ambient) (s : Tree) :
    (session.scope ambient).lookup? name ≠ some (.tree s) := by
  intro hlookup
  rcases Option.or_eq_some_iff.mp hlookup with hconstant | ⟨hnone, hvariable⟩
  · exact hconstants _ s hconstant
  · have hfree : session.isConstant name = false := isConstant_eq_false.mpr hnone
    exact hvariables name (mem_namesIn.mpr ⟨hname, hfree⟩) s hvariable

/-- A name that stands for nothing is no constant and has no value as a variable. -/
theorem lookup?_eq_none {ambient : Ambient} :
    (session.scope ambient).lookup? name = none ↔
      session.isConstant name = false ∧ session.get? name = none := by
  rw [isConstant_eq_false]
  exact Option.or_eq_none_iff

/-- What a name in use, or a constant, stands for is not changed by setting another variable. -/
theorem lookup?_set_of_ne {other : String} (hstore : session.store.Private)
    (hset : session.set name value = .ok next)
    (hname : session.isConstant name = false)
    (hother : session.isConstant other = false → Text.upper other ≠ Text.upper name)
    (ambient ambient' : Ambient) :
    (next.scope ambient').lookup? other = (session.scope ambient).lookup? other := by
  rw [set_variable hname] at hset
  cases hset
  simp only [scope, Scope.lookup?]
  cases hconstant : Dictionary.find? session.constants (Text.upper other) with
  | some value => rfl
  | none =>
    rw [hstore (hother (isConstant_eq_false.mpr hconstant))]

/-! ## What an evaluation finds undefined -/

/-- With the built-in operators and functions, and if no name that a formula refers to stands for a
    tree, every name that an evaluation finds undefined is reported as undefined before. So nothing
    is found undefined if nothing is reported. -/
theorem mem_undefined_of_evaluate
    (hoperators : session.configuration.operators = BuiltIn.operatorTable)
    (hfunctions : session.configuration.functions = BuiltIn.functionTable)
    (hconstants : ∀ key s, Dictionary.find? session.constants key ≠ some (.tree s))
    (htree : session.tree = .ok tree)
    (hvariables : ∀ name ∈ tree.references, ∀ s, session.get? name ≠ some (.tree s)) :
    ∃ undefined, session.undefinedVariables = .ok undefined ∧
      (∀ ambient name position,
        session.evaluate ambient = .error (.undefinedVariable name position) →
          name ∈ undefined) ∧
      (undefined = [] → ∀ ambient name position,
        session.evaluate ambient ≠ .error (.undefinedVariable name position)) := by
  have hreported : ∀ ambient name position,
      session.evaluate ambient = .error (.undefinedVariable name position) →
        name ∈ session.unboundIn tree := by
    intro ambient name position hfailed
    rw [evaluate, htree] at hfailed
    have hnames : ∀ name ∈ tree.references, ∀ s,
        (session.scope ambient).lookup? name ≠ some (.tree s) := fun _ hname =>
      lookup?_ne_tree hconstants (fun other hother => hvariables other (mem_namesIn.mp hother).1)
        hname ambient
    have hregular : tree.Regular := Tree.regular_of_parse hoperators hfunctions htree
    obtain ⟨hname, hnone⟩ := Scope.evaluateWithin_undefined hoperators hfunctions hnames _ tree
      ⟨hregular, fun _ hname => hname⟩ _ hfailed name position rfl
    obtain ⟨hfree, hunbound⟩ := lookup?_eq_none.mp hnone
    exact List.mem_filter.mpr
      ⟨mem_namesIn.mpr ⟨hname, hfree⟩, Option.isNone_iff_eq_none.mpr hunbound⟩
  refine ⟨_, undefinedVariables_eq htree, hreported, fun hnone ambient name position hfailed => ?_⟩
  have hmem := hreported ambient name position hfailed
  rw [hnone] at hmem
  cases hmem

/-- A formula of which only one branch is evaluated, and one name is that of a field. -/
def branchSession (a : Decimal) : Session where
  source := "IF(a > 1, s.b, c)"
  configuration := .standard
  constants := Configuration.standardConstants
  store := .table [("A", .number a), ("S", .record [("b", .number .one)])]

theorem get?_branchSession (a : Decimal) (name : String) (s : Tree) :
    (branchSession a).get? name ≠ some (.tree s) := by
  intro h
  have hmem := Dictionary.mem_of_find? h
  simp at hmem

/-- With `a = 0` the branch with `c` is evaluated. -/
theorem mem_undefined_of_evaluate_branch : ∃ undefined,
    (branchSession .zero).evaluate ⟨.epoch, fun _ => 0⟩ = .error (.undefinedVariable "c" 15) ∧
    (branchSession .zero).undefinedVariables = .ok undefined ∧ "c" ∈ undefined := by
  have hrun : ((branchSession .zero).tree.toOption.any fun tree =>
      match (branchSession .zero).evaluateTree ⟨.epoch, fun _ => 0⟩ tree with
      | .error error => decide (error = .undefinedVariable "c" 15)
      | .ok _ => false) = true := by
    decide +kernel
  obtain ⟨tree, htree, hrun⟩ := ok_of_any hrun
  have hfailed : (branchSession .zero).evaluate ⟨.epoch, fun _ => 0⟩ =
      .error (.undefinedVariable "c" 15) := by
    rw [evaluate, htree]
    cases hresult : (branchSession .zero).evaluateTree ⟨.epoch, fun _ => 0⟩ tree with
    | ok value =>
      rw [hresult] at hrun
      cases hrun
    | error error =>
      rw [hresult] at hrun
      rw [of_decide_eq_true hrun] at hresult
      exact hresult
  obtain ⟨undefined, hundefined, hreported, -⟩ :=
    @mem_undefined_of_evaluate (branchSession .zero) tree rfl rfl
      (fun _ _ => Configuration.standardConstants_ne_tree) htree
      (fun name _ => get?_branchSession .zero name)
  exact ⟨undefined, hfailed, hundefined, hreported _ _ _ hfailed⟩

/-! ## What an evaluation depends on -/

/-- With the built-in operators and functions, in a store like the usual table, and if no constant
    and no name in use stands for a tree, setting a variable that is neither a constant nor a name
    in use, in any letter case, does not change what the formula evaluates to. The surroundings may
    change as well, unless a function in the formula looks at them. -/
theorem evaluate_set_unused (hstore : session.store.Private)
    (hoperators : session.configuration.operators = BuiltIn.operatorTable)
    (hfunctions : session.configuration.functions = BuiltIn.functionTable)
    (hconstants : ∀ key s, Dictionary.find? session.constants key ≠ some (.tree s))
    (hused : session.usedVariables = .ok used)
    (hvariables : ∀ other ∈ used, ∀ s, session.get? other ≠ some (.tree s))
    (hconstant : session.isConstant name = false)
    (hname : ∀ other ∈ used, Text.upper other ≠ Text.upper name) (value : Value)
    {ambient ambient' : Ambient}
    (hambient : ambient' = ambient ∨ ∀ tree, session.tree = .ok tree → tree.Steady) :
    ∃ next, session.set name value = .ok next ∧
      next.evaluate ambient' = session.evaluate ambient := by
  obtain ⟨tree, htree, rfl⟩ := exists_tree_of_used hused
  obtain ⟨next, hset⟩ : ∃ next, session.set name value = .ok next :=
    ⟨_, set_variable hconstant value⟩
  have hconfiguration : next.configuration = session.configuration := (configuration_of_set hset).2
  have hsettings : (next.scope ambient').settings = (session.scope ambient).settings :=
    congrArg (·.settings) hconfiguration
  have hregular : tree.Regular := Tree.regular_of_parse hoperators hfunctions htree
  have hnames : ∀ other ∈ tree.references,
      (next.scope ambient').lookup? other = (session.scope ambient).lookup? other ∧
        ∀ s, (session.scope ambient).lookup? other ≠ some (.tree s) := by
    intro other hother
    refine ⟨?_, lookup?_ne_tree hconstants hvariables hother ambient⟩
    exact lookup?_set_of_ne hstore hset hconstant
      (fun hfree => hname other (mem_namesIn.mpr ⟨hother, hfree⟩)) ambient ambient'
  refine ⟨next, hset, ?_⟩
  rw [evaluate, evaluate, tree_of_set hset, htree]
  simp only [evaluateTree, Scope.evaluate, hsettings]
  exact Scope.evaluateWithin_congr hoperators hfunctions hconfiguration hnames _ tree
    ⟨hregular, fun _ hother => hother⟩ (hambient.imp_right fun hsteady => hsteady tree htree)

/-- With `a = 3`, setting `B` changes nothing: `b` is only the name of a field. The random numbers
    do not matter. -/
theorem evaluate_set_unused_field : ∃ used next,
    (branchSession (.ofSmall 3)).usedVariables = .ok used ∧ used = ["a", "c", "s"] ∧
    (branchSession (.ofSmall 3)).set "B" .null = .ok next ∧
    next.evaluate ⟨.epoch, fun _ => 1⟩ =
      (branchSession (.ofSmall 3)).evaluate ⟨.epoch, fun _ => 0⟩ := by
  have hrun : (branchSession (.ofSmall 3)).tree.toOption.any (fun tree =>
      (branchSession (.ofSmall 3)).namesIn tree == ["a", "c", "s"] &&
        tree.preorder.all (·.token.function?.all (·.action.isSteady))) = true := by
    decide +kernel
  obtain ⟨tree, htree, hrun⟩ := ok_of_any hrun
  rw [Bool.and_eq_true, beq_iff_eq, List.all_eq_true] at hrun
  have hused : (branchSession (.ofSmall 3)).usedVariables = .ok ["a", "c", "s"] := by
    rw [usedVariables_eq htree, hrun.1]
  have hsteady : tree.Steady := by
    intro s hs _ function hfunction
    have hall := hrun.2 s hs
    rwa [hfunction] at hall
  obtain ⟨next, hset, hsame⟩ := @evaluate_set_unused (branchSession (.ofSmall 3)) _ "B"
    (VariableStore.private_table _) rfl rfl
    (fun _ _ => Configuration.standardConstants_ne_tree) hused
    (fun name _ => get?_branchSession (.ofSmall 3) name) (by decide +kernel) (by decide +kernel)
    .null ⟨.epoch, fun _ => 0⟩ ⟨.epoch, fun _ => 1⟩
    (.inr fun other hother => by rwa [← Except.ok.inj (htree.symm.trans hother)])
  exact ⟨_, next, hused, rfl, hset, hsame⟩

end Session
end Formula

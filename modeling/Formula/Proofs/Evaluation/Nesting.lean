-- SUMMARY: The limit of nesting is one limit: a tree that the parser accepts is never too deep for the evaluator.
import Formula.Proofs.BuiltIn.Table
import Formula.Proofs.Evaluation.Substitution
import Formula.Proofs.Parsing.Nesting

/-!
# One limit of nesting

The parser measures the height of a tree from its leaves, and the evaluator counts the evaluations
that are nested within each other from the root. Where names do not stand for trees the evaluator
goes no deeper than the tree, so it never meets a limit that the parser has kept to.

A host can have an operator whose precedence depends on the settings, so also on the limit. Then
the limit decides how a text is read, and does more than turning down trees that are too deep
(`Configuration.parse_within_ne`).
-/

namespace Formula

/-- The configuration with another limit of nesting. -/
def Configuration.within (configuration : Configuration) (limit : Nat) : Configuration :=
  { configuration with toLanguage := configuration.toLanguage.within limit }

/-- No built-in operator ranks by the limit. -/
theorem BuiltIn.rankedAlike (settings : Settings) (functions : FunctionTable) (n m : Nat) :
    (Language.mk settings operatorTable functions).RankedAlike n m :=
  fun hfound => precedenceIn_congr rfl hfound

/-- The tree is too deep for the limit. -/
def EvalError.isNesting : EvalError → Bool
  | .nestingTooDeep _ _ => true
  | _ => false

/-- No token reports that a tree is too deep. -/
theorem Reports.isNesting_eq {complete : Prop} {token token' : Token} {error error' : EvalError}
    (h : Reports complete token token' error error') : error.isNesting = false := by
  cases h with
  | call reported =>
    obtain ⟨fault, _, rfl, _⟩ := reported
    cases fault <;> rfl
  | _ => rfl

namespace Scope

variable {scope : Scope}

/-- An evaluation with as many levels as the tree is deep does not meet the limit, if no name stands
    for a tree. -/
theorem evaluateWithin_depth (hnames : ∀ name s, scope.lookup? name ≠ some (.tree s))
    (levels : Nat) : ∀ tree : Tree, scope.Opens tree → tree.depth ≤ levels →
      Raises (fun error => error.isNesting = false) (scope.evaluateWithin levels tree) := by
  suffices h : (Comparison.upTo fun error _ => error.isNesting = false).Simulates
      (fun s s' => s = s' ∧ scope.Opens s ∧ s.depth ≤ levels) (scope.evaluateWithin levels)
      (scope.evaluateWithin levels) by
    exact fun tree hopens hdepth =>
      Related.raises (h tree tree ⟨rfl, hopens, hdepth⟩) fun _ _ h => h
  induction levels with
  | zero =>
    rintro tree _ ⟨rfl, _, hdepth⟩
    have := tree.depth_pos
    omega
  | succ levels ih =>
    rintro ⟨token, children⟩ _ ⟨rfl, hopens, hdepth⟩
    have hchildren : ∀ child ∈ children, child.depth ≤ levels := by
      intro child hchild
      have hlt : child.depth < (Tree.node token children).depth := Tree.depth_lt_depth_node hchild
      omega
    have hstep := Comparison.step False ih (.refl scope token)
      (fun _ s hs => absurd hs (hnames _ s)) hopens.token False.elim
      (fun _ _ h => h.isNesting_eq)
      (.refl fun child hchild => ⟨rfl, hopens.child hchild, hchildren child hchild⟩)
    exact Related.bind hstep fun _ _ hsame => .ok (by rw [hsame])

/-- More levels make no difference to an evaluation that the limit does not cut short. -/
theorem evaluateWithin_levels
    (hnames : ∀ name s, scope.lookup? name = some (.tree s) → scope.Opens s)
    {levels levels' : Nat} (hle : levels ≤ levels') :
    Simulates (fun s s' => s' = s ∧ scope.Opens s) (scope.evaluateWithin levels)
      (scope.evaluateWithin levels') := by
  induction levels generalizing levels' with
  | zero =>
    intro s s' _
    exact .cut _ _ _
  | succ levels ih =>
    obtain ⟨levels', rfl⟩ : ∃ fewer, levels' = fewer + 1 := ⟨levels' - 1, by omega⟩
    rintro ⟨token, children⟩ _ ⟨rfl, hopens⟩
    have hstep := step_refines (ih (Nat.le_of_succ_le_succ hle))
      (fun name s hs => ⟨rfl, hnames name s hs⟩) hopens.token
      (.refl fun child hchild => ⟨rfl, hopens.child hchild⟩)
    exact hstep.bind fun _ _ hsame => .ok (by rw [hsame])

/-- The limit of nesting is a filter, unless it decides how operators rank: with a lower limit, the
    same texts have the same trees as far as these are no deeper. And it is the limit of the
    evaluator: with the built-in operators and functions, and no name that stands for a tree, a tree
    that was accepted is never too deep. -/
theorem evaluate_within (configuration : Configuration) {n m : Nat} (hn : 1 ≤ n) (hle : n ≤ m)
    (text : String) (tree : Tree) :
    (configuration.toLanguage.RankedAlike n m →
      ((configuration.within n).parse text = .ok tree ↔
        (configuration.within m).parse text = .ok tree ∧ tree.depth ≤ n)) ∧
    ∀ scope : Scope, scope.configuration = configuration.within n →
      configuration.operators = BuiltIn.operatorTable →
      configuration.functions = BuiltIn.functionTable →
      (∀ name s, scope.lookup? name ≠ some (.tree s)) →
      (configuration.within n).parse text = .ok tree →
      ∀ limit position, scope.evaluate tree ≠ .error (.nestingTooDeep limit position) := by
  refine ⟨fun hranks => Tree.parse_within hranks hn hle text tree, ?_⟩
  intro scope hscope hoperators hfunctions hnames hparse limit position hdeep
  have hbuiltIn : tree.UsesBuiltIns :=
    Tree.forall_of_parse (L := configuration.toLanguage.within n)
      (Tree.inductive_usesBuiltIns hoperators hfunctions) hparse
  have hopens : scope.Opens tree := by
    refine opens_of_usesBuiltIns ?_ ?_ hbuiltIn
    · rw [hscope]
      exact hoperators
    · rw [hscope]
      exact hfunctions
  have hdepth : tree.depth ≤ scope.settings.maxNesting := by
    rw [settings, hscope]
    -- Compared with itself, the limit is that of all accepted trees.
    exact ((Tree.parse_within (fun _ => rfl) hn (Nat.le_refl n) text tree).mp hparse).2
  cases evaluateWithin_depth hnames _ tree hopens hdepth _ hdeep

/-- A scope without variables. -/
def constantScope (configuration : Configuration) : Scope where
  configuration := configuration
  constants := Configuration.standardConstants
  store := .empty
  ambient := ⟨.epoch, fun _ => 0⟩

/-- With a limit of three, `1 + 2 * 3` is accepted and is not too deep to be evaluated. -/
theorem evaluate_within_standard : ∃ tree : Tree,
    (Configuration.standard.within 3).parse "1 + 2 * 3" = .ok tree ∧
    (Configuration.standard.within 512).parse "1 + 2 * 3" = .ok tree ∧ tree.depth ≤ 3 ∧
    ∀ limit position, (constantScope (Configuration.standard.within 3)).evaluate tree ≠
      .error (.nestingTooDeep limit position) := by
  have hrun : ((Configuration.standard.within 3).parse "1 + 2 * 3").toOption.any
      (fun _ => true) = true := by
    decide +kernel
  obtain ⟨tree, htree, _⟩ := ok_of_any hrun
  have hwithin := evaluate_within Configuration.standard (n := 3) (m := 512) (by decide)
    (by decide) "1 + 2 * 3" tree
  have hranks : Configuration.standard.toLanguage.RankedAlike 3 512 :=
    BuiltIn.rankedAlike .standard BuiltIn.functionTable 3 512
  obtain ⟨hwide, hdepth⟩ := (hwithin.1 hranks).mp htree
  refine ⟨tree, htree, hwide, hdepth, ?_⟩
  refine hwithin.2 (constantScope (Configuration.standard.within 3)) rfl rfl rfl ?_ htree
  intro name s hs
  rcases Option.or_eq_some_iff.mp hs with hconstant | ⟨_, hvariable⟩
  · exact Configuration.standardConstants_ne_tree hconstant
  · cases hvariable

end Scope

namespace Configuration

/-- A configuration with an operator `~` that binds more tightly than `+` as long as no tree may be
    deeper than three. -/
def rankedByLimit : Configuration :=
  let precedence := fun settings : Settings =>
    if settings.maxNesting ≤ 3 then Precedence.power else Precedence.comparison
  standard.withOperator "~" ((OperatorRule.between Precedence.comparison).adjustedBy precedence)
    fun _ _ operands => .ok (operands.headD .null)

/-- With one limit `1 + 2 ~ 3` is a sum, and with another one it is not, though neither tree is too
    deep for any of them. -/
theorem parse_within_ne : ∃ tree : Tree,
    (rankedByLimit.within 3).parse "1 + 2 ~ 3" = .ok tree ∧ tree.depth ≤ 3 ∧
      (rankedByLimit.within 4).parse "1 + 2 ~ 3" ≠ .ok tree := by
  have hlow : ((rankedByLimit.within 3).parse "1 + 2 ~ 3").toOption.any (fun tree =>
      tree.token.lexeme == "+" && decide (tree.depth ≤ 3)) = true := by
    decide +kernel
  have hhigh : ((rankedByLimit.within 4).parse "1 + 2 ~ 3").toOption.any (fun tree =>
      tree.token.lexeme == "~") = true := by
    decide +kernel
  obtain ⟨tree, htree, hsum⟩ := ok_of_any hlow
  obtain ⟨other, hother, htilde⟩ := ok_of_any hhigh
  rw [Bool.and_eq_true, beq_iff_eq, decide_eq_true_eq] at hsum
  refine ⟨tree, htree, hsum.2, fun hsame => ?_⟩
  rw [hother] at hsame
  cases hsame
  rw [beq_iff_eq, hsum.1] at htilde
  exact absurd htilde (by decide)

end Configuration
end Formula

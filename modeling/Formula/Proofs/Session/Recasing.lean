-- SUMMARY: The letter case of names, operators and functions makes no difference to the tokens, the tree and the value of a formula.
import Formula.Proofs.Evaluation.Substitution
import Formula.Proofs.Parsing.Recasing
import Formula.Session

/-!
# The letter case of words in formulas

Names, operators and functions are looked up in any letter case: by the scanner, by the parser and
by the evaluator. So texts that differ in the letter case of such words have the same tokens, trees
and values; only the lexemes that errors report may differ in their letter case
(`Session.evaluate_recased`). The evaluator is compared on a tree and on the tree with its words in
capitals, which is one tree for both texts.
-/

namespace Formula

/-! ## Errors -/

/-- The error with the lexeme that it reports in capitals. The name of a field stays as it is. -/
def EvalError.capitals : EvalError → EvalError
  | parse error => parse error.capitals
  | undefinedVariable name position => undefinedVariable (Text.capitals name) position
  | unsupportedType fault lexeme position => unsupportedType fault (Text.capitals lexeme) position
  | invalidParameter function parameter fault position =>
    invalidParameter (Text.capitals function) parameter fault position
  | arithmetic fault lexeme position => arithmetic fault (Text.capitals lexeme) position
  | unexpectedToken kind lexeme position => unexpectedToken kind (Text.capitals lexeme) position
  | undefinedField field position => undefinedField field position
  | indexOutOfBounds index length position => indexOutOfBounds index length position
  | nestingTooDeep limit position => nestingTooDeep limit position
  | constantReassignment name => constantReassignment name

/-- What is reported at a token and at the token in capitals is the same. -/
theorem Reports.capitals_eq {complete : Prop} {token : Token} {error error' : EvalError}
    (h : Reports complete token token.wordInCapitals error error') :
    error.capitals = error'.capitals := by
  have hlexeme := token.capitals_wordInCapitals
  have hposition := token.wordInCapitals_position
  cases h with
  | call reported =>
    obtain ⟨fault, _, rfl, rfl⟩ := reported
    cases fault <;>
      simp only [CallFault.errorAt, Token.unsupported, Token.arithmetic, Token.invalidParameter,
        EvalError.capitals, hlexeme, hposition]
  | _ =>
    simp only [Token.unexpected, EvalError.capitals, ParseError.capitals, hlexeme, hposition,
      Token.wordInCapitals_kind]

/-! ## Evaluation -/

namespace Scope

variable {scope : Scope} {entries : Dictionary Value}

/-- In capitals a token means the same. -/
theorem twin_wordInCapitals (hstore : scope.store = .table entries) (token : Token) :
    scope.Twin token token.wordInCapitals := by
  have hbinding : token.wordInCapitals.binding = token.binding := by
    unfold Token.wordInCapitals
    split <;> rfl
  constructor
  case kind => exact token.wordInCapitals_kind
  case position => exact token.wordInCapitals_position
  case literal =>
    intro hkind
    rw [Token.wordInCapitals_of_isWord]
    rcases hkind with hkind | hkind <;> rw [hkind] <;> rfl
  case name =>
    intro _
    simp only [lookup?, hstore, VariableStore.get?, token.upper_wordInCapitals]
  case operator =>
    intro _
    rw [operatorOf?, operatorOf?, token.wordInCapitals_kind, token.findOperator_wordInCapitals,
      Token.operator?, Token.operator?, hbinding]
  case function =>
    intro _
    rw [functionOf?, functionOf?, token.findFunction_wordInCapitals, Token.function?, Token.function?,
      hbinding]

/-- The second tree is the first one, or the first one with its words in capitals where all
    operators and functions are built in. -/
def SameWords (s s' : Tree) : Prop := s' = s ∨ s' = s.wordsInCapitals ∧ s.UsesBuiltIns

/-- The operands of a node with its words in capitals. -/
theorem alike_wordsInCapitals {token : Token} {children : List Tree}
    (h : (Tree.node token children).UsesBuiltIns) :
    ∃ children', (Tree.node token children).wordsInCapitals =
        .node token.wordInCapitals children' ∧ Alike SameWords token children children' := by
  have hchild : ∀ child ∈ children, SameWords child child.wordsInCapitals :=
    fun child hchild => .inr ⟨rfl, h.child hchild⟩
  by_cases hkind : token.kind = .separator
  · have hplain := token.wordInCapitals_of_isWord (by rw [hkind]; rfl)
    cases children with
    | nil => exact ⟨[], by rw [Tree.wordsInCapitals_none], .none hkind⟩
    | cons base fields =>
      refine ⟨_, ?_, .field hkind (hchild base List.mem_cons_self) fields⟩
      rw [Tree.wordsInCapitals_field hkind, hplain]
  · refine ⟨_, Tree.wordsInCapitals_node hkind children, .operands hkind ?_⟩
    exact List.forall₂_map_right_iff.mpr (List.forall₂_same.mpr hchild)

/-- A tree has the same value in capitals, or an error that differs in the letter case of a lexeme
    only. -/
theorem evaluateWithin_recased (hoperators : scope.configuration.operators = BuiltIn.operatorTable)
    (hfunctions : scope.configuration.functions = BuiltIn.functionTable)
    (hstore : scope.store = .table entries) (levels : Nat) :
    (Comparison.upTo fun error error' => error.capitals = error'.capitals).Simulates SameWords
      (scope.evaluateWithin levels) (scope.evaluateWithin levels) := by
  induction levels with
  | zero =>
    rintro s s' (rfl | ⟨rfl, _⟩)
    · exact .error rfl
    · refine .error ?_
      simp only [s.token_wordsInCapitals, Token.wordInCapitals_position]
  | succ levels ih =>
    rintro s s' (rfl | ⟨rfl, hbuiltIn⟩)
    · have hrefl : ∀ result : Except EvalError Value,
          Related (fun error error' => error.capitals = error'.capitals) Eq result result :=
        Related.refl fun _ => rfl
      exact hrefl _
    · obtain ⟨token, children⟩ := s
      obtain ⟨children', hcapitals, halike⟩ := alike_wordsInCapitals hbuiltIn
      rw [hcapitals, evaluateWithin_succ, evaluateWithin_succ]
      have hstep := Comparison.step False ih (twin_wordInCapitals hstore token)
        (fun _ s _ => .inl rfl) (opens_of_usesBuiltIns hoperators hfunctions hbuiltIn).token
        False.elim (fun _ _ h => h.capitals_eq) halike
      exact Related.bind hstep fun _ _ hsame => .ok (by rw [hsame])

/-- Trees that are the same with their words in capitals have the same value. -/
theorem evaluate_wordsInCapitals
    (hoperators : scope.configuration.operators = BuiltIn.operatorTable)
    (hfunctions : scope.configuration.functions = BuiltIn.functionTable)
    (hstore : scope.store = .table entries) {s s' : Tree} (hs : s.UsesBuiltIns)
    (hs' : s'.UsesBuiltIns) (hsame : s'.wordsInCapitals = s.wordsInCapitals) :
    mapBoth EvalError.capitals id (scope.evaluate s') =
      mapBoth EvalError.capitals id (scope.evaluate s) := by
  have hevaluate : ∀ {s : Tree}, s.UsesBuiltIns →
      mapBoth EvalError.capitals id (scope.evaluate s) =
        mapBoth EvalError.capitals id (scope.evaluate s.wordsInCapitals) := by
    intro s hs
    have hrelated := evaluateWithin_recased hoperators hfunctions hstore scope.settings.maxNesting
      s s.wordsInCapitals (.inr ⟨rfl, hs⟩)
    exact Related.mapBoth_eq (hrelated.mono (fun _ _ h => h) fun _ _ h => h.symm)
  rw [hevaluate hs', hsame, ← hevaluate hs]

end Scope

/-! ## Sessions -/

namespace Session

/-- With the built-in operators and functions and a table of variables, a text that differs from the
    formula in the letter case of names, operators and functions only has the same tokens, the same
    tree and the same value. What differs is the letter case of lexemes: of those of words in tokens
    and trees, and of those that errors report. -/
theorem evaluate_recased {session : Session} {text' : String} {entries : Dictionary Value}
    (hoperators : session.configuration.operators = BuiltIn.operatorTable)
    (hfunctions : session.configuration.functions = BuiltIn.functionTable)
    (hstore : session.store = .table entries)
    (h : Token.Recasing session.configuration.toLanguage session.source text') :
    mapBoth ParseError.capitals (List.map Token.capitals)
        (Token.scan session.configuration.toLanguage text') =
      mapBoth ParseError.capitals (List.map Token.capitals)
        (Token.scan session.configuration.toLanguage session.source) ∧
    mapBoth ParseError.capitals Tree.wordsInCapitals { session with source := text' }.tree =
      mapBoth ParseError.capitals Tree.wordsInCapitals session.tree ∧
    ∀ ambient, mapBoth EvalError.capitals id
        ({ session with source := text' }.evaluate ambient) =
      mapBoth EvalError.capitals id (session.evaluate ambient) := by
  have htrees := Tree.parse_recased h
  refine ⟨?_, htrees, fun ambient => ?_⟩
  · rw [← Token.scan_capitals, h.letters, Token.scan_capitals]
  · have hparsed := Tree.inductive_usesBuiltIns hoperators hfunctions
    change mapBoth ParseError.capitals Tree.wordsInCapitals { session with source := text' }.tree =
      mapBoth ParseError.capitals Tree.wordsInCapitals session.tree at htrees
    unfold evaluate
    cases htree : session.tree with
    | error error =>
      cases htree' : { session with source := text' }.tree with
      | error error' =>
        rw [htree, htree'] at htrees
        simp only [mapBoth, EvalError.capitals, Except.error.inj htrees]
      | ok tree' =>
        rw [htree, htree'] at htrees
        cases htrees
    | ok tree =>
      cases htree' : { session with source := text' }.tree with
      | error error' =>
        rw [htree, htree'] at htrees
        cases htrees
      | ok tree' =>
        rw [htree, htree'] at htrees
        exact Scope.evaluate_wordsInCapitals hoperators hfunctions hstore
          (Tree.forall_of_parse hparsed htree) (Tree.forall_of_parse hparsed htree')
          (Except.ok.inj htrees)

/-- A session with the variables `x` and `s`, a record with the field `Field`. -/
def recordSession (source : String) : Session where
  source := source
  configuration := .standard
  constants := Configuration.standardConstants
  store := .table [("S", .record [("Field", .text "found")]), ("X", .number .one)]

/-- Names, operators and functions may be written in any letter case, and the field may not. -/
theorem evaluate_recased_standard :
    Token.Recasing Configuration.standard.toLanguage "If(Pi < x, Abs(x), s.Field)"
      "iF(pI < X, aBS(X), S.Field)" ∧
    (∃ value, (recordSession "If(Pi < x, Abs(x), s.Field)").evaluate ⟨.epoch, fun _ => 0⟩ =
        .ok value ∧ value.equal (.text "found") = true ∧
      (recordSession "iF(pI < X, aBS(X), S.Field)").evaluate ⟨.epoch, fun _ => 0⟩ = .ok value) ∧
    ¬ Token.Recasing Configuration.standard.toLanguage "s.Field" "s.field" := by
  have hrecasing : Token.Recasing Configuration.standard.toLanguage "If(Pi < x, Abs(x), s.Field)"
      "iF(pI < X, aBS(X), S.Field)" := by
    decide +kernel
  have hrun : ((recordSession "If(Pi < x, Abs(x), s.Field)").evaluate
      ⟨.epoch, fun _ => 0⟩).toOption.any (fun value =>
        value.equal (.text "found")) = true := by
    decide +kernel
  obtain ⟨value, hvalue, hfound⟩ := ok_of_any hrun
  refine ⟨hrecasing, ⟨value, hvalue, hfound, ?_⟩, by decide +kernel⟩
  have hall := @evaluate_recased (recordSession "If(Pi < x, Abs(x), s.Field)")
    "iF(pI < X, aBS(X), S.Field)" _ rfl rfl rfl hrecasing
  have hsame : mapBoth EvalError.capitals id
      ((recordSession "iF(pI < X, aBS(X), S.Field)").evaluate ⟨.epoch, fun _ => 0⟩) =
      mapBoth EvalError.capitals id
        ((recordSession "If(Pi < x, Abs(x), s.Field)").evaluate ⟨.epoch, fun _ => 0⟩) :=
    hall.2.2 ⟨.epoch, fun _ => 0⟩
  rw [hvalue] at hsame
  cases hresult : (recordSession "iF(pI < X, aBS(X), S.Field)").evaluate ⟨.epoch, fun _ => 0⟩ with
  | error error =>
    rw [hresult] at hsame
    cases hsame
  | ok other =>
    rw [hresult] at hsame
    exact hsame

end Session
end Formula

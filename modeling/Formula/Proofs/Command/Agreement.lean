-- SUMMARY: Checking a formula, printing its tree and evaluating it agree on what is a formula, and on what is wrong with a text that is none.
import Formula.Command.Basic
import Formula.Proofs.BuiltIn.Table
import Formula.Proofs.Evaluation.Form
import Formula.Proofs.Parsing.Nesting
import Formula.Proofs.Session.Assignments

/-!
# Agreement of the commands

Each command parses the text for itself. The number of decimals that a request sets does not matter
to the built-in operators (`Tree.parse_places`), so all commands see the same tree or the same
error.

An evaluation could report an error of parsing also later, for a number without a value. The numbers
of a tree that was parsed have one, and so have those of the trees that names stand for if these
were parsed too.
-/

namespace Formula

/-! ## The language of a request -/

namespace Language

/-- The language with another number of decimals. -/
def places (L : Language) (places : Option Nat) : Language :=
  { L with settings := { L.settings with decimalPlaces := places } }

end Language

/-- The number of decimals does not change how a text is read with the built-in operators. -/
theorem Tree.parse_places {L : Language} (hoperators : L.operators = BuiltIn.operatorTable)
    (hlimit : 1 ≤ L.settings.maxNesting) (places : Option Nat) (text : String) :
    parse (L.places places) text = parse L text := by
  have hscan : Token.scan (L.places places) text = Token.scan L text :=
    @Token.scanFrom_congr L (L.places places) (fun _ _ _ _ => rfl) none 0 text.toList
  have hbelow : (L.places places).Below L :=
    ⟨rfl, rfl, rfl, Nat.le_refl _, fun h => BuiltIn.precedenceIn_congr rfl (hoperators ▸ h)⟩
  have htokens : ofTokens (L.places places) = ofTokens L := by
    funext tokens
    exact (ofTokens_filtered hbelow hlimit tokens).eq rfl
  rw [parse, parse, hscan, htokens]

/-! ## Errors of parsing -/

/-- What a complete node reports is no error of parsing. -/
theorem Reports.ne_parse {token token' : Token} {error error' : EvalError}
    (h : Reports True token token' error error') (parseError : ParseError) :
    error ≠ .parse parseError := by
  cases h with
  | call reported =>
    obtain ⟨fault, -, rfl, -⟩ := reported
    cases fault <;> exact nofun
  | malformedNumber _ incomplete => exact absurd trivial incomplete
  | unexpected | undefinedVariable | undefinedField | indexOutOfBounds => exact nofun

/-- Evaluating a regular tree reports no error of parsing, if the trees that names stand for are
    regular too. -/
theorem Scope.evaluate_ne_parse {scope : Scope} {tree : Tree}
    (hoperators : scope.configuration.operators = BuiltIn.operatorTable)
    (hfunctions : scope.configuration.functions = BuiltIn.functionTable)
    (hnames : ∀ name s, scope.lookup? name = some (.tree s) → s.Regular) (h : tree.Regular) :
    Raises (fun error => ∀ parseError, error ≠ .parse parseError) (scope.evaluate tree) :=
  evaluateWithin_raises (fun _ _ => nofun) (fun h => h.ne_parse) hoperators hfunctions hnames _
    tree h

/-! ## Variables of a request -/

namespace Session

variable {session next : Session} {entries : Dictionary Value}

/-- After assignments that are all accepted the formula and the configuration are the same, and a
    name stands for one of the values, or else for what it stood for before. -/
theorem setAll_yields (hstore : session.store = .table entries) (values : List (String × Value)) :
    Yields (fun next => next.source = session.source ∧
        next.configuration = session.configuration ∧
        ∀ ambient name value, (next.scope ambient).lookup? name = some value →
          (∃ entry ∈ values, entry.2 = value) ∨
            (session.scope ambient).lookup? name = some value)
      (session.setAll values) := by
  induction values generalizing session entries with
  | nil => exact .ok ⟨rfl, rfl, fun _ _ _ h => .inr h⟩
  | cons entry rest ih =>
    rw [setAll, List.foldlM_cons]
    intro last h
    obtain ⟨next, hset, hrest⟩ := ok_of_bind h
    obtain ⟨⟨entries', hnext⟩, hlookup⟩ := lookup?_of_set hstore hset
    obtain ⟨hsource, hconfiguration⟩ := configuration_of_set hset
    obtain ⟨hsource', hconfiguration', hlast⟩ := ih hnext last hrest
    refine ⟨hsource'.trans hsource, hconfiguration'.trans hconfiguration, ?_⟩
    intro ambient name value hvalue
    rcases hlast ambient name value hvalue with ⟨other, hother, hvalue⟩ | hbefore
    · exact .inl ⟨other, List.mem_cons_of_mem entry hother, hvalue⟩
    · rw [hlookup] at hbefore
      split at hbefore
      · cases hbefore
        exact .inl ⟨entry, List.mem_cons_self, rfl⟩
      · exact .inr hbefore

end Session

theorem Value.ofJson_ne_tree (json : Json) (tree : Tree) : ofJson json ≠ .tree tree := by
  cases json with
  | integer n =>
    simp only [ofJson, ofInteger]
    split <;> exact nofun
  | float x =>
    simp only [ofJson, ofFloat]
    split <;> exact nofun
  | null | bool | text | array | object => exact nofun

namespace Command

theorem readVariable_ne_tree {text : String} {entry : String × Value}
    (h : readVariable text = .ok entry) (tree : Tree) : entry.2 ≠ .tree tree := by
  simp only [readVariable] at h
  split at h
  · split at h
    · cases h
    · cases h
      simp only [readValue]
      split
      · exact Value.ofJson_ne_tree _ tree
      · exact nofun
  · cases h

namespace Request

variable {request : Request} {session : Session}

theorem parse_configuration (request : Request) (text : String) :
    request.configuration.parse text = Configuration.standard.parse text :=
  @Tree.parse_places Configuration.standard.toLanguage rfl (by decide) request.decimalPlaces text

theorem inputVariables_ne_tree (request : Request) :
    Yields (fun entries => ∀ entry ∈ entries, ∀ tree, entry.2 ≠ .tree tree)
      request.inputVariables := by
  simp only [inputVariables]
  split
  · exact .ok nofun
  · split
    · exact .error
    · refine .ok fun entry hentry tree => ?_
      obtain ⟨field, -, rfl⟩ := List.mem_map.mp hentry
      exact Value.ofJson_ne_tree field.2 tree
    · exact .error

/-- The session of a request evaluates its formula, with its number of decimals, and the trees that
    names stand for are those among the values that are bound one by one. -/
theorem session_yields (request : Request) :
    Yields (fun session => session.source = request.formula ∧
        session.configuration = request.configuration ∧
        ∀ ambient name tree, (session.scope ambient).lookup? name = some (.tree tree) →
          ∃ entry ∈ request.bindings, entry.2 = .tree tree)
      request.session := by
  refine (inputVariables_ne_tree request).bind fun entries hentries => ?_
  intro session h
  split at h
  · rename_i session' hset
    cases h
    obtain ⟨hsource, hconfiguration, hlookup⟩ := Session.setAll_yields rfl _ _ hset
    refine ⟨hsource, hconfiguration, fun ambient name tree htree => ?_⟩
    rcases hlookup ambient name _ htree with ⟨entry, hentry, hvalue⟩ | hconstant
    · rcases List.mem_append.mp hentry with hinput | hbinding
      · exact absurd hvalue (hentries entry hinput tree)
      · exact ⟨entry, hbinding, hvalue⟩
    · have hnone : (Session.start request.formula request.configuration).store.get? name = none :=
        rfl
      simp only [Session.scope, Scope.lookup?, hnone, Option.or_none] at hconstant
      exact absurd hconstant Configuration.standardConstants_ne_tree
  · cases h

theorem evaluate_eq (h : request.session = .ok session) (ambient : Ambient) :
    request.evaluate ambient = match session.evaluate ambient with
      | .ok value => .ok value.toJson
      | .error error => .error (.evaluation error) := by
  rw [evaluate, h]
  rfl

/-- The trees among the values that are bound one by one are like those of texts. -/
def TreesRegular (request : Request) : Prop :=
  ∀ entry ∈ request.bindings, ∀ tree, entry.2 = .tree tree → tree.Regular

/-- Variables that are read from text are no trees. -/
theorem treesRegular_of_read {texts : List String}
    (h : texts.mapM readVariable = .ok request.bindings) : request.TreesRegular := by
  suffices hread : ∀ bindings, texts.mapM readVariable = .ok bindings →
      ∀ entry ∈ bindings, ∀ tree, entry.2 ≠ .tree tree by
    exact fun entry hentry tree htree => absurd htree (hread _ h entry hentry tree)
  clear h
  induction texts with
  | nil => rintro _ ⟨⟩ entry ⟨⟩
  | cons text rest ih =>
    intro bindings h
    rw [List.mapM_cons] at h
    obtain ⟨first, hfirst, h⟩ := ok_of_bind h
    obtain ⟨others, hothers, h⟩ := ok_of_bind h
    cases h
    exact List.forall_mem_cons.mpr ⟨readVariable_ne_tree hfirst, ih others hothers⟩

/-- The commands agree on whether a text is a formula. If it is one, the check accepts it, its tree
    is printed, and no evaluation of it reports an error of parsing, if the trees among the bound
    values are like those of texts. If it is none, all report the same error. -/
theorem syntax_agrees (h : request.session = .ok session) (ambient : Ambient) :
    (∃ tree : Tree, request.checkSyntax = .ok () ∧ treeOf request.formula = .ok tree.toJson ∧
      (request.TreesRegular →
        ∀ error, request.evaluate ambient ≠ .error (.evaluation (.parse error)))) ∨
    ∃ error, request.checkSyntax = .error (.parse error) ∧
      treeOf request.formula = .error (.parse error) ∧
      request.evaluate ambient = .error (.evaluation (.parse error)) := by
  obtain ⟨hsource, hconfiguration, hnames⟩ := session_yields request session h
  have htree : session.tree = Configuration.standard.parse request.formula := by
    rw [Session.tree, Session.parse, hsource, hconfiguration, parse_configuration]
  cases hparse : Configuration.standard.parse request.formula with
  | error error =>
    rw [hparse] at htree
    refine .inr ⟨error, ?_, ?_, ?_⟩
    · simp only [checkSyntax, parse_configuration, hparse]
    · simp only [treeOf, hparse]
    · simp only [evaluate_eq h, Session.evaluate, htree]
  | ok tree =>
    rw [hparse] at htree
    refine .inl ⟨tree, ?_, ?_, fun hregular error hevaluate => ?_⟩
    · simp only [checkSyntax, parse_configuration, hparse]
    · simp only [treeOf, hparse]
    · have hscope : (session.scope ambient).configuration = request.configuration := hconfiguration
      have hbound : ∀ name s, (session.scope ambient).lookup? name = some (.tree s) →
          s.Regular := by
        intro name s hs
        obtain ⟨entry, hentry, hvalue⟩ := hnames ambient name s hs
        exact hregular entry hentry s hvalue
      simp only [evaluate_eq h, Session.evaluate, htree] at hevaluate
      split at hevaluate
      · cases hevaluate
      · rename_i hresult
        cases hevaluate
        exact Scope.evaluate_ne_parse (by rw [hscope]; rfl) (by rw [hscope]; rfl) hbound
          (Tree.regular_of_parse rfl rfl hparse) _ hresult error rfl

/-- A request with an input, variables and a number of decimals. -/
def orderRequest (formula : String) (bindings : List (String × Value)) : Request where
  formula := formula
  bindings := bindings
  input := some "\x7b\"order\": \x7b\"qty\": 3\x7d\x7d"
  decimalPlaces := some 2

/-- With a price that is read from text, one formula is accepted and never reported again, and
    another one is reported by all. -/
theorem syntax_agrees_order : ∃ bindings,
    ["price=2"].mapM readVariable = .ok bindings ∧
    (orderRequest "order.qty * price" bindings).checkSyntax = .ok () ∧
    (∀ ambient error, (orderRequest "order.qty * price" bindings).evaluate ambient ≠
      .error (.evaluation (.parse error))) ∧
    ∀ ambient, ∃ error, treeOf "order.qty * (" = .error (.parse error) ∧
      (orderRequest "order.qty * (" bindings).evaluate ambient =
        .error (.evaluation (.parse error)) := by
  have hrun : ((["price=2"].mapM readVariable).toOption.any fun bindings =>
      (orderRequest "order.qty * price" bindings).session.toOption.any fun _ =>
      (orderRequest "order.qty * (" bindings).session.toOption.any fun _ =>
        (orderRequest "order.qty * price" bindings).checkSyntax.toOption.isSome &&
          (orderRequest "order.qty * (" bindings).checkSyntax.toOption.isNone) = true := by
    decide +kernel
  obtain ⟨bindings, hread, hrun⟩ := ok_of_any hrun
  obtain ⟨session, hsession, hrun⟩ := ok_of_any hrun
  obtain ⟨session', hsession', hrun⟩ := ok_of_any hrun
  obtain ⟨haccepted, hrefused⟩ := Bool.and_eq_true_iff.mp hrun
  have hregular : (orderRequest "order.qty * price" bindings).TreesRegular :=
    treesRegular_of_read hread
  refine ⟨bindings, hread, ?_, fun ambient => ?_, fun ambient => ?_⟩
  · rcases syntax_agrees hsession ⟨.epoch, fun _ => 0⟩ with ⟨_, hcheck, -⟩ | ⟨_, hcheck, -⟩
    · exact hcheck
    · rw [hcheck] at haccepted
      cases haccepted
  · rcases syntax_agrees hsession ambient with ⟨_, -, -, hnone⟩ | ⟨_, hcheck, -⟩
    · exact hnone hregular
    · rw [hcheck] at haccepted
      cases haccepted
  · rcases syntax_agrees hsession' ambient with ⟨_, hcheck, -⟩ | ⟨error, -, htree, hevaluate⟩
    · rw [hcheck] at hrefused
      cases hrefused
    · exact ⟨error, htree, hevaluate⟩

end Request

end Command
end Formula

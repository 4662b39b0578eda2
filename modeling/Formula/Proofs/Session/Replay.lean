-- SUMMARY: What a formula evaluates to depends on the assignments before and on nothing else that its session was asked for.
import Formula.Proofs.Evaluation.Substitution
import Formula.Proofs.Evaluation.Surroundings
import Formula.Proofs.Evaluation.Termination
import Formula.Proofs.Session.Live

/-!
# Replaying a session

A session in use answers as the plain session does that the requests before have left. That is
changed by assignments only, so a new session with the same assignments gives the same values
(`evaluate_replayed`), in whatever store the host keeps its variables. Where nothing asks for the
present instant or random numbers, it does so in other surroundings too.
-/

namespace Formula

namespace VariableStore

/-! ## Stores that answer without surprise -/

/-- Whatever is assigned, the store answers with no tree that asks for the present instant or random
    numbers, as long as it is given none. -/
def Steady (store : VariableStore) : Prop :=
  ∀ assigned : List (String × Value), (∀ entry ∈ assigned, entry.2.Holds Tree.Steady) →
    ∀ name value, (store.setAll assigned).get? name = some value → value.Holds Tree.Steady

namespace Steady

variable {store : VariableStore}

theorem get? (h : store.Steady) {name : String} {value : Value}
    (hvalue : store.get? name = some value) : value.Holds Tree.Steady :=
  h [] (List.forall_mem_nil _) name value hvalue

theorem set (h : store.Steady) (name : String) {value : Value} (hvalue : value.Holds Tree.Steady) :
    (store.set name value).Steady := fun assigned hassigned =>
  h ((name, value) :: assigned) (List.forall_mem_cons.mpr ⟨hvalue, hassigned⟩)

end Steady
end VariableStore

/-- Nothing in the configuration asks for the present instant or random numbers: no function, no
    program of the host, no constant and no variable. -/
structure Configuration.Steady (configuration : Configuration) (hosts : Hosts) : Prop where
  functions : ∀ entry ∈ configuration.functions.entries, entry.2.action.isSteady = true
  hosts : hosts.Steady
  constants : ∀ entry ∈ configuration.constants, entry.2.Holds Tree.Steady
  store : configuration.store.Steady

namespace Session

variable {session : Session} {hosts : Hosts}

/-! ## What is left of requests -/

theorem after_of_not_isSet {request : Request} (h : request.isSet = false) :
    session.after request = session := by
  cases request with
  | set => cases h
  | _ => rfl

/-- Only the assignments among the requests make a difference. -/
theorem foldl_after_filter (session : Session) (requests : List Request) :
    (requests.filter Request.isSet).foldl after session = requests.foldl after session := by
  induction requests generalizing session with
  | nil => rfl
  | cons request rest ih =>
    cases hset : request.isSet with
    | true =>
      rw [List.filter_cons_of_pos hset]
      exact ih (session.after request)
    | false =>
      rw [List.filter_cons_of_neg (by simp [hset]), ih, List.foldl_cons, after_of_not_isSet hset]

/-- A request has the answer of the session that the requests before have left. -/
theorem getElem?_answers (session : Session) (before rest : List Request) (request : Request) :
    (session.answers (before ++ request :: rest))[before.length]? =
      some ((before.foldl after session).answer request) := by
  induction before generalizing session with
  | nil => rfl
  | cons first before ih => exact ih (session.after first)

/-! ## What does not depend on the surroundings -/

/-- Nothing in the session asks for the present instant or random numbers. -/
structure Steady (session : Session) : Prop where
  functions : ∀ entry ∈ session.configuration.functions.entries, entry.2.action.isSteady = true
  constants : ∀ entry ∈ session.constants, entry.2.Holds Tree.Steady
  store : session.store.Steady

theorem steady_start {configuration : Configuration} (h : configuration.Steady hosts)
    (source : String) : (start source (configuration.withHosts hosts)).Steady :=
  ⟨h.functions, h.constants, h.store⟩

theorem Steady.scope (h : session.Steady) (ambient : Ambient) : (session.scope ambient).Steady where
  functions := h.functions
  names name value hvalue := by
    rcases Option.or_eq_some_iff.mp hvalue with hconstant | ⟨_, hvariable⟩
    · exact h.constants _ (Dictionary.mem_of_find? hconstant)
    · exact h.store.get? hvariable

theorem Steady.set {next : Session} {name : String} {value : Value} (h : session.Steady)
    (hvalue : value.Holds Tree.Steady) (hset : session.set name value = .ok next) :
    next.Steady := by
  simp only [Session.set] at hset
  split at hset
  · split at hset
    · cases hset
      exact ⟨h.functions, fun entry hentry => h.constants entry (List.mem_of_mem_filter hentry),
        h.store.set name hvalue⟩
    · cases hset
  · cases hset
    exact ⟨h.functions, h.constants, h.store.set name hvalue⟩

theorem Steady.after {request : Request} (h : session.Steady)
    (hvalue : ∀ name value, request = .set name value → value.Holds Tree.Steady) :
    (session.after request).Steady := by
  cases request with
  | set name value =>
    simp only [Session.after]
    split
    · exact h.set (hvalue name value rfl) ‹_›
    · exact h
  | _ => exact h

theorem Steady.foldl_after {requests : List Request} (h : session.Steady)
    (hvalues : ∀ name value, .set name value ∈ requests → value.Holds Tree.Steady) :
    (requests.foldl Session.after session).Steady := by
  induction requests generalizing session with
  | nil => exact h
  | cons request rest ih =>
    refine ih (h.after fun name value hrequest => ?_) fun name value hmem => ?_
    · exact hvalues name value (hrequest ▸ List.mem_cons_self)
    · exact hvalues name value (List.mem_cons_of_mem _ hmem)

theorem Follows.foldl_after (h : session.Follows hosts) (requests : List Request) :
    (requests.foldl after session).Follows hosts := by
  induction requests generalizing session with
  | nil => exact h
  | cons request rest ih =>
    apply ih
    cases request with
    | set name value =>
      simp only [after]
      split
      · exact follows_of_set ‹_› h
      · exact h
    | _ => exact h

/-- The value of a formula of a steady session is the same in all surroundings. -/
theorem Steady.evaluate_eq (h : session.Steady) (hhosts : hosts.Steady)
    (hfollows : session.Follows hosts) (ambient ambient' : Ambient) :
    session.evaluate ambient' = session.evaluate ambient := by
  unfold evaluate
  cases htree : session.tree with
  | error error => rfl
  | ok tree =>
    have hsteady : tree.Steady := Tree.forall_of_parse (Tree.inductive_steady h.functions) htree
    exact (Scope.evaluateWithin_steady (hfollows ambient) (h.scope ambient) hhosts ambient' _
      hsteady).1

/-! ## Replaying the assignments -/

/-- Whatever is requested afterwards, the session gets there, and a request behind some others has
    one answer and no other. -/
structure Live.Answers (hosts : Hosts) (live : Live) (before : List Request) (request : Request)
    (answer : Answer) : Prop where
  answered : ∀ rest, ∃ answers last, Run hosts live (before ++ request :: rest) answers last
  unique : ∀ rest answers last, Run hosts live (before ++ request :: rest) answers last →
    answers[before.length]? = some answer

theorem Live.Faithful.answers {live : Live} (h : live.Faithful hosts) (before : List Request)
    (request : Request) :
    live.Answers hosts before request ((before.foldl after live.session).answer request) where
  answered rest := exists_run h _
  unique rest answers last hrun := by
    rw [hrun.answers_eq h, getElem?_answers]

/-- An evaluation gives what it gives in a new session of the same text and configuration in which
    only the assignments before it are made again, in their order, whatever else was requested and
    whatever of it failed. The host may have any programs, and any store. This holds in the same
    surroundings, and in any two if nothing asks for the present instant or random numbers. -/
theorem evaluate_replayed (source : String) (configuration : Configuration) (hosts : Hosts)
    (requests : List Request) (ambient ambient' : Ambient)
    (hambient : ambient = ambient' ∨ configuration.Steady hosts ∧
      ∀ name value, .set name value ∈ requests → value.Holds Tree.Steady) :
    ∃ result,
      (Live.start source (configuration.withHosts hosts)).Answers hosts requests
        (.evaluate ambient) (.value result) ∧
      (Live.start source (configuration.withHosts hosts)).Answers hosts
        (requests.filter Request.isSet) (.evaluate ambient') (.value result) := by
  have hfollows := follows_start source configuration hosts
  have hstart := Live.faithful_start source configuration hosts
  have hreplayed : (Live.start source (configuration.withHosts hosts)).Answers hosts
      (requests.filter Request.isSet) (.evaluate ambient')
      (.value ((requests.foldl after (start source (configuration.withHosts hosts))).evaluate
        ambient')) := by
    rw [← foldl_after_filter]
    exact hstart.answers _ _
  have hsame :
      (requests.foldl after (start source (configuration.withHosts hosts))).evaluate ambient' =
        (requests.foldl after (start source (configuration.withHosts hosts))).evaluate
          ambient := by
    rcases hambient with rfl | ⟨hsteady, hvalues⟩
    · rfl
    · have hafter := (steady_start hsteady source).foldl_after hvalues
      exact hafter.evaluate_eq hsteady.hosts (hfollows.foldl_after requests) _ _
  rw [hsame] at hreplayed
  exact ⟨_, hstart.answers requests (.evaluate ambient), hreplayed⟩

/-! ## An example -/

/-- The variables with another value for one name, spelled just like that. -/
def withExactly (state : String → Option Value) (name : String) (value : Value) :
    String → Option Value :=
  Function.update state name (some value)

/-- A store of the host that tells names apart by letter case. -/
def exactStore : VariableStore := .ofState (fun _ => none) (fun state => state) withExactly

theorem holds_foldl_withExactly {P : Value → Prop} {assigned : List (String × Value)}
    (hassigned : ∀ entry ∈ assigned, P entry.2) {state : String → Option Value}
    (hstate : ∀ name value, state name = some value → P value) {name : String} {value : Value}
    (h : assigned.foldl (fun state entry => withExactly state entry.1 entry.2) state name =
      some value) : P value := by
  induction assigned generalizing state with
  | nil => exact hstate name value h
  | cons entry rest ih =>
    obtain ⟨hentry, hrest⟩ := List.forall_mem_cons.mp hassigned
    refine ih hrest (fun other found hfound => ?_) h
    simp only [withExactly, Function.update_apply] at hfound
    split at hfound
    · exact Option.some.inj hfound ▸ hentry
    · exact hstate other found hfound

theorem steady_exactStore : exactStore.Steady := by
  intro assigned hassigned name value hvalue
  rw [exactStore, VariableStore.get?_setAll_ofState] at hvalue
  have hempty : ∀ (_ : String) value, (none : Option Value) = some value →
      value.Holds Tree.Steady := by
    intro _ value h
    cases h
  exact holds_foldl_withExactly hassigned hempty hvalue

/-- A configuration without random numbers and the present instant, with `AGAIN`. -/
def steadyConfiguration : Configuration :=
  let functions := BuiltIn.functions.filter (·.2.action.isSteady)
  { Configuration.standard with
    functions := FunctionTable.empty.extend functions
    store := exactStore }.withFunction "AGAIN" ⟨[BuiltIn.onDemand "value"]⟩ Scope.again.behaviour

theorem steady_again : Scope.again.Steady where
  ambient _ _ _ _ _ := rfl
  meets settings ambient token operands h := by
    have hfirst : (operands.headD .null).Holds Tree.Steady := by
      cases operands with
      | nil => exact Value.holds_of_plain rfl
      | cons operand rest => exact h operand List.mem_cons_self
    exact (Program.meets_force hfirst).bind fun _ _ => Program.meets_force hfirst

theorem steady_steadyConfiguration : steadyConfiguration.Steady ⟨#[], #[Scope.again]⟩ where
  functions := by
    refine FunctionTable.forall_insert (fun function => function.action.isSteady = true) ?_ rfl _
    refine FunctionTable.forall_extend (fun function => function.action.isSteady = true)
      (fun _ hentry => absurd hentry List.not_mem_nil) ?_
    intro entry hentry
    exact (List.mem_filter.mp hentry).2
  hosts := ⟨by simp, by simpa using steady_again⟩
  constants := by
    have hplain : ∀ entry ∈ Configuration.standardConstants, entry.2.trees.isEmpty = true := by
      decide +kernel
    intro entry hentry
    exact Value.holds_of_plain (List.isEmpty_iff.mp (hplain entry hentry))
  store := steady_exactStore

/-- An evaluation that fails, assignments, of which one takes the place of a constant, a text that
    does not parse, and a question. -/
def mixedRequests (tree : Tree) : List Request :=
  [.evaluate ⟨.epoch, fun _ => 0⟩, .set "x" (.tree tree), .node "(", .usedVariables,
    .set "PI" (.number .one), .set "y" (.number .one)]

/-- With `x` bound to `y * 2`, `AGAIN(x) + PI` has the same value after all of these requests as
    after the assignments only, also with other random numbers. -/
theorem evaluate_replayed_steady :
    let hosts : Hosts := ⟨#[], #[Scope.again]⟩
    let live := Live.start "AGAIN(x) + PI" (steadyConfiguration.withHosts hosts)
    ∃ tree result, steadyConfiguration.parse "y * 2" = .ok tree ∧
      live.Answers hosts (mixedRequests tree) (.evaluate ⟨.epoch, fun _ => 0⟩) (.value result) ∧
      live.Answers hosts
        [.set "x" (.tree tree), .set "PI" (.number .one), .set "y" (.number .one)]
        (.evaluate ⟨.epoch, fun _ => 1⟩) (.value result) := by
  intro hosts live
  have hrun : (steadyConfiguration.parse "y * 2").toOption.any (fun _ => true) = true := by
    decide +kernel
  obtain ⟨tree, htree, -⟩ := ok_of_any hrun
  have hparsed : tree.Steady :=
    Tree.forall_of_parse (Tree.inductive_steady steady_steadyConfiguration.functions) htree
  have hvalues : ∀ name value, .set name value ∈ mixedRequests tree →
      value.Holds Tree.Steady := by
    intro name value hmem
    simp only [mixedRequests, List.mem_cons, Request.set.injEq, List.not_mem_nil, or_false,
      reduceCtorEq, false_or] at hmem
    rcases hmem with ⟨_, rfl⟩ | ⟨_, rfl⟩ | ⟨_, rfl⟩
    · exact Value.holds_tree.mpr hparsed
    · exact Value.holds_of_plain rfl
    · exact Value.holds_of_plain rfl
  obtain ⟨result, hmixed, hreplayed⟩ := evaluate_replayed "AGAIN(x) + PI" steadyConfiguration hosts
    (mixedRequests tree) ⟨.epoch, fun _ => 0⟩ ⟨.epoch, fun _ => 1⟩
    (.inr ⟨steady_steadyConfiguration, hvalues⟩)
  exact ⟨tree, result, htree, hmixed, hreplayed⟩

end Session
end Formula

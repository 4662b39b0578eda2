-- SUMMARY: A session in use, with the tree it keeps and the counter of its evaluations: it answers every request as the plain session does.
import Formula.Proofs.Evaluation.Machine
import Formula.Proofs.Result
import Formula.Session

/-!
# Sessions in use

A program that holds a session keeps more than a text, constants and variables: the tree, from the
first time that parsing succeeds, and the counter of nesting, which all evaluations share. `Live`
holds all of this, and `Live.Step` is what one request does to it, where an evaluation is a run of
the machine.

The session in use is faithful if the tree that it keeps is that of the text and no evaluation is
under way. Every request keeps this, whether it fails or not, and has the answer of the session that
keeps nothing (`Live.Step.faithful`).
-/

namespace Formula
namespace Session

/-! ## Requests -/

/-- What a session can be asked for. Evaluations come with their surroundings. -/
inductive Request where
  | set (name : String) (value : Value)
  | evaluate (ambient : Ambient)
  | validate
  | usedVariables
  | undefinedVariables
  /-- The tree of another text as a value. -/
  | node (text : String)
  | force (ambient : Ambient) (value : Value)
  | evaluateTree (ambient : Ambient) (tree : Tree)

inductive Answer where
  | assigned (result : Except EvalError Unit)
  | value (result : Except EvalError Value)
  | checked (result : Except ParseError Unit)
  | names (result : Except ParseError (List String))
  | node (result : Except ParseError Value)

/-- Whether the request is an assignment. -/
def Request.isSet : Request → Bool
  | set _ _ => true
  | _ => false

/-- The session after a request. An assignment that is refused changes nothing. -/
def after (session : Session) : Request → Session
  | .set name value =>
    match session.set name value with
    | .ok next => next
    | .error _ => session
  | _ => session

/-- The answer of a session that keeps nothing. -/
def answer (session : Session) : Request → Answer
  | .set name value => .assigned (session.set name value >>= fun _ => .ok ())
  | .evaluate ambient => .value (session.evaluate ambient)
  | .validate => .checked (session.tree >>= fun _ => .ok ())
  | .usedVariables => .names session.usedVariables
  | .undefinedVariables => .names session.undefinedVariables
  | .node text => .node (session.parse text >>= fun tree => .ok (.tree tree))
  | .force ambient value => .value (session.force ambient value)
  | .evaluateTree ambient tree => .value (session.evaluateTree ambient tree)

/-- The answers to requests one after the other. -/
def answers (session : Session) : List Request → List Answer
  | [] => []
  | request :: rest => session.answer request :: (session.after request).answers rest

/-- The names in a tree that are no constants, in order. -/
def namesIn (session : Session) (tree : Tree) : List String :=
  sortNames (tree.references.filter (!session.isConstant ·))

/-- The names among these that have no value. -/
def unboundIn (session : Session) (tree : Tree) : List String :=
  (session.namesIn tree).filter fun name => (session.get? name).isNone

/-- The operators and functions of the host are these programs. -/
def Follows (session : Session) (hosts : Hosts) : Prop :=
  ∀ ambient, (session.scope ambient).Follows hosts

theorem follows_start (source : String) (configuration : Configuration) (hosts : Hosts) :
    (start source (configuration.withHosts hosts)).Follows hosts :=
  fun _ => ⟨rfl, rfl⟩

/-! ## The session in use -/

/-- A session with its tree, once that is parsed, and the number of nested evaluations. -/
structure Live where
  session : Session
  parsed : Option Tree
  counter : Nat

namespace Live

def start (source : String) (configuration : Configuration) : Live :=
  ⟨Session.start source configuration, none, 0⟩

/-- The tree of the formula. It is parsed if it is not there yet, and kept. -/
def read (live : Live) : Except ParseError Tree × Live :=
  match live.parsed with
  | some tree => (.ok tree, live)
  | none =>
    match live.session.tree with
    | .ok tree => (.ok tree, { live with parsed := some tree })
    | .error error => (.error error, live)

/-- The machine evaluates a tree. It begins with the counter as it is, and leaves it as it ends.
    Meanwhile a function of the host may have looked at the tree of the formula. -/
inductive Evaluates (hosts : Hosts) (ambient : Ambient) (tree : Tree) :
    Live → Except EvalError Value → Live → Prop
  | run {live middle result counter} (looked : middle = live ∨ middle = live.read.2)
      (reaches : (live.session.scope ambient).Reaches hosts ⟨.call tree, [], live.counter⟩
        ⟨.returned result, [], counter⟩) :
      Evaluates hosts ambient tree live result { middle with counter := counter }

/-- The answer to a request, and what becomes of the session. -/
inductive Step (hosts : Hosts) : Live → Request → Answer → Live → Prop
  | set {live name value session} (accepted : live.session.set name value = .ok session) :
    Step hosts live (.set name value) (.assigned (.ok ())) { live with session := session }
  | refuse {live name value error} (refused : live.session.set name value = .error error) :
    Step hosts live (.set name value) (.assigned (.error error)) live
  | evaluate {live ambient tree middle result next} (found : live.read = (.ok tree, middle))
      (evaluates : Evaluates hosts ambient tree middle result next) :
    Step hosts live (.evaluate ambient) (.value result) next
  | fail {live ambient error next} (failed : live.read = (.error error, next)) :
    Step hosts live (.evaluate ambient) (.value (.error (.parse error))) next
  | validate {live result next} (found : live.read = (result, next)) :
    Step hosts live .validate (.checked (result >>= fun _ => .ok ())) next
  | usedVariables {live result next} (found : live.read = (result, next)) :
    Step hosts live .usedVariables
      (.names (result >>= fun tree => .ok (live.session.namesIn tree))) next
  | undefinedVariables {live result next} (found : live.read = (result, next)) :
    Step hosts live .undefinedVariables
      (.names (result >>= fun tree => .ok (live.session.unboundIn tree))) next
  | node {live text} :
    Step hosts live (.node text)
      (.node (live.session.parse text >>= fun tree => .ok (.tree tree))) live
  | force {live ambient tree result next}
      (evaluates : Evaluates hosts ambient tree live result next) :
    Step hosts live (.force ambient (.tree tree)) (.value result) next
  | pass {live ambient value} (evaluated : value.toTree? = none) :
    Step hosts live (.force ambient value) (.value (.ok value)) live
  | evaluateTree {live ambient tree result next}
      (evaluates : Evaluates hosts ambient tree live result next) :
    Step hosts live (.evaluateTree ambient tree) (.value result) next

/-- The answers to requests one after the other, and what becomes of the session. -/
inductive Run (hosts : Hosts) : Live → List Request → List Answer → Live → Prop
  | nil {live} : Run hosts live [] [] live
  | cons {live request answer next requests answers last}
      (step : Step hosts live request answer next) (rest : Run hosts next requests answers last) :
      Run hosts live (request :: requests) (answer :: answers) last

/-! ## Faithful sessions -/

/-- What the session keeps is what it would find out anew, and no evaluation is under way. -/
structure Faithful (hosts : Hosts) (live : Live) : Prop where
  parsed : ∀ tree, live.parsed = some tree → live.session.tree = .ok tree
  counter : live.counter = 0
  follows : live.session.Follows hosts

variable {hosts : Hosts} {live next last : Live} {request : Request} {answer : Answer}

theorem faithful_start (source : String) (configuration : Configuration) (hosts : Hosts) :
    (start source (configuration.withHosts hosts)).Faithful hosts :=
  ⟨nofun, rfl, follows_start source configuration hosts⟩

/-- Looking at the tree changes nothing but that it may be kept. -/
theorem Faithful.read (h : live.Faithful hosts) :
    live.read.1 = live.session.tree ∧ live.read.2.session = live.session ∧
      live.read.2.Faithful hosts := by
  unfold Live.read
  split
  · rename_i tree hparsed
    exact ⟨(h.parsed tree hparsed).symm, rfl, h⟩
  · split
    · rename_i tree htree
      refine ⟨htree.symm, rfl, ⟨fun other hother => ?_, h.counter, h.follows⟩⟩
      cases hother
      exact htree
    · rename_i error herror
      exact ⟨herror.symm, rfl, h⟩

theorem exists_evaluates (h : live.Faithful hosts) (ambient : Ambient) (tree : Tree) :
    ∃ result next, Evaluates hosts ambient tree live result next :=
  ⟨_, _, .run (.inl rfl) (Scope.reaches_returned (h.follows ambient) _ live.counter tree [] rfl)⟩

/-- An evaluation has the value of the tree, and leaves nothing behind that is not found out
    anew. -/
theorem Evaluates.faithful {ambient : Ambient} {tree : Tree} {result : Except EvalError Value}
    (h : Evaluates hosts ambient tree live result next) (hlive : live.Faithful hosts) :
    result = live.session.evaluateTree ambient tree ∧ next.session = live.session ∧
      next.Faithful hosts := by
  cases h with
  | @run middle _ counter looked reaches =>
    have hmiddle : middle.session = live.session ∧ middle.Faithful hosts := by
      rcases looked with rfl | rfl
      · exact ⟨rfl, hlive⟩
      · exact hlive.read.2
    rw [hlive.counter] at reaches
    have hends := Scope.reaches_returned (hlive.follows ambient) _ 0 tree [] rfl
    obtain ⟨rfl, rfl⟩ := reaches.eq_of_returned hends
    exact ⟨rfl, hmiddle.1, hmiddle.2.parsed, rfl, hmiddle.2.follows⟩

end Live

theorem configuration_of_set {session next : Session} {name : String} {value : Value}
    (h : session.set name value = .ok next) :
    next.source = session.source ∧ next.configuration = session.configuration := by
  simp only [set] at h
  split at h
  · split at h
    · cases h
      exact ⟨rfl, rfl⟩
    · cases h
  · cases h
    exact ⟨rfl, rfl⟩

theorem tree_of_set {session next : Session} {name : String} {value : Value}
    (h : session.set name value = .ok next) : next.tree = session.tree := by
  obtain ⟨hsource, hconfiguration⟩ := configuration_of_set h
  simp only [tree, parse, hsource, hconfiguration]

theorem follows_of_set {session next : Session} {name : String} {value : Value} {hosts : Hosts}
    (h : session.set name value = .ok next) (hfollows : session.Follows hosts) :
    next.Follows hosts := by
  intro ambient
  have hconfiguration : (next.scope ambient).configuration = session.configuration :=
    (configuration_of_set h).2
  obtain ⟨hoperators, hfunctions⟩ := hfollows ambient
  exact ⟨by rw [hconfiguration]; exact hoperators, by rw [hconfiguration]; exact hfunctions⟩

namespace Live

variable {hosts : Hosts} {live next last : Live} {request : Request} {answer : Answer}

/-- Every request is answered as by a session that keeps nothing, and keeps the session faithful. -/
theorem Step.faithful (h : Step hosts live request answer next) (hlive : live.Faithful hosts) :
    answer = live.session.answer request ∧ next.session = live.session.after request ∧
      next.Faithful hosts := by
  have hread : ∀ {result middle}, live.read = (result, middle) →
      result = live.session.tree ∧ middle.session = live.session ∧ middle.Faithful hosts := by
    intro result middle hfound
    have := hlive.read
    rwa [hfound] at this
  cases h with
  | set accepted =>
    refine ⟨?_, ?_, ⟨fun tree htree => ?_, hlive.counter, follows_of_set accepted hlive.follows⟩⟩
    · rw [Session.answer, accepted]
      rfl
    · rw [Session.after, accepted]
    · rw [tree_of_set accepted]
      exact hlive.parsed tree htree
  | refuse refused =>
    refine ⟨?_, ?_, hlive⟩
    · rw [Session.answer, refused]
      rfl
    · rw [Session.after, refused]
  | evaluate found evaluates =>
    obtain ⟨htree, hsession, hmiddle⟩ := hread found
    obtain ⟨rfl, hsame, hnext⟩ := evaluates.faithful hmiddle
    refine ⟨?_, hsame.trans hsession, hnext⟩
    rw [Session.answer, Session.evaluate, ← htree, hsession]
  | fail failed =>
    obtain ⟨htree, hsession, hnext⟩ := hread failed
    refine ⟨?_, hsession, hnext⟩
    rw [Session.answer, Session.evaluate, ← htree]
  | validate found =>
    obtain ⟨rfl, hsession, hnext⟩ := hread found
    exact ⟨rfl, hsession, hnext⟩
  | usedVariables found =>
    obtain ⟨rfl, hsession, hnext⟩ := hread found
    exact ⟨rfl, hsession, hnext⟩
  | undefinedVariables found =>
    obtain ⟨rfl, hsession, hnext⟩ := hread found
    refine ⟨?_, hsession, hnext⟩
    simp only [Session.answer, Session.undefinedVariables, Session.usedVariables, bind_assoc]
    rfl
  | node => exact ⟨rfl, rfl, hlive⟩
  | force evaluates =>
    obtain ⟨rfl, hsession, hnext⟩ := evaluates.faithful hlive
    exact ⟨rfl, hsession, hnext⟩
  | @pass ambient value evaluated =>
    refine ⟨?_, rfl, hlive⟩
    cases value with
    | tree tree => cases evaluated
    | _ => rfl
  | evaluateTree evaluates =>
    obtain ⟨rfl, hsession, hnext⟩ := evaluates.faithful hlive
    exact ⟨rfl, hsession, hnext⟩

/-- Every request is answered. -/
theorem exists_step (hlive : live.Faithful hosts) (request : Request) :
    ∃ answer next, Step hosts live request answer next := by
  cases request with
  | set name value =>
    cases hset : live.session.set name value with
    | ok session => exact ⟨_, _, .set hset⟩
    | error error => exact ⟨_, _, .refuse hset⟩
  | evaluate ambient =>
    obtain ⟨-, -, hmiddle⟩ := hlive.read
    cases hresult : live.read.1 with
    | ok tree =>
      obtain ⟨result, next, hevaluates⟩ := exists_evaluates hmiddle ambient tree
      exact ⟨_, next, .evaluate (Prod.ext hresult rfl) hevaluates⟩
    | error error => exact ⟨_, _, .fail (Prod.ext hresult rfl)⟩
  | validate => exact ⟨_, _, .validate rfl⟩
  | usedVariables => exact ⟨_, _, .usedVariables rfl⟩
  | undefinedVariables => exact ⟨_, _, .undefinedVariables rfl⟩
  | node text => exact ⟨_, _, .node⟩
  | force ambient value =>
    cases value with
    | tree tree =>
      obtain ⟨result, next, hevaluates⟩ := exists_evaluates hlive ambient tree
      exact ⟨_, next, .force hevaluates⟩
    | _ => exact ⟨_, _, .pass rfl⟩
  | evaluateTree ambient tree =>
    obtain ⟨result, next, hevaluates⟩ := exists_evaluates hlive ambient tree
    exact ⟨_, next, .evaluateTree hevaluates⟩

/-! ## Requests one after the other -/

theorem Run.answers_eq {requests : List Request} {answers : List Answer}
    (h : Run hosts live requests answers last) (hlive : live.Faithful hosts) :
    answers = live.session.answers requests := by
  induction h with
  | nil => rfl
  | cons step _ ih =>
    obtain ⟨rfl, hsession, hnext⟩ := step.faithful hlive
    rw [ih hnext, hsession]
    rfl

theorem exists_run (hlive : live.Faithful hosts) (requests : List Request) :
    ∃ answers last, Run hosts live requests answers last := by
  induction requests generalizing live with
  | nil => exact ⟨[], live, .nil⟩
  | cons request rest ih =>
    obtain ⟨answer, next, hstep⟩ := exists_step hlive request
    obtain ⟨answers, last, hrun⟩ := ih (hstep.faithful hlive).2.2
    exact ⟨_, last, .cons hstep hrun⟩

end Live
end Session
end Formula

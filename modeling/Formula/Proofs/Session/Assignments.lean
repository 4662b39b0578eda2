-- SUMMARY: What names stand for after any assignments: the last one that was accepted counts, and protected constants keep their values.
import Formula.Proofs.Session.Live

/-!
# Assignments

A session looks a name up among its constants first and then among its variables, and an assignment
to a constant removes the constant. So a name stands for the value of the last accepted assignment
to it, in any letter case, and else for the constant that the session began with
(`lookup?_assignAll`). Which assignments are accepted depends on the setting for constants only.
-/

namespace Formula

/-- A name is evaluated to what it stands for, which is evaluated in turn if it is a tree. -/
theorem Scope.evaluateWithin_lookup? (scope : Scope) (levels : Nat) {token : Token}
    (hkind : token.kind = .name) (children : List Tree) :
    scope.evaluateWithin (levels + 1) (.node token children) =
      match scope.lookup? token.lexeme with
      | some value =>
        (value.force (scope.evaluateWithin levels)).map (·.finish scope.settings)
      | none => .error (.undefinedVariable token.lexeme token.position) := by
  rw [evaluateWithin]
  simp only [step, Tree.token, hkind, namedValue]
  cases scope.lookup? token.lexeme with
  | none => rfl
  | some value =>
    simp only
    cases value.force (scope.evaluateWithin levels) <;> rfl

namespace Session

variable {session next : Session} {entries : Dictionary Value} {name : String} {value : Value}

/-! ## Assignments one after the other -/

/-- The session after an assignment. One that is refused changes nothing. -/
def assign (session : Session) (assignment : String × Value) : Session :=
  session.after (.set assignment.1 assignment.2)

def assignAll (session : Session) (assignments : List (String × Value)) : Session :=
  assignments.foldl assign session

/-- The assignments that are accepted when all are made in order. -/
def accepted (session : Session) : List (String × Value) → List (String × Value)
  | [] => []
  | assignment :: rest =>
    match session.set assignment.1 assignment.2 with
    | .ok next => assignment :: next.accepted rest
    | .error _ => session.accepted rest

/-- The value of the last assignment to a name, in any letter case. -/
def lastValue? (name : String) (assignments : List (String × Value)) : Option Value :=
  (assignments.reverse.find? fun assignment =>
    Text.upper assignment.1 == Text.upper name).map (·.2)

theorem lastValue?_cons (name : String) (assignment : String × Value)
    (rest : List (String × Value)) :
    lastValue? name (assignment :: rest) = (lastValue? name rest).or
      (if Text.upper assignment.1 = Text.upper name then some assignment.2 else none) := by
  rw [lastValue?, lastValue?, List.reverse_cons, List.find?_append]
  cases rest.reverse.find? fun assignment => Text.upper assignment.1 == Text.upper name with
  | some found => rfl
  | none => by_cases h : Text.upper assignment.1 = Text.upper name <;> simp [h]

/-! ## One assignment -/

/-- An assignment that is accepted leaves a table of variables. It gives its value to the name, in
    any letter case, and changes no other name. -/
theorem lookup?_of_set (hstore : session.store = .table entries)
    (h : session.set name value = .ok next) :
    (∃ entries', next.store = .table entries') ∧
    ∀ ambient other, (next.scope ambient).lookup? other =
      if Text.upper name = Text.upper other then some value
      else (session.scope ambient).lookup? other := by
  simp only [set, hstore, VariableStore.set] at h
  split at h
  · split at h
    · cases h
      refine ⟨⟨_, rfl⟩, fun ambient other => ?_⟩
      by_cases hother : Text.upper name = Text.upper other
      · simp [scope, Scope.lookup?, VariableStore.get?, Dictionary.find?_erase,
          Dictionary.find?_insert, hother]
      · simp [scope, Scope.lookup?, VariableStore.get?, Dictionary.find?_erase,
          Dictionary.find?_insert, hother, Ne.symm hother, hstore]
    · cases h
  · rename_i hconstant
    cases h
    refine ⟨⟨_, rfl⟩, fun ambient other => ?_⟩
    by_cases hother : Text.upper name = Text.upper other
    · have hnone : Dictionary.find? session.constants (Text.upper other) = none := by
        rw [← hother]
        simpa [isConstant, Dictionary.contains] using hconstant
      simp [scope, Scope.lookup?, VariableStore.get?, Dictionary.find?_insert, hother, hnone]
    · simp [scope, Scope.lookup?, VariableStore.get?, Dictionary.find?_insert, hother, hstore]

theorem exists_set (h : session.configuration.settings.overwriteConstants = true) (name : String)
    (value : Value) : ∃ next, session.set name value = .ok next := by
  simp only [set, h]
  split <;> exact ⟨_, rfl⟩

/-- Where constants are protected, an assignment to one is refused. -/
theorem set_constant (h : session.configuration.settings.overwriteConstants = false)
    (hconstant : session.isConstant name = true) (value : Value) :
    session.set name value = .error (.constantReassignment name) := by
  simp [set, h, hconstant]

/-- Where constants are protected, they stay as they are. -/
theorem constants_of_set (h : session.configuration.settings.overwriteConstants = false)
    (hset : session.set name value = .ok next) : next.constants = session.constants := by
  simp only [set, h] at hset
  split at hset
  · cases hset
  · cases hset
    rfl

theorem assign_of_ok (h : session.set name value = .ok next) :
    session.assign (name, value) = next := by
  simp only [assign, after, h]

theorem assign_of_error {error : EvalError} (h : session.set name value = .error error) :
    session.assign (name, value) = session := by
  simp only [assign, after, h]

/-! ## A run of assignments -/

/-- What holds of a session and is kept by every accepted assignment holds after any assignments. -/
theorem assignAll_induct {P : Session → Prop} (hstart : P session)
    (hset : ∀ {session next : Session} {name : String} {value : Value}, P session →
      session.set name value = .ok next → P next) (assignments : List (String × Value)) :
    P (session.assignAll assignments) := by
  induction assignments generalizing session with
  | nil => exact hstart
  | cons assignment rest ih =>
    apply ih
    cases hresult : session.set assignment.1 assignment.2 with
    | ok next =>
      rw [assign_of_ok hresult]
      exact hset hstart hresult
    | error error =>
      rw [assign_of_error hresult]
      exact hstart

theorem configuration_of_assignAll (session : Session) (assignments : List (String × Value)) :
    (session.assignAll assignments).configuration = session.configuration :=
  assignAll_induct (P := fun s => s.configuration = session.configuration) rfl
    (fun h hset => (configuration_of_set hset).2.trans h) assignments

theorem constants_of_assignAll (h : session.configuration.settings.overwriteConstants = false)
    (assignments : List (String × Value)) :
    (session.assignAll assignments).constants = session.constants := by
  refine (assignAll_induct (P := fun s => s.configuration.settings.overwriteConstants = false ∧
    s.constants = session.constants) ⟨h, rfl⟩ ?_ assignments).2
  rintro s next name value ⟨hprotected, hconstants⟩ hset
  rw [constants_of_set hprotected hset, (configuration_of_set hset).2]
  exact ⟨hprotected, hconstants⟩

/-- After any assignments a name stands for the value of the last accepted one to it, or else for
    what it stood for before. -/
theorem lookup?_assignAll (hstore : session.store = .table entries)
    (assignments : List (String × Value)) (ambient : Ambient) (name : String) :
    ((session.assignAll assignments).scope ambient).lookup? name =
      (lastValue? name (session.accepted assignments)).or
        ((session.scope ambient).lookup? name) := by
  induction assignments generalizing session entries with
  | nil => rfl
  | cons assignment rest ih =>
    rw [assignAll, List.foldl_cons, ← assignAll, accepted]
    cases hresult : session.set assignment.1 assignment.2 with
    | error error =>
      rw [assign_of_error hresult]
      exact ih hstore
    | ok next =>
      obtain ⟨⟨entries', hnext⟩, hlookup⟩ := lookup?_of_set hstore hresult
      rw [assign_of_ok hresult, ih hnext, hlookup, lastValue?_cons, Option.or_assoc]
      congr 1
      split <;> rfl

/-! ## New sessions -/

/-- A new session after some assignments. -/
def startWith (source : String) (configuration : Configuration)
    (assignments : List (String × Value)) : Session :=
  (start source configuration).assignAll assignments

/-- What a name stands for in a new session after some assignments. -/
def assigned? (source : String) (configuration : Configuration)
    (assignments : List (String × Value)) (name : String) : Option Value :=
  (lastValue? name ((start source configuration).accepted assignments)).or
    (configuration.constant? name)

theorem configuration_of_startWith (source : String) (configuration : Configuration)
    (assignments : List (String × Value)) :
    (startWith source configuration assignments).configuration = configuration :=
  configuration_of_assignAll (start source configuration) assignments

theorem lookup?_startWith {configuration : Configuration} (h : configuration.store = .empty)
    (source : String) (assignments : List (String × Value)) (ambient : Ambient) (name : String) :
    ((startWith source configuration assignments).scope ambient).lookup? name =
      assigned? source configuration assignments name := by
  rw [startWith, lookup?_assignAll h, assigned?]
  simp only [Scope.lookup?, scope, start, h, VariableStore.empty, VariableStore.get?,
    Dictionary.find?, Option.or_none, Configuration.constant?]

/-- With a table of variables that is empty at first, a name is evaluated to the value of the last
    accepted assignment to it, in any letter case, or else to the constant of that name, and is
    undefined otherwise; a tree that it stands for is evaluated. Where constants are protected, they
    keep their values in every run, and each assignment to one, in any letter case, is refused and
    changes nothing. Where they are not, no assignment is refused. -/
theorem evaluate_assigned {configuration : Configuration} (hstore : configuration.store = .empty)
    (hkeys : ∀ entry ∈ configuration.constants, Text.upper entry.1 = entry.1) (source : String)
    (assignments : List (String × Value)) :
    (∀ ambient levels token children, token.kind = .name →
      ((startWith source configuration assignments).scope ambient).evaluateWithin (levels + 1)
          (.node token children) =
        match assigned? source configuration assignments token.lexeme with
        | some value =>
          (value.force (((startWith source configuration assignments).scope
            ambient).evaluateWithin levels)).map (·.finish configuration.settings)
        | none => .error (.undefinedVariable token.lexeme token.position)) ∧
    (configuration.settings.overwriteConstants = false →
      (startWith source configuration assignments).constants = configuration.constants ∧
      ∀ constant ∈ Dictionary.names configuration.constants, ∀ name value,
        Text.upper name = Text.upper constant →
        (startWith source configuration assignments).set name value =
          .error (.constantReassignment name) ∧
        (startWith source configuration assignments).assign (name, value) =
          startWith source configuration assignments) ∧
    (configuration.settings.overwriteConstants = true → ∀ name value,
      ∃ next, (startWith source configuration assignments).set name value = .ok next) := by
  have hconfiguration := configuration_of_startWith source configuration assignments
  refine ⟨?evaluated, ?kept, ?accepted⟩
  case evaluated =>
    intro ambient levels token children hkind
    have hsettings : ((startWith source configuration assignments).scope ambient).settings =
        configuration.settings := by
      rw [Scope.settings, scope, hconfiguration]
    rw [Scope.evaluateWithin_lookup? _ levels hkind, lookup?_startWith hstore, hsettings]
  case kept =>
    intro hprotected
    have hconstants : (startWith source configuration assignments).constants =
        configuration.constants :=
      constants_of_assignAll hprotected assignments
    refine ⟨hconstants, fun constant hconstant name value hname => ?_⟩
    have hkey : Text.upper constant = constant := by
      obtain ⟨entry, hentry, rfl⟩ := List.mem_map.mp hconstant
      exact hkeys entry hentry
    have hrefused : (startWith source configuration assignments).set name value =
        .error (.constantReassignment name) := by
      refine set_constant (by rw [hconfiguration]; exact hprotected) ?_ value
      rw [isConstant, hconstants, hname, hkey]
      exact Dictionary.contains_iff.mpr hconstant
    exact ⟨hrefused, assign_of_error hrefused⟩
  case accepted =>
    intro hopen
    exact exists_set (by rw [hconfiguration]; exact hopen)

/-- The standard configuration with protected constants. -/
def protectedConfiguration : Configuration :=
  Configuration.standard.withSettings { Settings.standard with overwriteConstants := false }

/-- Two assignments to one name, with one to a constant between them. -/
def mixedAssignments : List (String × Value) :=
  [("x", .number .one), ("pI", .null), ("X", .text "later")]

/-- The later assignment to `x` counts, and the one to the constant is refused, then and again. -/
theorem evaluate_assigned_protected : ∃ value,
    ((startWith "x" protectedConfiguration mixedAssignments).scope
      ⟨.epoch, fun _ => 0⟩).evaluateWithin 1 (.leaf ⟨.name, "x", 0, none⟩) = .ok value ∧
    value.equal (.text "later") = true ∧
    (startWith "x" protectedConfiguration mixedAssignments).constants =
      Configuration.standardConstants ∧
    (startWith "x" protectedConfiguration mixedAssignments).set "Pi" .null =
      .error (.constantReassignment "Pi") := by
  obtain ⟨hevaluated, hkept, -⟩ :=
    @evaluate_assigned protectedConfiguration rfl (by decide +kernel) "x" mixedAssignments
  have hname := hevaluated ⟨.epoch, fun _ => 0⟩ 0 ⟨.name, "x", 0, none⟩ [] rfl
  have hrun : (((startWith "x" protectedConfiguration mixedAssignments).scope
      ⟨.epoch, fun _ => 0⟩).evaluateWithin 1 (.leaf ⟨.name, "x", 0, none⟩)).toOption.any
        (·.equal (.text "later")) = true := by
    rw [Tree.leaf, hname]
    decide +kernel
  obtain ⟨value, hvalue, hlater⟩ := ok_of_any hrun
  obtain ⟨hconstants, hrefused⟩ := hkept rfl
  have hpi : "PI" ∈ Dictionary.names Configuration.standardConstants := by decide +kernel
  exact ⟨value, hvalue, hlater, hconstants,
    (hrefused "PI" hpi "Pi" .null (by decide +kernel)).1⟩

end Session
end Formula

-- SUMMARY: Sessions: a formula with a configuration and variables that can be set, evaluated any number of times.
import Formula.Evaluation

/-! # Sessions

A session changes only when a variable is set. A variable with the name of a constant takes its
place, where the settings allow it, and is an error otherwise. -/

namespace Formula

structure Session where
  source : String
  configuration : Configuration
  constants : Dictionary Value
  store : VariableStore

namespace Session

def start (source : String) (configuration : Configuration) : Session :=
  ⟨source, configuration, configuration.constants, configuration.store⟩

/-! ## Variables -/

/-- Whether a name is that of a constant. -/
def isConstant (session : Session) (name : String) : Bool :=
  Dictionary.contains session.constants (Text.upper name)

/-- Sets a variable. -/
def set (session : Session) (name : String) (value : Value) : Except EvalError Session :=
  let stored := { session with store := session.store.set name value }
  if session.isConstant name then
    if session.configuration.settings.overwriteConstants then
      .ok { stored with constants := Dictionary.erase session.constants (Text.upper name) }
    else .error (.constantReassignment name)
  else .ok stored

/-- Sets variables one after the other. -/
def setAll (session : Session) (values : List (String × Value)) : Except EvalError Session :=
  values.foldlM (fun session entry => session.set entry.1 entry.2) session

/-- The variable of a name. Constants are none. -/
def get? (session : Session) (name : String) : Option Value := session.store.get? name

/-! ## Trees and values -/

/-- The tree of a text under the configuration of the session. -/
def parse (session : Session) (text : String) : Except ParseError Tree :=
  session.configuration.parse text

/-- The tree of the formula. -/
def tree (session : Session) : Except ParseError Tree := session.parse session.source

def scope (session : Session) (ambient : Ambient) : Scope :=
  ⟨session.configuration, session.constants, session.store, ambient⟩

/-- The value of a tree in the session. -/
def evaluateTree (session : Session) (ambient : Ambient) (tree : Tree) : Except EvalError Value :=
  (session.scope ambient).evaluate tree

/-- The value of the formula. -/
def evaluate (session : Session) (ambient : Ambient) : Except EvalError Value :=
  match session.tree with
  | .ok tree => session.evaluateTree ambient tree
  | .error error => .error (.parse error)

/-- The value of a tree that is given as a value. -/
def force (session : Session) (ambient : Ambient) (value : Value) : Except EvalError Value :=
  (session.scope ambient).force value

/-! ## Names in use -/

/-- Names in order, each once. -/
def sortNames (names : List String) : List String :=
  Dictionary.names (Dictionary.ofEntries (names.map fun name => (name, ())))

/-- The names that the formula refers to and that are no constants, in order. -/
def usedVariables (session : Session) : Except ParseError (List String) := do
  return sortNames ((← session.tree).references.filter (!session.isConstant ·))

/-- The names among these that have no value, in order. -/
def undefinedVariables (session : Session) : Except ParseError (List String) := do
  return (← session.usedVariables).filter fun name => (session.get? name).isNone

end Session
end Formula

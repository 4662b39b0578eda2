-- SUMMARY: Configurations: a language with its constants, the behaviours of the host and the kind of variable storage.
import Formula.BuiltIn.Functions
import Formula.Language
import Formula.Tree.Parser

/-! # Configurations

A configuration is a language together with what its evaluation needs: constants, what the operators
and functions of the host do, and the variables that a new session begins with.

Names of constants and variables match in any letter case. -/

namespace Formula

/-! ## Variables -/

/-- Where variables are kept: in a table that assignments fill, or in a store of the host. Of such a
    store it is known which assignments were made, and what it answers after any assignments. -/
inductive VariableStore where
  | table (entries : Dictionary Value)
  | custom (assigned : List (String × Value))
      (answer : List (String × Value) → String → Option Value)

namespace VariableStore

def empty : VariableStore := table []

/-- The value of a variable. -/
def get? : VariableStore → String → Option Value
  | table entries, name => Dictionary.find? entries (Text.upper name)
  | custom assigned answer, name => answer assigned name

/-- Gives a variable a value. -/
def set : VariableStore → String → Value → VariableStore
  | table entries, name, value => table (Dictionary.insert entries (Text.upper name) value)
  | custom assigned answer, name, value => custom (assigned ++ [(name, value)]) answer

/-- Gives variables values, one after the other. -/
def setAll (store : VariableStore) (assigned : List (String × Value)) : VariableStore :=
  assigned.foldl (fun store entry => store.set entry.1 entry.2) store

/-- The store of the host that has a state, reads variables from it and changes it when they are
    set. -/
def ofState.{u} {State : Type u} (state : State) (get : State → String → Option Value)
    (set : State → String → Value → State) : VariableStore :=
  custom [] fun assigned =>
    get (assigned.foldl (fun state entry => set state entry.1 entry.2) state)

/-- A store that computes variables from their names, and in which assignments do nothing. -/
def computed (value : String → Option Value) : VariableStore :=
  ofState () (fun _ => value) (fun state _ _ => state)

theorem setAll_custom (assigned more : List (String × Value))
    (answer : List (String × Value) → String → Option Value) :
    (custom assigned answer).setAll more = custom (assigned ++ more) answer := by
  induction more generalizing assigned with
  | nil => rw [List.append_nil, setAll, List.foldl_nil]
  | cons entry rest ih =>
    rw [setAll, List.foldl_cons, ← setAll, set, ih, List.append_assoc, List.singleton_append]

/-- Whatever its state is, a store of the host answers from the state that the assignments lead
    to. -/
theorem get?_setAll_ofState.{u} {State : Type u} (state : State)
    (get : State → String → Option Value) (set : State → String → Value → State)
    (assigned : List (String × Value)) (name : String) :
    ((ofState state get set).setAll assigned).get? name =
      get (assigned.foldl (fun state entry => set state entry.1 entry.2) state) name := by
  rw [ofState, setAll_custom]
  rfl

end VariableStore

/-! ## Configurations -/

structure Configuration extends Language where
  constants : Dictionary Value
  hostOperators : Array Behaviour
  hostFunctions : Array Behaviour
  store : VariableStore

namespace Settings

/-- The settings that are used if nothing else is asked for. -/
def standard : Settings where
  precision := .ofDigits Precision.maxDigits .nearestEven
  decimalPlaces := none
  stripTrailingZeros := true
  powerPrecedence := Precedence.power
  implicitMultiplication := true
  singleQuotes := false
  arrays := true
  structures := true
  overwriteConstants := true
  maxNesting := 512
  zoneOffset := 0

end Settings

namespace Configuration

/-- The constants that every configuration begins with. -/
def standardConstants : Dictionary Value := Dictionary.ofEntries [
  ("TRUE", .boolean true), ("FALSE", .boolean false), ("NULL", .null), ("PI", .number .pi),
  ("E", .number .e)]

/-- The configuration of the built-in operators, functions and constants. -/
def standard : Configuration where
  settings := .standard
  operators := BuiltIn.operatorTable
  functions := BuiltIn.functionTable
  constants := standardConstants
  hostOperators := #[]
  hostFunctions := #[]
  store := .empty

def withSettings (configuration : Configuration) (settings : Settings) : Configuration :=
  { configuration with settings := settings }

/-- Adds a constant, in place of the one of this name. -/
def withConstant (configuration : Configuration) (name : String) (value : Value) : Configuration :=
  { configuration with
    constants := Dictionary.insert configuration.constants (Text.upper name) value }

/-- The constant of a name. -/
def constant? (configuration : Configuration) (name : String) : Option Value :=
  Dictionary.find? configuration.constants (Text.upper name)

/-- Adds an operator of the host. -/
def withOperator (configuration : Configuration) (name : String) (rule : OperatorRule)
    (behaviour : Behaviour) : Configuration :=
  let operator : Operator := ⟨rule, .host configuration.hostOperators.size⟩
  { configuration with
    operators := configuration.operators.insert name operator
    hostOperators := configuration.hostOperators.push behaviour }

/-- Adds a function of the host. -/
def withFunction (configuration : Configuration) (name : String) (signature : Signature)
    (behaviour : Behaviour) : Configuration :=
  let function : LibraryFunction := ⟨signature, .host configuration.hostFunctions.size⟩
  { configuration with
    functions := configuration.functions.insert name function
    hostFunctions := configuration.hostFunctions.push behaviour }

/-- The tree of a formula's text. -/
def parse (configuration : Configuration) (text : String) : Except ParseError Tree :=
  Tree.parse configuration.toLanguage text

end Configuration
end Formula

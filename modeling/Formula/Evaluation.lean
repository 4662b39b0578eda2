-- SUMMARY: Evaluation of expression trees.
import Formula.Configuration

/-! # Evaluation

A tree is evaluated within a budget of nesting levels. Each step into a tree costs one level, also
where a variable holds a tree or an operand is evaluated on demand, so evaluation ends even if
variables refer to each other in a circle.

`Scope.step` says what a tree evaluates to, given how other trees do; `Scope.evaluateWithin` closes
the circle. Every number that a tree yields is rounded and brought to its final form. -/

namespace Formula

/-- What a tree is evaluated in: a configuration, the constants and variables as they are now, and
    the surroundings. -/
structure Scope where
  configuration : Configuration
  constants : Dictionary Value
  store : VariableStore
  ambient : Ambient

/-- A way to evaluate trees. -/
abbrev Evaluator := Tree → Except EvalError Value

namespace Value

/-- The final form of a result. -/
def finish (settings : Settings) : Value → Value
  | number n => number (settings.finishNumber n)
  | other => other

/-- Evaluates a value that is a tree. -/
def force (evaluate : Evaluator) : Value → Except EvalError Value
  | tree value => evaluate value
  | other => .ok other

end Value

namespace Scope

def settings (scope : Scope) : Settings := scope.configuration.settings

/-- The value of a name: a constant, or else a variable. -/
def lookup? (scope : Scope) (name : String) : Option Value :=
  (Dictionary.find? scope.constants (Text.upper name)).or (scope.store.get? name)

/-- The context of the calls that one step makes. -/
def context (scope : Scope) (evaluate : Evaluator) : CallContext :=
  ⟨scope.settings, scope.ambient, Value.force evaluate⟩

/-- The operator that a token is bound to, or else the one of its name in its place. -/
def operatorOf? (scope : Scope) (token : Token) : Option Operator :=
  token.operator?.or
    (scope.configuration.operators.find? (token.kind.fixity?.getD .between) token.lexeme)

/-- The function that a token is bound to, or else the one of its name. -/
def functionOf? (scope : Scope) (token : Token) : Option LibraryFunction :=
  token.function?.or (scope.configuration.functions.find? token.lexeme)

/-! ## Kinds of nodes -/

/-- The value of a number. -/
def numberValue (token : Token) : Except EvalError Value :=
  match Decimal.ofLiteral? token.lexeme.toList with
  | some value => .ok (.number value)
  | none => .error (.parse ⟨.malformedNumber .notDecimal, token.position, token.lexeme⟩)

/-- The value of a name. A tree that it stands for is evaluated. -/
def namedValue (scope : Scope) (evaluate : Evaluator) (token : Token) : Except EvalError Value :=
  match scope.lookup? token.lexeme with
  | some value => value.force evaluate
  | none => .error (.undefinedVariable token.lexeme token.position)

/-- The operands from an index on, evaluated in order. Where `lazy` says so they stay trees. -/
def operandValues (evaluate : Evaluator) (lazy : Nat → Bool) :
    Nat → List Tree → Except EvalError (List Value)
  | _, [] => .ok []
  | index, tree :: rest => do
    let value ← if lazy index then .ok (.tree tree) else evaluate tree
    let others ← operandValues evaluate lazy (index + 1) rest
    return value :: others

def operatorValue (scope : Scope) (evaluate : Evaluator) (token : Token) (children : List Tree) :
    Except EvalError Value :=
  match scope.operatorOf? token with
  | none => .error token.unexpected
  | some operator =>
    if children.length = operator.rule.operandCount then do
      let operands ← operandValues evaluate (fun _ => operator.rule.lazy) 0 children
      BuiltIn.applyOperator scope.configuration.hostOperators (scope.context evaluate) token
        operator.action operands
    else .error token.unexpected

/-- Whether the argument at an index stays a tree. -/
def isLazy (signature : Signature) (index : Nat) : Bool :=
  (signature.parameter? index).any (·.lazy)

def functionValue (scope : Scope) (evaluate : Evaluator) (token : Token) (children : List Tree) :
    Except EvalError Value :=
  match scope.functionOf? token with
  | none => .error token.unexpected
  | some function => do
    let arguments ← operandValues evaluate (isLazy function.signature) 0 children
    function.signature.check token arguments
    BuiltIn.applyFunction scope.configuration.hostFunctions (scope.context evaluate) token
      function.action arguments

/-- The item of an array at an index, whose decimals do not count. -/
def itemAt (token : Token) (array index : Value) : Except EvalError Value :=
  match array, index with
  | .array items, .number n =>
    match n.trunc.toIndex?.bind (items[·]?) with
    | some item => .ok item
    | none => .error (.indexOutOfBounds n.trunc items.length token.position)
  | .array _, other => .error (token.unsupported (.indexNotNumber other.type))
  | other, _ => .error (token.unsupported (.notIndexable other.type))

def indexValue (evaluate : Evaluator) (token : Token) (children : List Tree) :
    Except EvalError Value :=
  match children with
  | [array, index] => do
    let array ← evaluate array
    let index ← evaluate index
    itemAt token array index
  | _ => .error token.unexpected

/-- The field of a record. -/
def fieldOf (token field : Token) (value : Value) : Except EvalError Value :=
  match value with
  | .record fields =>
    match Dictionary.find? fields field.lexeme with
    | some value => .ok value
    | none => .error (.undefinedField field.lexeme field.position)
  | other => .error (token.unsupported (.noFields other.type))

def fieldValue (evaluate : Evaluator) (token : Token) (children : List Tree) :
    Except EvalError Value :=
  match children with
  | [base, field] => do fieldOf token field.token (← evaluate base)
  | _ => .error token.unexpected

/-! ## Trees -/

/-- What a tree evaluates to, given how the trees it depends on do. -/
def step (scope : Scope) (evaluate : Evaluator) (tree : Tree) : Except EvalError Value :=
  let token := tree.token
  match token.kind with
  | .number => numberValue token
  | .text => .ok (.text token.lexeme)
  | .name => scope.namedValue evaluate token
  | .prefixOperator => scope.operatorValue evaluate token tree.children
  | .postfixOperator => scope.operatorValue evaluate token tree.children
  | .infixOperator => scope.operatorValue evaluate token tree.children
  | .function => scope.functionValue evaluate token tree.children
  | .arrayIndex => indexValue evaluate token tree.children
  | .separator => fieldValue evaluate token tree.children
  | _ => .error token.unexpected

/-- The value of a tree, for which there is a number of levels left. -/
def evaluateWithin (scope : Scope) : Nat → Evaluator
  | 0, tree => .error (.nestingTooDeep scope.settings.maxNesting tree.token.position)
  | levels + 1, tree => do
    return (← scope.step (scope.evaluateWithin levels) tree).finish scope.settings

/-- The value of a tree. -/
def evaluate (scope : Scope) (tree : Tree) : Except EvalError Value :=
  scope.evaluateWithin scope.settings.maxNesting tree

/-- The value of a tree that is given as a value. -/
def force (scope : Scope) (value : Value) : Except EvalError Value := value.force scope.evaluate

end Scope
end Formula

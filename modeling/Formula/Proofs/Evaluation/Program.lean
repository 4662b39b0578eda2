-- SUMMARY: A step of an evaluation as a program that asks for the values of trees one after the other, for operators and functions of the host that are such programs.
import Formula.Evaluation

/-!
# Evaluation as a program

`Scope.step` gets the way in which other trees are evaluated as a function, and does not show when
it is used. `Scope.program` is the same step as a computation that asks for the value of one tree
after the other and goes on with the answer, so that the questions can be counted. `run_program`
says that answering each question by evaluation gives the value of the step.

What the host does is unknown. It is assumed to be a program of this kind too: it asks for the
values of trees, any number of times, also for trees that it made itself, may go on after an error,
and ends.
-/

namespace Formula

/-! ## Programs -/

/-- A computation that may ask for the values of trees. -/
inductive Program (α : Type) where
  | done (result : Except EvalError α)
  | ask (tree : Tree) (next : Except EvalError Value → Program α)

namespace Program

variable {α β : Type}

def bind : Program α → (α → Program β) → Program β
  | done (.ok value), f => f value
  | done (.error error), _ => done (.error error)
  | ask tree next, f => ask tree fun answer => (next answer).bind f

instance : Monad Program where
  pure value := done (.ok value)
  bind := Program.bind

/-- Asks for the value of a tree. -/
def demand (tree : Tree) : Program Value := ask tree done

/-- Asks for the value of a value that is a tree. -/
def force : Value → Program Value
  | .tree tree => demand tree
  | other => pure other

/-- The result if trees are evaluated in a given way. -/
def run (evaluate : Evaluator) : Program α → Except EvalError α
  | done result => result
  | ask tree next => (next (evaluate tree)).run evaluate

variable {evaluate : Evaluator}

@[simp] theorem run_done (result : Except EvalError α) : (done result).run evaluate = result := rfl

@[simp] theorem run_pure (value : α) : (pure value : Program α).run evaluate = pure value :=
  rfl

@[simp] theorem run_demand (tree : Tree) : (demand tree).run evaluate = evaluate tree := rfl

@[simp] theorem run_force (value : Value) : (force value).run evaluate = value.force evaluate := by
  cases value <;> rfl

@[simp] theorem run_bind (program : Program α) (f : α → Program β) :
    (program >>= f).run evaluate =
      (program.run evaluate >>= fun value => (f value).run evaluate) := by
  induction program with
  | done result => cases result <;> rfl
  | ask tree next ih => exact ih (evaluate tree)

@[simp] theorem run_ite {condition : Prop} [Decidable condition] (a b : Program α) :
    (if condition then a else b).run evaluate =
      if condition then a.run evaluate else b.run evaluate := by
  split <;> rfl

end Program

/-! ## Operators and functions of the host -/

/-- What an operator or function of the host does with its token and its operands. -/
abbrev HostProgram := Settings → Ambient → Token → List Value → Program Value

/-- The behaviour of a program whose questions are answered by the evaluation that calls it. -/
def HostProgram.behaviour (program : HostProgram) : Behaviour :=
  fun context token operands =>
    (program context.settings context.ambient token operands).run fun tree =>
      context.force (.tree tree)

/-- What the operators and functions of the host do, by number. -/
structure Hosts where
  operators : Array HostProgram
  functions : Array HostProgram

/-- The configuration with these programs as the operators and functions of the host. -/
def Configuration.withHosts (configuration : Configuration) (hosts : Hosts) : Configuration :=
  { configuration with
    hostOperators := hosts.operators.map HostProgram.behaviour
    hostFunctions := hosts.functions.map HostProgram.behaviour }

/-- The operators and functions of the host are these programs. -/
structure Scope.Follows (scope : Scope) (hosts : Hosts) : Prop where
  operators : scope.configuration.hostOperators = hosts.operators.map HostProgram.behaviour
  functions : scope.configuration.hostFunctions = hosts.functions.map HostProgram.behaviour

namespace Scope

/-! ## One step as a program -/

/-- The context of a built-in action that needs no value of a tree. -/
def idleContext (scope : Scope) : CallContext :=
  scope.context fun tree => .error tree.token.unexpected

def shortCircuitProgram (decisive : Bool) (operands : List Value) : Program Value :=
  match operands with
  | [left, right] => do
    if (← Program.force left).toBool == decisive then return .boolean decisive
    return .boolean (← Program.force right).toBool
  | _ => pure (.boolean false)

def chooseProgram (arguments : List Value) : Program Value :=
  match arguments with
  | [condition, whenTrue, whenFalse] =>
    Program.force (if condition.toBool then whenTrue else whenFalse)
  | _ => pure .null

def switchCasesProgram (value : Value) : List Value → Program Value
  | candidate :: result :: rest => do
    if value.equal (← Program.force candidate) then Program.force result
    else switchCasesProgram value rest
  | [otherwise] => Program.force otherwise
  | [] => pure .null

def switchProgram (arguments : List Value) : Program Value :=
  match arguments with
  | [] => pure .null
  | value :: cases => switchCasesProgram value cases

def applyOperatorProgram (scope : Scope) (hosts : Hosts) (token : Token) (action : OperatorAction)
    (operands : List Value) : Program Value :=
  match action with
  | .and => shortCircuitProgram false operands
  | .or => shortCircuitProgram true operands
  | .host number =>
    match hosts.operators[number]? with
    | some program => program scope.settings scope.ambient token operands
    | none => .done (.error token.unexpected)
  | action => .done (BuiltIn.applyOperator #[] scope.idleContext token action operands)

def applyFunctionProgram (scope : Scope) (hosts : Hosts) (token : Token) (action : FunctionAction)
    (arguments : List Value) : Program Value :=
  match action with
  | .choose => chooseProgram arguments
  | .switch => switchProgram arguments
  | .host number =>
    match hosts.functions[number]? with
    | some program => program scope.settings scope.ambient token arguments
    | none => .done (.error token.unexpected)
  | action => .done (BuiltIn.applyFunction #[] scope.idleContext token action arguments)

def namedProgram (scope : Scope) (token : Token) : Program Value :=
  match scope.lookup? token.lexeme with
  | some value => Program.force value
  | none => .done (.error (.undefinedVariable token.lexeme token.position))

def operandsProgram (lazy : Nat → Bool) : Nat → List Tree → Program (List Value)
  | _, [] => pure []
  | index, tree :: rest => do
    let value ← if lazy index then pure (.tree tree) else Program.demand tree
    let others ← operandsProgram lazy (index + 1) rest
    return value :: others

def operatorProgram (scope : Scope) (hosts : Hosts) (token : Token) (children : List Tree) :
    Program Value :=
  match scope.operatorOf? token with
  | none => .done (.error token.unexpected)
  | some operator =>
    if children.length = operator.rule.operandCount then do
      let operands ← operandsProgram (fun _ => operator.rule.lazy) 0 children
      scope.applyOperatorProgram hosts token operator.action operands
    else .done (.error token.unexpected)

def functionProgram (scope : Scope) (hosts : Hosts) (token : Token) (children : List Tree) :
    Program Value :=
  match scope.functionOf? token with
  | none => .done (.error token.unexpected)
  | some function => do
    let arguments ← operandsProgram (isLazy function.signature) 0 children
    .done (function.signature.check token arguments)
    scope.applyFunctionProgram hosts token function.action arguments

def indexProgram (token : Token) (children : List Tree) : Program Value :=
  match children with
  | [array, index] => do
    let array ← Program.demand array
    let index ← Program.demand index
    .done (itemAt token array index)
  | _ => .done (.error token.unexpected)

def fieldProgram (token : Token) (children : List Tree) : Program Value :=
  match children with
  | [base, field] => do .done (fieldOf token field.token (← Program.demand base))
  | _ => .done (.error token.unexpected)

/-- One step into a tree. -/
def program (scope : Scope) (hosts : Hosts) (tree : Tree) : Program Value :=
  let token := tree.token
  match token.kind with
  | .number => .done (numberValue token)
  | .text => pure (.text token.lexeme)
  | .name => scope.namedProgram token
  | .prefixOperator => scope.operatorProgram hosts token tree.children
  | .postfixOperator => scope.operatorProgram hosts token tree.children
  | .infixOperator => scope.operatorProgram hosts token tree.children
  | .function => scope.functionProgram hosts token tree.children
  | .arrayIndex => indexProgram token tree.children
  | .separator => fieldProgram token tree.children
  | _ => .done (.error token.unexpected)

/-! ## The program gives the value of the step -/

variable {scope : Scope} {hosts : Hosts} {evaluate : Evaluator}

theorem run_shortCircuitProgram (decisive : Bool) (operands : List Value) :
    (shortCircuitProgram decisive operands).run evaluate =
      BuiltIn.shortCircuit (scope.context evaluate) decisive operands := by
  match operands with
  | [left, right] => simp [shortCircuitProgram, BuiltIn.shortCircuit, context]
  | [] | [_] | _ :: _ :: _ :: _ => rfl

theorem run_chooseProgram (arguments : List Value) :
    (chooseProgram arguments).run evaluate =
      BuiltIn.choose (scope.context evaluate) arguments := by
  match arguments with
  | [condition, whenTrue, whenFalse] => exact Program.run_force _
  | [] | [_] | [_, _] | _ :: _ :: _ :: _ :: _ => rfl

theorem run_switchCasesProgram (value : Value) (cases : List Value) :
    (switchCasesProgram value cases).run evaluate =
      BuiltIn.switchCases (scope.context evaluate) value cases := by
  fun_induction switchCasesProgram value cases with
  | case1 candidate result rest ih => simp [BuiltIn.switchCases, context, ih]
  | case2 otherwise => exact Program.run_force _
  | case3 => rfl

theorem run_switchProgram (arguments : List Value) :
    (switchProgram arguments).run evaluate =
      BuiltIn.switch (scope.context evaluate) arguments := by
  cases arguments with
  | nil => rfl
  | cons value cases => exact run_switchCasesProgram value cases

/-- The behaviour of the host with a number is that of its program. -/
theorem run_hostProgram (programs : Array HostProgram) (number : Nat) (token : Token)
    (operands : List Value) :
    (match programs[number]? with
      | some program => program scope.settings scope.ambient token operands
      | none => .done (.error token.unexpected)).run evaluate =
      match (programs.map HostProgram.behaviour)[number]? with
      | some behaviour => behaviour (scope.context evaluate) token operands
      | none => .error token.unexpected := by
  rw [Array.getElem?_map]
  cases programs[number]? with
  | none => rfl
  | some program => rfl

theorem run_applyOperatorProgram (hhosts : scope.Follows hosts) (token : Token)
    (action : OperatorAction) (operands : List Value) :
    (scope.applyOperatorProgram hosts token action operands).run evaluate =
      BuiltIn.applyOperator scope.configuration.hostOperators (scope.context evaluate) token action
        operands := by
  cases action with
  | and => exact run_shortCircuitProgram false operands
  | or => exact run_shortCircuitProgram true operands
  | host number =>
    simp only [applyOperatorProgram, BuiltIn.applyOperator, hhosts.operators]
    exact run_hostProgram hosts.operators number token operands
  | _ => rfl

theorem run_applyFunctionProgram (hhosts : scope.Follows hosts) (token : Token)
    (action : FunctionAction) (arguments : List Value) :
    (scope.applyFunctionProgram hosts token action arguments).run evaluate =
      BuiltIn.applyFunction scope.configuration.hostFunctions (scope.context evaluate) token action
        arguments := by
  cases action with
  | choose => exact run_chooseProgram arguments
  | switch => exact run_switchProgram arguments
  | host number =>
    simp only [applyFunctionProgram, BuiltIn.applyFunction, hhosts.functions]
    exact run_hostProgram hosts.functions number token arguments
  | _ => rfl

theorem run_namedProgram (token : Token) :
    (scope.namedProgram token).run evaluate = scope.namedValue evaluate token := by
  unfold namedProgram namedValue
  cases scope.lookup? token.lexeme with
  | none => rfl
  | some value => exact Program.run_force value

theorem run_operandsProgram (lazy : Nat → Bool) (index : Nat) (children : List Tree) :
    (operandsProgram lazy index children).run evaluate =
      operandValues evaluate lazy index children := by
  induction children generalizing index with
  | nil => rfl
  | cons child rest ih =>
    simp only [operandsProgram, operandValues, Program.run_bind, Program.run_ite,
      Program.run_demand, Program.run_pure, ih]
    rfl

theorem run_operatorProgram (hhosts : scope.Follows hosts) (token : Token) (children : List Tree) :
    (scope.operatorProgram hosts token children).run evaluate =
      scope.operatorValue evaluate token children := by
  unfold operatorProgram operatorValue
  cases scope.operatorOf? token with
  | none => rfl
  | some operator => simp [run_operandsProgram, run_applyOperatorProgram hhosts]

theorem run_functionProgram (hhosts : scope.Follows hosts) (token : Token) (children : List Tree) :
    (scope.functionProgram hosts token children).run evaluate =
      scope.functionValue evaluate token children := by
  unfold functionProgram functionValue
  cases scope.functionOf? token with
  | none => rfl
  | some function => simp [run_operandsProgram, run_applyFunctionProgram hhosts]

theorem run_indexProgram (token : Token) (children : List Tree) :
    (indexProgram token children).run evaluate = indexValue evaluate token children := by
  unfold indexProgram indexValue
  split <;> simp

theorem run_fieldProgram (token : Token) (children : List Tree) :
    (fieldProgram token children).run evaluate = fieldValue evaluate token children := by
  unfold fieldProgram fieldValue
  split <;> simp

/-- If every question is answered by evaluating the tree, the program has the value of the step. -/
theorem run_program (hhosts : scope.Follows hosts) (tree : Tree) :
    (scope.program hosts tree).run evaluate = scope.step evaluate tree := by
  simp only [program, step]
  cases tree.token.kind with
  | name => exact run_namedProgram tree.token
  | prefixOperator => exact run_operatorProgram hhosts tree.token tree.children
  | postfixOperator => exact run_operatorProgram hhosts tree.token tree.children
  | infixOperator => exact run_operatorProgram hhosts tree.token tree.children
  | function => exact run_functionProgram hhosts tree.token tree.children
  | arrayIndex => exact run_indexProgram tree.token tree.children
  | separator => exact run_fieldProgram tree.token tree.children
  | _ => rfl

end Scope
end Formula

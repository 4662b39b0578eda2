-- SUMMARY: The built-in operators and functions do not see what the tokens in their operands are bound to.
import Formula.Proofs.Evaluation.Contents
import Formula.Proofs.Evaluation.Reports
import Formula.Proofs.Value.Bindings

/-!
# Built-in actions and bindings

An operand can be a tree. A built-in action evaluates it, or reads it like any other value, and then
its bindings make no difference (`Value.rebind`). The bindings of the token that is evaluated make no
difference either, as errors do not show them.
-/

namespace Formula

variable {binding : Token → Option Binding} {token : Token} {operands arguments : List Value}
  {context : CallContext}

/-! ## Tokens -/

/-- Errors do not show the binding of their token. -/
theorem Parallel.eq_of_rebind {enough : Prop} {α : Type} {first second : Except EvalError α}
    (h : Parallel enough token (token.rebind binding) first second) : second = first := by
  refine (Related.eq (h.mono ?_ fun _ _ => id)).symm
  rintro _ _ ⟨fault, _, rfl, rfl⟩
  cases fault <;> rfl

/-! ## Arguments -/

namespace Token

@[simp] theorem textArgument_rebind (index : Nat) :
    token.textArgument (arguments.map (Value.rebind binding)) index =
      token.textArgument arguments index := by
  simp only [textArgument, List.getElem?_map]
  cases arguments[index]? with
  | none => rfl
  | some value => exact congrArg Except.ok value.toText_rebind

@[simp] theorem numberArgument_rebind (index : Nat) :
    token.numberArgument (arguments.map (Value.rebind binding)) index =
      token.numberArgument arguments index := by
  simp only [numberArgument, List.getElem?_map]
  cases arguments[index]? with
  | none => rfl
  | some value => cases value <;> rfl

@[simp] theorem integerArgument_rebind (index : Nat) :
    token.integerArgument (arguments.map (Value.rebind binding)) index =
      token.integerArgument arguments index := by
  rw [integerArgument, numberArgument_rebind, integerArgument]

end Token

theorem Parameter.faultOf_rebind (parameter : Parameter) (value : Value) :
    parameter.faultOf (value.rebind binding) = parameter.faultOf value := by
  cases value <;> rfl

theorem Signature.checkFrom_rebind (signature : Signature) (index : Nat) :
    signature.checkFrom token index (arguments.map (Value.rebind binding)) =
      signature.checkFrom token index arguments := by
  induction arguments generalizing index with
  | nil => rfl
  | cons argument rest ih =>
    simp only [List.map_cons, checkFrom, Parameter.faultOf_rebind, ih]

theorem Signature.check_rebind (signature : Signature) :
    signature.check (token.rebind binding) (arguments.map (Value.rebind binding)) =
      signature.check token arguments := by
  have htoken : Parallel False token (token.rebind binding) (signature.check token arguments)
      (signature.check (token.rebind binding) arguments) :=
    signature.check_parallel arguments
  rw [← htoken.eq_of_rebind]
  exact signature.checkFrom_rebind 0

namespace BuiltIn

open Token (textArgument_rebind numberArgument_rebind integerArgument_rebind)

/-! ## Operators -/

theorem onNumbers_rebind (operation : Decimal → Decimal → Except EvalError Decimal) :
    onNumbers token (operands.map (Value.rebind binding)) operation =
      onNumbers token operands operation := by
  match operands with
  | [] | [_] | _ :: _ :: _ :: _ => simp [onNumbers, unsupportedOperands, Function.comp_def]
  | [a, b] => cases a <;> cases b <;> rfl

theorem add_rebind :
    add token (operands.map (Value.rebind binding)) = add token operands := by
  match operands with
  | [] | [_] | _ :: _ :: _ :: _ => simp [add, unsupportedOperands, Function.comp_def]
  | [a, b] =>
    have hleft : ∀ text, (.text ((a.rebind binding).toText ++ text) : Value) =
        .text (a.toText ++ text) := by simp
    have hright : ∀ text, (.text (text ++ (b.rebind binding).toText) : Value) =
        .text (text ++ b.toText) := by simp
    cases a <;> cases b <;>
      first | rfl | exact congrArg Except.ok (hleft _) | exact congrArg Except.ok (hright _)

theorem subtract_rebind :
    subtract token (operands.map (Value.rebind binding)) = subtract token operands := by
  match operands with
  | [] | [_] | _ :: _ :: _ :: _ => simp [subtract, unsupportedOperands, Function.comp_def]
  | [a, b] => cases a <;> cases b <;> rfl

theorem negate_rebind :
    negate token (operands.map (Value.rebind binding)) = negate token operands := by
  match operands with
  | [] | _ :: _ :: _ => simp [negate]
  | [a] => cases a <;> rfl

theorem keepSign_rebind :
    keepSign token (operands.map (Value.rebind binding)) = keepSign token operands := by
  match operands with
  | [] | _ :: _ :: _ => simp [keepSign]
  | [a] => cases a <;> rfl

theorem equal_rebind : equal (operands.map (Value.rebind binding)) = equal operands := by
  match operands with
  | [] | [_] | _ :: _ :: _ :: _ => rfl
  | [a, b] => exact a.equal_rebind b

theorem ordered_rebind (accepts : Ordering → Bool) :
    ordered token (operands.map (Value.rebind binding)) accepts =
      ordered token operands accepts := by
  match operands with
  | [] | [_] | _ :: _ :: _ :: _ => rfl
  | [a, b] => simp [ordered]

theorem not_rebind : not (operands.map (Value.rebind binding)) = not operands := by
  cases operands with
  | nil => rfl
  | cons value rest => simp [not]

/-- A built-in operator that evaluates no trees sees no bindings. -/
theorem applyOperator_rebind {host : Array Behaviour} {action : OperatorAction}
    (heager : isEagerOperator action = true) :
    applyOperator host context (token.rebind binding) action
        (operands.map (Value.rebind binding)) =
      applyOperator host context token action operands := by
  have htoken : Parallel False token (token.rebind binding)
      (applyOperator host context token action operands)
      (applyOperator host context (token.rebind binding) action operands) :=
    applyOperator_parallel heager False.elim
  rw [← htoken.eq_of_rebind]
  cases action with
  | add => exact add_rebind
  | subtract => exact subtract_rebind
  | multiply | divide | remainder | power => exact onNumbers_rebind _
  | negate => exact negate_rebind
  | keepSign => exact keepSign_rebind
  | equal | notEqual => simp only [applyOperator, equal_rebind]
  | less | lessOrEqual | greater | greaterOrEqual =>
    simp only [applyOperator]
    exact ordered_rebind _
  | not => exact congrArg Except.ok not_rebind
  | and | or | host => cases heager

/-! ## Functions on numbers -/

mutual

theorem numbersOf_rebind : ∀ value : Value,
    numbersOf token (value.rebind binding) = numbersOf token value
  | .array items => numbersOfItems_rebind items
  | .number _ | .text _ | .boolean _ | .record _ | .instant _ | .span _ | .binary _ | .null
  | .tree _ => rfl

theorem numbersOfItems_rebind : ∀ items : List Value,
    numbersOfAll token (Value.rebindItems binding items) = numbersOfAll token items
  | [] => rfl
  | item :: rest => by
    simp only [Value.rebindItems, numbersOfAll, numbersOf_rebind item, numbersOfItems_rebind rest]

end

theorem numbersOfAll_rebind :
    numbersOfAll token (arguments.map (Value.rebind binding)) = numbersOfAll token arguments := by
  rw [← Value.rebindItems_eq, numbersOfItems_rebind]

/-! ## Functions on time -/

theorem instantArgument_rebind (index : Nat) :
    instantArgument token (arguments.map (Value.rebind binding)) index =
      instantArgument token arguments index := by
  simp only [instantArgument, List.getElem?_map]
  cases arguments[index]? with
  | none => rfl
  | some value => cases value <;> rfl

theorem spanArgument_rebind (index : Nat) :
    spanArgument token (arguments.map (Value.rebind binding)) index =
      spanArgument token arguments index := by
  simp only [spanArgument, List.getElem?_map]
  cases arguments[index]? with
  | none => rfl
  | some value => cases value <;> rfl

theorem partArgument_rebind (index : Nat) (name : String) :
    partArgument token (arguments.map (Value.rebind binding)) index name =
      partArgument token arguments index name := by
  simp only [partArgument, List.length_map, integerArgument_rebind]

theorem dateArguments_rebind :
    dateArguments token (arguments.map (Value.rebind binding)) =
      dateArguments token arguments := by
  simp only [dateArguments, integerArgument_rebind, partArgument_rebind]

theorem dateParse_rebind :
    dateParse context token (arguments.map (Value.rebind binding)) =
      dateParse context token arguments := by
  simp only [dateParse, textArgument_rebind, ← List.map_drop]
  cases arguments.drop 1 with
  | nil => rfl
  | cons format formats => simp [Function.comp_def]

theorem dateFormat_rebind :
    dateFormat context token (arguments.map (Value.rebind binding)) =
      dateFormat context token arguments := by
  simp only [dateFormat, List.length_map, instantArgument_rebind, List.getElem?_map]
  cases arguments[1]? with
  | none => rfl
  | some format => simp only [Option.map_some, Value.toText_rebind]

theorem addUnits_rebind (units : List Nat) (index : Nat) (total : Span) :
    addUnits token (arguments.map (Value.rebind binding)) units index total =
      addUnits token arguments units index total := by
  induction units generalizing index total with
  | nil => rfl
  | cons unit units ih =>
    simp only [addUnits, List.length_map, integerArgument_rebind, ih]

/-! ## All functions -/

/-- The actions that hand on no argument are eager. -/
theorem isEager_of_handsOn {action : FunctionAction} (haction : handsOn action = false) :
    isEager action = true := by
  cases action <;> first | rfl | cases haction

/-- A built-in function sees no bindings, unless it hands on an argument. -/
theorem applyFunction_rebind {host : Array Behaviour} {action : FunctionAction}
    (haction : handsOn action = false) :
    applyFunction host context (token.rebind binding) action
        (arguments.map (Value.rebind binding)) =
      applyFunction host context token action arguments := by
  have htoken : Parallel False token (token.rebind binding)
      (applyFunction host context token action arguments)
      (applyFunction host context (token.rebind binding) action arguments) :=
    applyFunction_parallel (isEager_of_handsOn haction) rfl rfl rfl False.elim
  rw [← htoken.eq_of_rebind]
  cases action with
  | coalesce | choose | switch | host => cases haction
  | random | now | today => rfl
  | not => exact congrArg Except.ok not_rebind
  | dateParse => exact dateParse_rebind
  | dateFormat => exact dateFormat_rebind
  | _ =>
    simp only [applyFunction, mapNumber, mapNumber?, mapFloat, mapText, relateTexts, takePart,
      round, factorial, sum, average, extreme, angleOf, substring, split, matchesPattern, dateNew,
      dateToEpoch, durationNew, durationOfMillis, durationToMillis, List.length_map,
      textArgument_rebind, numberArgument_rebind, integerArgument_rebind, numbersOfAll_rebind,
      instantArgument_rebind, spanArgument_rebind, partArgument_rebind, dateArguments_rebind,
      addUnits_rebind]

/-- What is handed on keeps its bindings. -/
theorem coalesce_rebind :
    coalesce (arguments.map (Value.rebind binding)) = (coalesce arguments).rebind binding := by
  have hsame : (fun value : Value => !value.isNull) ∘ Value.rebind binding =
      fun value => !value.isNull := by
    funext value
    simp
  rw [coalesce, List.find?_map, hsame, coalesce]
  cases arguments.find? (!·.isNull) <;> rfl

end BuiltIn
end Formula

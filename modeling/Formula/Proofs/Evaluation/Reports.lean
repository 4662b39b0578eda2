-- SUMMARY: What the built-in operators and functions report: the same at every token, and nothing about missing operands if there are enough.
import Formula.Evaluation
import Formula.Proofs.Result

/-!
# Reports of the built-in actions

A built-in operator or function uses its token only to report what is wrong. So its results at two
tokens in the same place are the same value, or report the same fault (`Parallel`). Each action reads
a number of arguments; if there are as many, it does not miss any.
-/

namespace Formula

/-! ## Faults -/

/-- What an operator or function can find wrong with what it gets. -/
inductive CallFault where
  | type (fault : TypeFault)
  | arithmetic (fault : ArithmeticFault)
  | parameter (name : String) (fault : ParameterFault)

namespace CallFault

/-- The error that reports the fault at a token. -/
def errorAt (fault : CallFault) (token : Token) : EvalError :=
  match fault with
  | type fault => token.unsupported fault
  | arithmetic fault => token.arithmetic fault
  | parameter name fault => token.invalidParameter name fault

/-- Whether the fault is in the number of operands. -/
def isMiscount : CallFault → Bool
  | type (.missingArgument _) | type .oneOperandExpected | type .twoOperandsExpected => true
  | _ => false

end CallFault

/-- The errors report one fault at two tokens. With enough operands, their number is no fault. -/
def Reported (enough : Prop) (token token' : Token) (error error' : EvalError) : Prop :=
  ∃ fault : CallFault, (enough → fault.isMiscount = false) ∧ error = fault.errorAt token ∧
    error' = fault.errorAt token'

/-- The results are one value, or report one fault at two tokens. -/
def Parallel (enough : Prop) (token token' : Token) {α : Type} :
    Except EvalError α → Except EvalError α → Prop :=
  Related (Reported enough token token') Eq

namespace Parallel

variable {enough : Prop} {token token' : Token} {α β : Type}

theorem ok (value : α) : Parallel enough token token' (.ok value) (.ok value) :=
  Related.ok rfl

theorem fault (fault : CallFault) (h : enough → fault.isMiscount = false) :
    Parallel enough token token' (.error (fault.errorAt token) : Except EvalError α)
      (.error (fault.errorAt token')) :=
  Related.error ⟨fault, h, rfl, rfl⟩

theorem type (fault : TypeFault) (h : enough → (CallFault.type fault).isMiscount = false) :
    Parallel enough token token' (.error (token.unsupported fault) : Except EvalError α)
      (.error (token'.unsupported fault)) :=
  Parallel.fault (.type fault) h

theorem arithmetic (fault : ArithmeticFault) :
    Parallel enough token token' (.error (token.arithmetic fault) : Except EvalError α)
      (.error (token'.arithmetic fault)) :=
  Parallel.fault (.arithmetic fault) fun _ => rfl

theorem parameter (name : String) (fault : ParameterFault) :
    Parallel enough token token' (.error (token.invalidParameter name fault) : Except EvalError α)
      (.error (token'.invalidParameter name fault)) :=
  Parallel.fault (.parameter name fault) fun _ => rfl

theorem bind {first second : Except EvalError α} {f g : α → Except EvalError β}
    (h : Parallel enough token token' first second)
    (hnext : ∀ a, Parallel enough token token' (f a) (g a)) :
    Parallel enough token token' (first >>= f) (second >>= g) := by
  refine Related.bind h fun a b hab => ?_
  subst hab
  exact hnext a

/-- What follows a computation may be a value in any case. -/
theorem value {first second : Except EvalError α} (h : Parallel enough token token' first second)
    (f : α → β) :
    Parallel enough token token' (first >>= fun a => .ok (f a)) (second >>= fun a => .ok (f a)) :=
  h.bind fun a => .ok (f a)

theorem foldlM {f g : β → α → Except EvalError β}
    (h : ∀ b a, Parallel enough token token' (f b a) (g b a)) (as : List α) (b : β) :
    Parallel enough token token' (as.foldlM f b) (as.foldlM g b) := by
  induction as generalizing b with
  | nil => exact .ok b
  | cons a as ih =>
    rw [List.foldlM_cons, List.foldlM_cons]
    exact (h b a).bind ih

end Parallel

/-! ## Arguments -/

section Calls

variable {enough : Prop} {token token' : Token} {arguments operands : List Value} {index : Nat}
  {context context' : CallContext}

namespace Token

theorem orFault_parallel {α : Type} (fault : ArithmeticFault) (result : Option α) :
    Parallel enough token token' (token.orFault fault result) (token'.orFault fault result) := by
  cases result with
  | some value => exact .ok value
  | none => exact .arithmetic fault

/-- An argument that is read is not missing if there are enough. -/
theorem missing_parallel {α : Type} (hcount : enough → index < arguments.length)
    (hnone : arguments[index]? = none) :
    Parallel enough token token'
      (.error (token.unsupported (.missingArgument index)) : Except EvalError α)
      (.error (token'.unsupported (.missingArgument index))) := by
  refine .type _ fun henough => ?_
  have := hcount henough
  have := List.getElem?_eq_none_iff.mp hnone
  omega

theorem textArgument_parallel (hcount : enough → index < arguments.length) :
    Parallel enough token token' (token.textArgument arguments index)
      (token'.textArgument arguments index) := by
  unfold textArgument
  split
  · exact .ok _
  · rename_i hnone
    exact missing_parallel hcount hnone

theorem numberArgument_parallel (hcount : enough → index < arguments.length) :
    Parallel enough token token' (token.numberArgument arguments index)
      (token'.numberArgument arguments index) := by
  unfold numberArgument
  split
  · exact .ok _
  · exact .type _ fun _ => rfl
  · rename_i hnone
    exact missing_parallel hcount hnone

theorem integerArgument_parallel (hcount : enough → index < arguments.length) :
    Parallel enough token token' (token.integerArgument arguments index)
      (token'.integerArgument arguments index) :=
  (numberArgument_parallel hcount).bind fun _ => orFault_parallel _ _

end Token

theorem Signature.check_parallel (signature : Signature) (arguments : List Value) :
    Parallel enough token token' (signature.check token arguments)
      (signature.check token' arguments) := by
  suffices h : ∀ index, Parallel enough token token' (signature.checkFrom token index arguments)
      (signature.checkFrom token' index arguments) from h 0
  induction arguments with
  | nil => exact fun _ => .ok ()
  | cons argument rest ih =>
    intro index
    simp only [checkFrom]
    split
    · exact ih _
    · split
      · exact .parameter _ _
      · exact ih _

namespace BuiltIn

open Token (orFault_parallel textArgument_parallel numberArgument_parallel
  integerArgument_parallel missing_parallel)

/-! ## Operators -/

theorem onNumbers_parallel {operation operation' : Decimal → Decimal → Except EvalError Decimal}
    (h : ∀ a b, Parallel enough token token' (operation a b) (operation' a b)) :
    Parallel enough token token' (onNumbers token operands operation)
      (onNumbers token' operands operation') := by
  unfold onNumbers
  split
  · exact (h _ _).value _
  · exact .type _ fun _ => rfl

theorem millisSpan_parallel (n : Decimal) :
    Parallel enough token token' (millisSpan token n) (millisSpan token' n) :=
  orFault_parallel _ _

theorem add_parallel :
    Parallel enough token token' (add token operands) (add token' operands) := by
  unfold add
  split
  · exact (orFault_parallel _ _).value _
  · exact (orFault_parallel _ _).value _
  · exact (orFault_parallel _ _).value _
  · exact (orFault_parallel _ _).value _
  · exact (millisSpan_parallel _).bind fun _ => (orFault_parallel _ _).value _
  · exact .ok _
  · exact .ok _
  · exact .type _ fun _ => rfl

theorem subtract_parallel :
    Parallel enough token token' (subtract token operands) (subtract token' operands) := by
  unfold subtract
  split
  · exact (orFault_parallel _ _).value _
  · exact .ok _
  · exact (orFault_parallel _ _).value _
  · exact (orFault_parallel _ _).value _
  · exact (millisSpan_parallel _).bind fun _ => (orFault_parallel _ _).value _
  · exact .type _ fun _ => rfl

/-- An operation that divides by the second number. -/
theorem byDivisor_parallel (operation : Decimal → Decimal → Option Decimal) (a b : Decimal) :
    Parallel enough token token'
      (if b.isZero then .error (token.arithmetic .divisionByZero)
        else token.orFault .overflow (operation a b))
      (if b.isZero then .error (token'.arithmetic .divisionByZero)
        else token'.orFault .overflow (operation a b)) := by
  split
  · exact .arithmetic _
  · exact orFault_parallel _ _

theorem power_parallel (a b : Decimal) :
    Parallel enough token token' (power token a b) (power token' a b) := by
  unfold power
  split
  · exact .ok _
  · exact .arithmetic _

theorem negate_parallel (hcount : enough → operands.length = 1) :
    Parallel enough token token' (negate token operands) (negate token' operands) := by
  unfold negate
  split
  · exact .ok _
  · exact .ok _
  · exact .type _ fun _ => rfl
  · rename_i hother
    refine .type _ fun henough => ?_
    obtain ⟨operand, rfl⟩ := List.length_eq_one_iff.mp (hcount henough)
    exact absurd rfl (hother operand)

theorem keepSign_parallel (hcount : enough → operands.length = 1) :
    Parallel enough token token' (keepSign token operands) (keepSign token' operands) := by
  unfold keepSign
  split
  · exact .ok _
  · exact .type _ fun _ => rfl
  · rename_i hother
    refine .type _ fun henough => ?_
    obtain ⟨operand, rfl⟩ := List.length_eq_one_iff.mp (hcount henough)
    exact absurd rfl (hother operand)

theorem ordered_parallel (hcount : enough → operands.length = 2) (accepts : Ordering → Bool) :
    Parallel enough token token' (ordered token operands accepts)
      (ordered token' operands accepts) := by
  unfold ordered
  split
  · split
    · exact .type _ fun _ => rfl
    · exact .ok _
  · rename_i hother
    refine .type _ fun henough => ?_
    have hlength := hcount henough
    match operands with
    | [left, right] => exact absurd rfl (hother left right)

/-- How many operands an action takes. -/
def operandCount : OperatorAction → Nat
  | .negate | .keepSign | .not => 1
  | _ => 2

/-- Whether an action gets its operands as values and is not one of the host. -/
def isEagerOperator : OperatorAction → Bool
  | .and | .or | .host _ => false
  | _ => true

/-- The built-in operators that get values report the same at every token. -/
theorem applyOperator_parallel {host : Array Behaviour} {action : OperatorAction}
    (heager : isEagerOperator action = true)
    (hcount : enough → operands.length = operandCount action) :
    Parallel enough token token' (applyOperator host context token action operands)
      (applyOperator host context' token' action operands) := by
  cases action with
  | add => exact add_parallel
  | subtract => exact subtract_parallel
  | multiply => exact onNumbers_parallel fun _ _ => orFault_parallel _ _
  | divide => exact onNumbers_parallel (byDivisor_parallel Decimal.div?)
  | remainder => exact onNumbers_parallel (byDivisor_parallel Decimal.rem?)
  | power => exact onNumbers_parallel power_parallel
  | negate => exact negate_parallel hcount
  | keepSign => exact keepSign_parallel hcount
  | less | lessOrEqual | greater | greaterOrEqual =>
    simp only [applyOperator]
    exact ordered_parallel hcount _
  | equal | notEqual | not => exact .ok _
  | and | or | host number => cases heager

/-! ## Functions on numbers -/

mutual

theorem numbersOf_parallel : ∀ value : Value,
    Parallel enough token token' (numbersOf token value) (numbersOf token' value)
  | .number n => .ok [n]
  | .array items => numbersOfAll_parallel items
  | .text _ => .type _ fun _ => rfl
  | .boolean _ => .type _ fun _ => rfl
  | .record _ => .type _ fun _ => rfl
  | .instant _ => .type _ fun _ => rfl
  | .span _ => .type _ fun _ => rfl
  | .binary _ => .type _ fun _ => rfl
  | .null => .type _ fun _ => rfl
  | .tree _ => .type _ fun _ => rfl

theorem numbersOfAll_parallel : ∀ values : List Value,
    Parallel enough token token' (numbersOfAll token values) (numbersOfAll token' values)
  | [] => .ok []
  | value :: rest => (numbersOf_parallel value).bind fun _ => (numbersOfAll_parallel rest).value _

end

theorem sumNumbers_parallel (numbers : List Decimal) :
    Parallel enough token token' (sumNumbers token numbers) (sumNumbers token' numbers) :=
  .foldlM (fun _ _ => orFault_parallel _ _) numbers _

theorem sum_parallel : Parallel enough token token' (sum token arguments) (sum token' arguments) :=
  (numbersOfAll_parallel _).bind fun _ => (sumNumbers_parallel _).value _

theorem average_parallel :
    Parallel enough token token' (average token arguments) (average token' arguments) := by
  refine (numbersOfAll_parallel _).bind fun numbers => ?_
  split
  · exact .parameter _ _
  · exact (sumNumbers_parallel _).bind fun _ => (orFault_parallel _ _).bind fun _ =>
      (orFault_parallel _ _).value _

theorem extreme_parallel (better : Decimal → Decimal → Bool) :
    Parallel enough token token' (extreme token arguments better)
      (extreme token' arguments better) := by
  refine (numbersOfAll_parallel _).bind fun numbers => ?_
  split
  · exact .ok _
  · exact .parameter _ _

theorem roundNumber_parallel (rounding : RoundingMode) (value : Decimal) (scale : Int) :
    Parallel enough token token' (roundNumber token rounding value scale)
      (roundNumber token' rounding value scale) := by
  unfold roundNumber
  split
  · exact .ok _
  · split
    · exact .parameter _ _
    · exact (orFault_parallel _ _).bind fun _ => orFault_parallel _ _

theorem round_parallel (hcontext : context'.settings = context.settings)
    (hcount : enough → 2 ≤ arguments.length) :
    Parallel enough token token' (round context token arguments)
      (round context' token' arguments) := by
  unfold round
  rw [hcontext]
  exact (numberArgument_parallel fun henough => by have := hcount henough; omega).bind fun _ =>
    (integerArgument_parallel fun henough => by have := hcount henough; omega).bind fun _ =>
      (roundNumber_parallel _ _ _).value _

theorem factorial_parallel (hcount : enough → 1 ≤ arguments.length) :
    Parallel enough token token' (factorial token arguments) (factorial token' arguments) :=
  (integerArgument_parallel hcount).bind fun _ => (orFault_parallel _ _).value _

theorem mapNumber_parallel (hcount : enough → 1 ≤ arguments.length) (f : Decimal → Decimal) :
    Parallel enough token token' (mapNumber token arguments f) (mapNumber token' arguments f) :=
  (numberArgument_parallel hcount).value _

theorem mapNumber?_parallel (hcount : enough → 1 ≤ arguments.length) (fault : ArithmeticFault)
    (f : Decimal → Option Decimal) :
    Parallel enough token token' (mapNumber? token arguments fault f)
      (mapNumber? token' arguments fault f) :=
  (numberArgument_parallel hcount).bind fun _ => (orFault_parallel _ _).value _

theorem finite_parallel (x : Float) :
    Parallel enough token token' (finite token x) (finite token' x) :=
  (orFault_parallel _ _).value _

theorem mapFloat_parallel (hcount : enough → 1 ≤ arguments.length) (f : Float → Float) :
    Parallel enough token token' (mapFloat token arguments f) (mapFloat token' arguments f) :=
  (numberArgument_parallel hcount).bind fun _ => finite_parallel _

theorem angleOf_parallel (hcount : enough → 2 ≤ arguments.length) :
    Parallel enough token token' (angleOf token arguments) (angleOf token' arguments) :=
  (numberArgument_parallel fun henough => by have := hcount henough; omega).bind fun _ =>
    (numberArgument_parallel fun henough => by have := hcount henough; omega).bind fun _ =>
      finite_parallel _

theorem random_parallel (hcontext : context'.ambient = context.ambient)
    (hposition : token'.position = token.position) :
    Parallel enough token token' (random context token) (random context' token') := by
  unfold random
  rw [hcontext, hposition]
  exact (orFault_parallel _ _).value _

/-! ## Functions on text -/

theorem mapText_parallel (hcount : enough → 1 ≤ arguments.length) (f : String → Value) :
    Parallel enough token token' (mapText token arguments f) (mapText token' arguments f) :=
  (textArgument_parallel hcount).value _

theorem relateTexts_parallel (hcount : enough → 2 ≤ arguments.length)
    (relation : List Char → List Char → Bool) :
    Parallel enough token token' (relateTexts token arguments relation)
      (relateTexts token' arguments relation) :=
  (textArgument_parallel fun henough => by have := hcount henough; omega).bind fun _ =>
    (textArgument_parallel fun henough => by have := hcount henough; omega).value _

theorem takePart_parallel (hcount : enough → 2 ≤ arguments.length)
    (part : List Char → Int → List Char) :
    Parallel enough token token' (takePart token arguments part)
      (takePart token' arguments part) :=
  (textArgument_parallel fun henough => by have := hcount henough; omega).bind fun _ =>
    (integerArgument_parallel fun henough => by have := hcount henough; omega).value _

theorem slice_parallel (text : List Char) (start : Int) (stop : Option Int) :
    Parallel enough token token' (slice token text start stop) (slice token' text start stop) := by
  unfold slice
  split
  · exact .parameter _ _
  · split
    · exact .ok _
    · split
      · exact .parameter _ _
      · exact .ok _

theorem substring_parallel (hcount : enough → 2 ≤ arguments.length) :
    Parallel enough token token' (substring token arguments) (substring token' arguments) := by
  unfold substring
  dsimp only
  split
  · exact .parameter _ _
  · refine (textArgument_parallel fun henough => by have := hcount henough; omega).bind fun _ =>
      (integerArgument_parallel fun henough => by have := hcount henough; omega).bind fun _ => ?_
    split
    · exact .parameter _ _
    · split
      · exact ((integerArgument_parallel fun _ => by omega).value some).bind fun _ =>
          (slice_parallel _ _ _).value _
      · exact (slice_parallel _ _ _).value _

theorem split_parallel (hcount : enough → 2 ≤ arguments.length) :
    Parallel enough token token' (split token arguments) (split token' arguments) :=
  (textArgument_parallel fun henough => by have := hcount henough; omega).bind fun _ =>
    (textArgument_parallel fun henough => by have := hcount henough; omega).value _

theorem matchesPattern_parallel (hcount : enough → 2 ≤ arguments.length) :
    Parallel enough token token' (matchesPattern token arguments)
      (matchesPattern token' arguments) := by
  refine (textArgument_parallel fun henough => by have := hcount henough; omega).bind fun _ =>
    (textArgument_parallel fun henough => by have := hcount henough; omega).bind fun _ => ?_
  split
  · exact .ok _
  · exact .parameter _ _

/-! ## Functions on time -/

theorem instantArgument_parallel (hcount : enough → index < arguments.length) :
    Parallel enough token token' (instantArgument token arguments index)
      (instantArgument token' arguments index) := by
  unfold instantArgument
  split
  · exact .ok _
  · exact .type _ fun _ => rfl
  · rename_i hnone
    exact missing_parallel hcount hnone

theorem spanArgument_parallel (hcount : enough → index < arguments.length) :
    Parallel enough token token' (spanArgument token arguments index)
      (spanArgument token' arguments index) := by
  unfold spanArgument
  split
  · exact .ok _
  · exact .type _ fun _ => rfl
  · rename_i hnone
    exact missing_parallel hcount hnone

theorem partArgument_parallel (index : Nat) (name : String) :
    Parallel enough token token' (partArgument token arguments index name)
      (partArgument token' arguments index name) := by
  unfold partArgument
  split
  · exact .ok _
  · refine (integerArgument_parallel fun _ => by omega).bind fun n => ?_
    split
    · exact .ok _
    · exact .parameter _ _

theorem inZone_parallel (hcontext : context'.settings = context.settings) (time : LocalTime) :
    Parallel enough token token' (inZone context token time) (inZone context' token' time) := by
  unfold inZone
  rw [hcontext]
  exact (orFault_parallel _ _).value _

theorem dateArguments_parallel (hcount : enough → 1 ≤ arguments.length) :
    Parallel enough token token' (dateArguments token arguments)
      (dateArguments token' arguments) := by
  refine (integerArgument_parallel hcount).bind fun year => ?_
  split
  · exact .parameter _ _
  · refine (partArgument_parallel _ _).bind fun month => (partArgument_parallel _ _).bind
      fun day => ?_
    dsimp only
    split
    · exact .ok _
    · exact .parameter _ _

theorem dateNew_parallel (hcontext : context'.settings = context.settings)
    (hcount : enough → 1 ≤ arguments.length) :
    Parallel enough token token' (dateNew context token arguments)
      (dateNew context' token' arguments) := by
  unfold dateNew
  dsimp only
  split
  · exact .parameter _ _
  · refine (dateArguments_parallel hcount).bind fun date => (partArgument_parallel _ _).bind
      fun hour => (partArgument_parallel _ _).bind fun minute => (partArgument_parallel _ _).bind
      fun second => (partArgument_parallel _ _).bind fun nanos => ?_
    split
    · exact inZone_parallel hcontext _
    · exact .parameter _ _

theorem readDate_parallel (hcontext : context'.settings = context.settings) (text : List Char)
    (formats : List String) :
    Parallel enough token token' (readDate context token text formats)
      (readDate context' token' text formats) := by
  unfold readDate
  split
  · exact .ok _
  · exact inZone_parallel hcontext _
  · exact .parameter _ _

theorem dateParse_parallel (hcontext : context'.settings = context.settings)
    (hcount : enough → 1 ≤ arguments.length) :
    Parallel enough token token' (dateParse context token arguments)
      (dateParse context' token' arguments) := by
  refine (textArgument_parallel hcount).bind fun text => ?_
  simp only
  split
  · split
    · exact .ok _
    · exact readDate_parallel hcontext _ _
  · exact readDate_parallel hcontext _ _

theorem dateFormat_parallel (hcontext : context'.settings = context.settings)
    (hcount : enough → 1 ≤ arguments.length) :
    Parallel enough token token' (dateFormat context token arguments)
      (dateFormat context' token' arguments) := by
  unfold dateFormat
  rw [hcontext]
  dsimp only
  split
  · exact .parameter _ _
  · refine (instantArgument_parallel hcount).bind fun instant => ?_
    split
    · exact .ok _
    · split
      · exact .ok _
      · exact .parameter _ _

theorem dateToEpoch_parallel (hcount : enough → 1 ≤ arguments.length) :
    Parallel enough token token' (dateToEpoch token arguments) (dateToEpoch token' arguments) :=
  (instantArgument_parallel hcount).value _

theorem addUnits_parallel (units : List Nat) (index : Nat) (total : Span) :
    Parallel enough token token' (addUnits token arguments units index total)
      (addUnits token' arguments units index total) := by
  induction units generalizing index total with
  | nil => exact .ok total
  | cons unit units ih =>
    simp only [addUnits]
    split
    · exact .ok total
    · refine (integerArgument_parallel fun _ => by omega).bind fun count => ?_
      split
      · exact ih _ _
      · exact .parameter _ _

theorem durationNew_parallel :
    Parallel enough token token' (durationNew token arguments) (durationNew token' arguments) := by
  unfold durationNew
  dsimp only
  split
  · exact .parameter _ _
  · exact (addUnits_parallel _ _ _).value _

theorem durationOfMillis_parallel (hcount : enough → 1 ≤ arguments.length) :
    Parallel enough token token' (durationOfMillis token arguments)
      (durationOfMillis token' arguments) := by
  refine (integerArgument_parallel hcount).bind fun millis => ?_
  split
  · exact .ok _
  · exact .parameter _ _

theorem durationToMillis_parallel (hcount : enough → 1 ≤ arguments.length) :
    Parallel enough token token' (durationToMillis token arguments)
      (durationToMillis token' arguments) :=
  (spanArgument_parallel hcount).value _

/-! ## All functions -/

/-- How many arguments an action reads in any case. -/
def required : FunctionAction → Nat
  | .sum | .average | .min | .max | .random | .not | .coalesce | .choose | .switch | .now | .today
  | .durationNew | .host _ => 0
  | .round | .atan2 | .contains | .startsWith | .endsWith | .left | .right | .substring | .split
  | .matchesPattern => 2
  | _ => 1

/-- Whether an action gets no trees and is not one of the host. -/
def isEager : FunctionAction → Bool
  | .choose | .switch | .host _ => false
  | _ => true

/-- The built-in functions that get values report the same at every token in one place. -/
theorem applyFunction_parallel {host : Array Behaviour} {action : FunctionAction}
    (heager : isEager action = true) (hsettings : context'.settings = context.settings)
    (hambient : context'.ambient = context.ambient)
    (hposition : token'.position = token.position)
    (hcount : enough → required action ≤ arguments.length) :
    Parallel enough token token' (applyFunction host context token action arguments)
      (applyFunction host context' token' action arguments) := by
  cases action with
  | choose | switch | host => cases heager
  | abs | ceiling | floor =>
    simp only [applyFunction]
    exact mapNumber_parallel hcount _
  | round => exact round_parallel hsettings hcount
  | sqrt | ln | log10 =>
    simp only [applyFunction]
    exact mapNumber?_parallel hcount _ _
  | factorial => exact factorial_parallel hcount
  | sum => exact sum_parallel
  | average => exact average_parallel
  | min | max =>
    simp only [applyFunction]
    exact extreme_parallel _
  | random => exact random_parallel hambient hposition
  | not | coalesce => exact .ok _
  | sin | cos | tan | asin | acos | atan | sinh | cosh | tanh | radians | degrees =>
    simp only [applyFunction]
    exact mapFloat_parallel hcount _
  | atan2 => exact angleOf_parallel hcount
  | contains | startsWith | endsWith =>
    simp only [applyFunction]
    exact relateTexts_parallel hcount _
  | lower | upper | trim | length =>
    simp only [applyFunction]
    exact mapText_parallel hcount _
  | left | right =>
    simp only [applyFunction]
    exact takePart_parallel hcount _
  | substring => exact substring_parallel hcount
  | split => exact split_parallel hcount
  | matchesPattern => exact matchesPattern_parallel hcount
  | dateNew => exact dateNew_parallel hsettings hcount
  | dateParse => exact dateParse_parallel hsettings hcount
  | dateFormat => exact dateFormat_parallel hsettings hcount
  | dateToEpoch => exact dateToEpoch_parallel hcount
  | now =>
    simp only [applyFunction, hambient]
    exact .ok _
  | today =>
    simp only [applyFunction, today, hambient, hsettings]
    exact inZone_parallel hsettings _
  | durationNew => exact durationNew_parallel
  | durationOfMillis => exact durationOfMillis_parallel hcount
  | durationToMillis => exact durationToMillis_parallel hcount

end BuiltIn

end Calls

end Formula

-- SUMMARY: The trees that a value is or contains, and that the built-in actions put none into what they yield.
import Formula.Evaluation
import Formula.Proofs.Result

/-!
# Trees in values

A value can be a tree that is not evaluated yet, or contain such trees in arrays and records
(`Value.trees`). The built-in actions make no trees. What they yield contains none, but for those
that hand on one of their arguments.
-/

namespace Formula
namespace Value

/-! ## The trees of a value -/

mutual

/-- The trees that a value is or contains. -/
def trees : Value → List Tree
  | tree value => [value]
  | array items => treesOfItems items
  | record fields => treesOfFields fields
  | _ => []

def treesOfItems : List Value → List Tree
  | [] => []
  | item :: rest => trees item ++ treesOfItems rest

def treesOfFields : List (String × Value) → List Tree
  | [] => []
  | (_, value) :: rest => trees value ++ treesOfFields rest

end

/-- A value that is no tree and contains none. -/
def Plain (value : Value) : Prop := value.trees = []

/-- All trees that a value is or contains have the property. -/
def Holds (P : Tree → Prop) (value : Value) : Prop := ∀ tree ∈ value.trees, P tree

variable {P : Tree → Prop}

theorem holds_of_plain {value : Value} (h : value.Plain) : value.Holds P := by
  intro tree htree
  rw [Plain] at h
  rw [h] at htree
  cases htree

theorem holds_tree {tree : Tree} : (Value.tree tree).Holds P ↔ P tree := by
  simp [Holds, trees]

theorem holds_of_mem_array {items : List Value} (h : (array items).Holds P) {item : Value}
    (hitem : item ∈ items) : item.Holds P := by
  simp only [Holds, trees] at h
  induction items with
  | nil => cases hitem
  | cons first rest ih =>
    simp only [treesOfItems] at h
    obtain ⟨hfirst, hrest⟩ := List.forall_mem_append.mp h
    rcases List.mem_cons.mp hitem with rfl | hitem
    · exact hfirst
    · exact ih hrest hitem

theorem holds_of_mem_record {fields : List (String × Value)} (h : (record fields).Holds P)
    {field : String × Value} (hfield : field ∈ fields) : field.2.Holds P := by
  simp only [Holds, trees] at h
  induction fields with
  | nil => cases hfield
  | cons first rest ih =>
    obtain ⟨name, value⟩ := first
    simp only [treesOfFields] at h
    obtain ⟨hfirst, hrest⟩ := List.forall_mem_append.mp h
    rcases List.mem_cons.mp hfield with rfl | hfield
    · exact hfirst
    · exact ih hrest hfield

@[simp] theorem trees_finish (settings : Settings) (value : Value) :
    (value.finish settings).trees = value.trees := by
  cases value <;> rfl

end Value

namespace BuiltIn

variable {token : Token} {operands arguments : List Value} {context : CallContext}

/-! ## Operators -/

theorem onNumbers_plain (operation : Decimal → Decimal → Except EvalError Decimal) :
    Yields Value.Plain (onNumbers token operands operation) := by
  unfold onNumbers
  split
  · exact .last fun _ => .ok rfl
  · exact .error

theorem add_plain : Yields Value.Plain (add token operands) := by
  unfold add
  split
  · exact .last fun _ => .ok rfl
  · exact .last fun _ => .ok rfl
  · exact .last fun _ => .ok rfl
  · exact .last fun _ => .ok rfl
  · exact .last fun _ => .last fun _ => .ok rfl
  · exact .ok rfl
  · exact .ok rfl
  · exact .error

theorem subtract_plain : Yields Value.Plain (subtract token operands) := by
  unfold subtract
  split
  · exact .last fun _ => .ok rfl
  · exact .ok rfl
  · exact .last fun _ => .ok rfl
  · exact .last fun _ => .ok rfl
  · exact .last fun _ => .last fun _ => .ok rfl
  · exact .error

theorem negate_plain : Yields Value.Plain (negate token operands) := by
  unfold negate
  split
  · exact .ok rfl
  · exact .ok rfl
  · exact .error
  · exact .error

theorem keepSign_plain : Yields Value.Plain (keepSign token operands) := by
  unfold keepSign
  split
  · exact .ok rfl
  · exact .error
  · exact .error

theorem ordered_plain (accepts : Ordering → Bool) :
    Yields Value.Plain (ordered token operands accepts) := by
  unfold ordered
  split
  · split
    · exact .error
    · exact .ok rfl
  · exact .error

theorem shortCircuit_plain (decisive : Bool) :
    Yields Value.Plain (shortCircuit context decisive operands) := by
  unfold shortCircuit
  split
  · refine .last fun left => ?_
    split
    · exact .ok rfl
    · exact .last fun _ => .ok rfl
  · exact .ok rfl

theorem not_plain (operands : List Value) : (not operands).Plain := by
  cases operands <;> rfl

/-- The built-in operators yield no trees. -/
theorem applyOperator_plain {host : Array Behaviour} {action : OperatorAction}
    (haction : ∀ number, action ≠ .host number) :
    Yields Value.Plain (applyOperator host context token action operands) := by
  cases action with
  | add => exact add_plain
  | subtract => exact subtract_plain
  | multiply | divide | remainder | power => exact onNumbers_plain _
  | negate => exact negate_plain
  | keepSign => exact keepSign_plain
  | equal | notEqual => exact .ok rfl
  | less | lessOrEqual | greater | greaterOrEqual =>
    simp only [applyOperator]
    exact ordered_plain _
  | and | or => exact shortCircuit_plain _
  | not => exact .ok (not_plain operands)
  | host number => exact absurd rfl (haction number)

/-! ## Functions -/

theorem mapNumber_plain (f : Decimal → Decimal) :
    Yields Value.Plain (mapNumber token arguments f) :=
  .last fun _ => .ok rfl

theorem mapNumber?_plain (fault : ArithmeticFault) (f : Decimal → Option Decimal) :
    Yields Value.Plain (mapNumber? token arguments fault f) :=
  .last fun _ => .last fun _ => .ok rfl

theorem round_plain : Yields Value.Plain (round context token arguments) :=
  .last fun _ => .last fun _ => .last fun _ => .ok rfl

theorem factorial_plain : Yields Value.Plain (factorial token arguments) :=
  .last fun _ => .last fun _ => .ok rfl

theorem sum_plain : Yields Value.Plain (sum token arguments) :=
  .last fun _ => .last fun _ => .ok rfl

theorem average_plain : Yields Value.Plain (average token arguments) := by
  refine .last fun numbers => ?_
  split
  · exact .error
  · exact .last fun _ => .last fun _ => .last fun _ => .ok rfl

theorem extreme_plain (better : Decimal → Decimal → Bool) :
    Yields Value.Plain (extreme token arguments better) := by
  refine .last fun numbers => ?_
  split
  · exact .ok rfl
  · exact .error

theorem random_plain : Yields Value.Plain (random context token) :=
  .last fun _ => .ok rfl

theorem finite_plain (x : Float) : Yields Value.Plain (finite token x) :=
  .last fun _ => .ok rfl

theorem mapFloat_plain (f : Float → Float) : Yields Value.Plain (mapFloat token arguments f) :=
  .last fun _ => finite_plain _

theorem angleOf_plain : Yields Value.Plain (angleOf token arguments) :=
  .last fun _ => .last fun _ => finite_plain _

theorem relateTexts_plain (relation : List Char → List Char → Bool) :
    Yields Value.Plain (relateTexts token arguments relation) :=
  .last fun _ => .last fun _ => .ok rfl

theorem mapText_plain {f : String → Value} (hf : ∀ text, (f text).Plain) :
    Yields Value.Plain (mapText token arguments f) :=
  .last fun text => .ok (hf text)

theorem takePart_plain (part : List Char → Int → List Char) :
    Yields Value.Plain (takePart token arguments part) :=
  .last fun _ => .last fun _ => .ok rfl

theorem substring_plain : Yields Value.Plain (substring token arguments) := by
  unfold substring
  dsimp only
  split
  · exact .error
  · refine .last fun text => .last fun start => ?_
    split
    · exact .error
    · split
      · exact .last fun _ => .last fun _ => .ok rfl
      · exact .last fun _ => .last fun _ => .ok rfl

/-- The parts of a text contain no tree. -/
theorem texts_plain (parts : List (List Char)) :
    (Value.array (parts.map fun part => .text (String.ofList part))).Plain := by
  induction parts with
  | nil => rfl
  | cons part rest ih => exact ih

theorem split_plain : Yields Value.Plain (split token arguments) :=
  .last fun _ => .last fun _ => .ok (texts_plain _)

theorem matchesPattern_plain : Yields Value.Plain (matchesPattern token arguments) := by
  refine .last fun text => .last fun pattern => ?_
  split
  · exact .ok rfl
  · exact .error

theorem inZone_plain (time : LocalTime) : Yields Value.Plain (inZone context token time) :=
  .last fun _ => .ok rfl

theorem dateNew_plain : Yields Value.Plain (dateNew context token arguments) := by
  unfold dateNew
  dsimp only
  split
  · exact .error
  · refine .last fun date => .last fun hour => .last fun minute => .last fun second =>
      .last fun nanos => ?_
    split
    · exact inZone_plain _
    · exact .error

theorem readDate_plain (text : List Char) (formats : List String) :
    Yields Value.Plain (readDate context token text formats) := by
  unfold readDate
  split
  · exact .ok rfl
  · exact inZone_plain _
  · exact .error

theorem dateParse_plain : Yields Value.Plain (dateParse context token arguments) := by
  refine .last fun text => ?_
  simp only
  split
  · split
    · exact .ok rfl
    · exact readDate_plain _ _
  · exact readDate_plain _ _

theorem dateFormat_plain : Yields Value.Plain (dateFormat context token arguments) := by
  unfold dateFormat
  dsimp only
  split
  · exact .error
  · refine .last fun instant => ?_
    split
    · exact .ok rfl
    · split
      · exact .ok rfl
      · exact .error

theorem dateToEpoch_plain : Yields Value.Plain (dateToEpoch token arguments) :=
  .last fun _ => .ok rfl

theorem durationNew_plain : Yields Value.Plain (durationNew token arguments) := by
  unfold durationNew
  dsimp only
  split
  · exact .error
  · exact .last fun _ => .ok rfl

theorem durationOfMillis_plain : Yields Value.Plain (durationOfMillis token arguments) := by
  refine .last fun millis => ?_
  split
  · exact .ok rfl
  · exact .error

theorem durationToMillis_plain : Yields Value.Plain (durationToMillis token arguments) :=
  .last fun _ => .ok rfl

/-- The actions that hand on what they are given. -/
def handsOn : FunctionAction → Bool
  | .coalesce | .choose | .switch | .host _ => true
  | _ => false

/-- The built-in functions yield no trees, but for those that hand on an argument. -/
theorem applyFunction_plain {host : Array Behaviour} {action : FunctionAction}
    (haction : handsOn action = false) :
    Yields Value.Plain (applyFunction host context token action arguments) := by
  cases action with
  | coalesce | choose | switch | host => cases haction
  | abs | ceiling | floor =>
    simp only [applyFunction]
    exact mapNumber_plain _
  | round => exact round_plain
  | sqrt | ln | log10 =>
    simp only [applyFunction]
    exact mapNumber?_plain _ _
  | factorial => exact factorial_plain
  | sum => exact sum_plain
  | average => exact average_plain
  | min | max =>
    simp only [applyFunction]
    exact extreme_plain _
  | random => exact random_plain
  | not => exact .ok (not_plain arguments)
  | sin | cos | tan | asin | acos | atan | sinh | cosh | tanh | radians | degrees =>
    simp only [applyFunction]
    exact mapFloat_plain _
  | atan2 => exact angleOf_plain
  | contains | startsWith | endsWith =>
    simp only [applyFunction]
    exact relateTexts_plain _
  | lower | upper | trim | length =>
    simp only [applyFunction]
    exact mapText_plain fun _ => rfl
  | left | right =>
    simp only [applyFunction]
    exact takePart_plain _
  | substring => exact substring_plain
  | split => exact split_plain
  | matchesPattern => exact matchesPattern_plain
  | dateNew => exact dateNew_plain
  | dateParse => exact dateParse_plain
  | dateFormat => exact dateFormat_plain
  | dateToEpoch => exact dateToEpoch_plain
  | now => exact .ok rfl
  | today =>
    simp only [applyFunction]
    exact inZone_plain _
  | durationNew => exact durationNew_plain
  | durationOfMillis => exact durationOfMillis_plain
  | durationToMillis => exact durationToMillis_plain

/-- The first argument that is something is one of the arguments. -/
theorem coalesce_holds {P : Tree → Prop} (h : ∀ argument ∈ arguments, argument.Holds P) :
    (coalesce arguments).Holds P := by
  unfold coalesce
  cases hfound : arguments.find? (!·.isNull) with
  | none => exact Value.holds_of_plain rfl
  | some argument => exact h argument (List.mem_of_find?_eq_some hfound)

end BuiltIn
end Formula

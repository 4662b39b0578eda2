-- SUMMARY: Values of one type are in a total preorder, and the relations of the language are read off it.
import Formula.Evaluation
import Formula.Proofs.BuiltIn.Table
import Formula.Proofs.Result
import Mathlib.Data.String.Basic

/-!
# The order of values

All values of one type are compared in the same domain: numbers by their units, conditions by the
number of their truth value, instants and spans by their nanoseconds, and everything else by its
text (`Value.exists_domain`). What holds of a comparison in one domain therefore holds of the values
of a type: it is a total preorder.

The six relations are tests of the outcome of one comparison (`BuiltIn.relations`), so how they
stand to each other follows from the order.
-/

namespace Formula

/-! ## Domains -/

instance : Std.TransCmp Decimal.compare :=
  inferInstanceAs (Std.TransCmp (compareOn Decimal.units))

instance : Std.TransCmp Span.compare :=
  inferInstanceAs (Std.TransCmp (compareOn Span.nanos))

instance : Std.TransCmp Instant.compare :=
  inferInstanceAs (Std.TransCmp (compareLex (compareOn Instant.seconds) (compareOn Instant.nanos)))

namespace Value

variable {a b c : Value}

instance : Std.TransCmp compareBool :=
  inferInstanceAs (Std.TransCmp (compareOn Bool.toNat))

theorem compareText_eq_compare (a b : String) : compareText a b = Ord.compare a b := by
  unfold compareText
  rcases lt_trichotomy a b with hless | rfl | hgreater
  · rw [if_neg hless.ne, if_pos hless, compare_lt_iff_lt.mpr hless]
  · rw [if_pos rfl, compare_eq_iff_eq.mpr rfl]
  · rw [if_neg hgreater.ne', if_neg hgreater.not_gt, compare_gt_iff_gt.mpr hgreater]

instance : Std.TransCmp compareText := by
  have hcompare : compareText = Ord.compare := funext₂ compareText_eq_compare
  rw [hcompare]
  infer_instance

theorem isNull_iff : a.isNull = true ↔ a.type = .null := beq_iff_eq

/-- The values of a type are compared in one domain. -/
theorem exists_domain (type : ValueType) :
    ∃ (D : Type) (order : D → D → Ordering) (_ : Std.TransCmp order) (position : Value → D),
      ∀ a b : Value, a.type = type → b.type = type →
        a.compare b = order (position a) (position b) := by
  cases type with
  | number =>
    refine ⟨Decimal, Decimal.compare, inferInstance, toNumber, fun a b ha _ => ?_⟩
    cases a <;> cases ha
    rfl
  | boolean =>
    refine ⟨Bool, compareBool, inferInstance, toBool, fun a b ha _ => ?_⟩
    cases a <;> cases ha
    rfl
  | instant =>
    refine ⟨Instant, Instant.compare, inferInstance, toInstant, fun a b ha _ => ?_⟩
    cases a <;> cases ha
    rfl
  | span =>
    refine ⟨Span, Span.compare, inferInstance, toSpan, fun a b ha _ => ?_⟩
    cases a <;> cases ha
    rfl
  | null =>
    refine ⟨Unit, Ord.compare, inferInstance, fun _ => (), fun a b ha hb => ?_⟩
    cases a <;> cases ha
    exact if_pos (isNull_iff.mpr hb)
  | _ =>
    refine ⟨String, compareText, inferInstance, toText, fun a b ha _ => ?_⟩
    cases a <;> cases ha
    rfl

/-! ## Laws -/

theorem compare_swap (h : a.type = b.type) : b.compare a = (a.compare b).swap := by
  obtain ⟨D, order, _, position, hcompare⟩ := exists_domain b.type
  rw [hcompare a b h rfl, hcompare b a rfl h]
  exact Std.OrientedCmp.eq_swap

theorem compare_self (a : Value) : a.compare a = .eq := by
  obtain ⟨D, order, _, position, hcompare⟩ := exists_domain a.type
  rw [hcompare a a rfl rfl]
  exact Std.ReflCmp.compare_self

theorem compare_ne_gt_trans (hab : a.type = b.type) (hbc : b.type = c.type)
    (hleft : a.compare b ≠ .gt) (hright : b.compare c ≠ .gt) : a.compare c ≠ .gt := by
  obtain ⟨D, order, _, position, hcompare⟩ := exists_domain b.type
  rw [hcompare a b hab rfl] at hleft
  rw [hcompare b c rfl hbc.symm] at hright
  rw [hcompare a c hab hbc.symm]
  exact Ordering.isLE_iff_ne_gt.mp (Std.TransCmp.isLE_trans (Ordering.isLE_iff_ne_gt.mpr hleft)
    (Ordering.isLE_iff_ne_gt.mpr hright))

/-- Two comparisons with the same outcome pass it on. -/
theorem compare_trans {outcome : Ordering} (hab : a.type = b.type) (hbc : b.type = c.type)
    (hleft : a.compare b = outcome) (hright : b.compare c = outcome) : a.compare c = outcome := by
  obtain ⟨D, order, _, position, hcompare⟩ := exists_domain b.type
  rw [hcompare a b hab rfl] at hleft
  rw [hcompare b c rfl hbc.symm] at hright
  rw [hcompare a c hab hbc.symm]
  cases outcome with
  | lt => exact Std.TransCmp.lt_trans hleft hright
  | eq => exact Std.TransCmp.eq_trans hleft hright
  | gt => exact Std.TransCmp.gt_trans hleft hright

theorem equal_iff : a.equal b = true ↔ a.type = b.type ∧ a.compare b = .eq := by
  simp [equal]

theorem equal_equivalence : Equivalence fun a b : Value => a.equal b = true where
  refl a := equal_iff.mpr ⟨rfl, compare_self a⟩
  symm {a b} h := by
    obtain ⟨htype, hequal⟩ := equal_iff.mp h
    refine equal_iff.mpr ⟨htype.symm, ?_⟩
    rw [compare_swap htype, hequal]
    rfl
  trans {a b c} hab hbc := by
    obtain ⟨hab, hleft⟩ := equal_iff.mp hab
    obtain ⟨hbc, hright⟩ := equal_iff.mp hbc
    exact equal_iff.mpr ⟨hab.trans hbc, compare_trans hab hbc hleft hright⟩

end Value

/-! ## Relations -/

namespace BuiltIn

/-- A relation of the language: its name, its action, and the test of how the left operand stands to
    the right one. -/
structure Relation where
  name : String
  action : OperatorAction
  accepts : Ordering → Bool

def relations : List Relation := [
  ⟨"=", .equal, (· == .eq)⟩, ⟨"==", .equal, (· == .eq)⟩, ⟨"<", .less, (· == .lt)⟩,
  ⟨"<=", .lessOrEqual, (· != .gt)⟩, ⟨">", .greater, (· == .gt)⟩,
  ⟨">=", .greaterOrEqual, (· != .lt)⟩]

theorem find?_relation : ∀ relation ∈ relations,
    operatorTable.find? .between relation.name =
      some ⟨.between Precedence.comparison, relation.action⟩ := by
  have hmem : ∀ relation ∈ relations,
      (relation.name, ⟨.between Precedence.comparison, relation.action⟩) ∈ operators := by
    simp [relations, operators]
  exact fun relation hrelation => find?_operatorTable (hmem relation hrelation)

/-- A relation of two values of one type tests their comparison. -/
theorem applyOperator_relation {relation : Relation} (hrelation : relation ∈ relations)
    {a b : Value} (htype : a.type = b.type) (hnull : a.type ≠ .null) (host : Array Behaviour)
    (context : CallContext) (token : Token) :
    applyOperator host context token relation.action [a, b] =
      .ok (.boolean (relation.accepts (a.compare b))) := by
  have hequal : a.equal b = (a.compare b == .eq) := by simp [Value.equal, htype]
  have hleft : a.isNull = false := by simpa [Value.isNull] using hnull
  have hright : b.isNull = false := by simpa [Value.isNull, ← htype] using hnull
  have hordered (accepts : Ordering → Bool) :
      ordered token [a, b] accepts = .ok (.boolean (accepts (a.compare b))) := by
    simp [ordered, hleft, hright]
  simp only [relations, List.mem_cons, List.not_mem_nil, or_false] at hrelation
  rcases hrelation with rfl | rfl | rfl | rfl | rfl | rfl
  · simp only [applyOperator, equal, hequal]
  · simp only [applyOperator, equal, hequal]
  all_goals simp only [applyOperator, hordered]

end BuiltIn

namespace Scope

variable {scope : Scope} {token : Token} {left right : Tree} {a b : Value} {levels : Nat}

/-- A variable that holds no tree has its value, in the final form. -/
theorem evaluateWithin_variable (hkind : token.kind = .name)
    (hlookup : scope.lookup? token.lexeme = some a) (hvalue : a.toTree? = none)
    (hfinish : a.finish scope.settings = b) :
    scope.evaluateWithin (levels + 1) (.node token []) = .ok b := by
  have hforce : a.force (scope.evaluateWithin levels) = .ok a := by
    cases a with
    | tree value => cases hvalue
    | _ => rfl
  have hstep : scope.step (scope.evaluateWithin levels) (.node token []) = .ok a := by
    simp only [step, Tree.token, hkind, namedValue, hlookup, hforce]
  change (scope.step (scope.evaluateWithin levels) (.node token []) >>= fun _ => _) = _
  rw [hstep, ← hfinish]
  rfl

/-- The token is the built-in operator of a name, between two operands. -/
def StandsFor (scope : Scope) (token : Token) (name : String) : Prop :=
  token.kind = .infixOperator ∧
    scope.operatorOf? token = BuiltIn.operatorTable.find? .between name

/-- With the built-in operators a token that is not bound is read by its name. -/
theorem standsFor_of_unbound (hoperators : scope.configuration.operators = BuiltIn.operatorTable)
    (name : String) (position : Nat) :
    scope.StandsFor ⟨.infixOperator, name, position, none⟩ name :=
  ⟨rfl, congrArg (OperatorTable.find? · .between name) hoperators⟩

/-- An operator between two operands gets the values of both. -/
theorem evaluateWithin_between {name : String} (hstands : scope.StandsFor token name)
    {precedence : Int} {action : OperatorAction}
    (hfound : BuiltIn.operatorTable.find? .between name = some ⟨.between precedence, action⟩)
    (hleft : scope.evaluateWithin levels left = .ok a)
    (hright : scope.evaluateWithin levels right = .ok b) :
    scope.evaluateWithin (levels + 1) (.node token [left, right]) =
      (BuiltIn.applyOperator scope.configuration.hostOperators
        (scope.context (scope.evaluateWithin levels)) token action [a, b] >>= fun value =>
          .ok (value.finish scope.settings)) := by
  have hoperator : scope.operatorOf? token = some ⟨.between precedence, action⟩ :=
    hstands.2.trans hfound
  have hoperands : operandValues (scope.evaluateWithin levels) (fun _ => false) 0 [left, right] =
      .ok [a, b] := by
    simp only [operandValues, hleft, hright]
    rfl
  have hvalue : scope.step (scope.evaluateWithin levels) (.node token [left, right]) =
      BuiltIn.applyOperator scope.configuration.hostOperators
        (scope.context (scope.evaluateWithin levels)) token action [a, b] := by
    simp only [step, Tree.token, Tree.children, hstands.1, operatorValue, hoperator]
    change (operandValues _ (fun _ => false) 0 [left, right] >>= fun _ => _) = _
    rw [hoperands]
    rfl
  change (scope.step (scope.evaluateWithin levels) (.node token [left, right]) >>= fun _ => _) = _
  rw [hvalue]
  rfl

theorem evaluateWithin_relation {relation : BuiltIn.Relation}
    (hrelation : relation ∈ BuiltIn.relations) (hstands : scope.StandsFor token relation.name)
    (hleft : scope.evaluateWithin levels left = .ok a)
    (hright : scope.evaluateWithin levels right = .ok b) (htype : a.type = b.type)
    (hnull : a.type ≠ .null) :
    scope.evaluateWithin (levels + 1) (.node token [left, right]) =
      .ok (.boolean (relation.accepts (a.compare b))) := by
  rw [evaluateWithin_between hstands (BuiltIn.find?_relation relation hrelation) hleft hright,
    BuiltIn.applyOperator_relation hrelation htype hnull]
  rfl

/-- The tokens are the built-in relations, each under its name. -/
def ReadsRelations (scope : Scope) (token : String → Token) : Prop :=
  ∀ relation ∈ BuiltIn.relations, scope.StandsFor (token relation.name) relation.name

/-- What a relation of two operands evaluates to. -/
def related (scope : Scope) (levels : Nat) (token : String → Token) (name : String)
    (left right : Tree) : Except EvalError Value :=
  scope.evaluateWithin (levels + 1) (.node (token name) [left, right])

section Related

variable {tokens : String → Token} (htokens : scope.ReadsRelations tokens)
  (hleft : scope.evaluateWithin levels left = .ok a)
  (hright : scope.evaluateWithin levels right = .ok b) (htype : a.type = b.type)
  (hnull : a.type ≠ .null)

include htokens hleft hright htype hnull

/-- Each relation tests the comparison of the operands. -/
theorem related_all :
    (∀ sign, sign = "=" ∨ sign = "==" →
      scope.related levels tokens sign left right = .ok (.boolean (a.compare b == .eq))) ∧
    scope.related levels tokens "<" left right = .ok (.boolean (a.compare b == .lt)) ∧
    scope.related levels tokens "<=" left right = .ok (.boolean (a.compare b != .gt)) ∧
    scope.related levels tokens ">" left right = .ok (.boolean (a.compare b == .gt)) ∧
    scope.related levels tokens ">=" left right = .ok (.boolean (a.compare b != .lt)) := by
  have hall : ∀ relation ∈ BuiltIn.relations,
      scope.related levels tokens relation.name left right =
        .ok (.boolean (relation.accepts (a.compare b))) := fun relation hrelation =>
    evaluateWithin_relation hrelation (htokens relation hrelation) hleft hright htype hnull
  simp only [BuiltIn.relations, List.forall_mem_cons] at hall
  obtain ⟨hequal, hequals, hless, hatMost, hmore, hatLeast, -⟩ := hall
  refine ⟨?_, hless, hatMost, hmore, hatLeast⟩
  rintro sign (rfl | rfl)
  · exact hequal
  · exact hequals

/-- One operand is below the other one, equal to it or above it. -/
theorem related_trichotomy {sign : String} (hsign : sign = "=" ∨ sign = "==") :
    ∃ name ∈ ["<", sign, ">"], ∀ other ∈ ["<", sign, ">"],
      scope.related levels tokens other left right = .ok (.boolean (other == name)) := by
  obtain ⟨hequals, hless, -, hmore, -⟩ := related_all htokens hleft hright htype hnull
  have hequal := hequals sign hsign
  have hbelow : sign ≠ "<" := by rcases hsign with rfl | rfl <;> decide
  have habove : sign ≠ ">" := by rcases hsign with rfl | rfl <;> decide
  simp only [List.forall_mem_cons, List.not_mem_nil, hless, hequal, hmore]
  cases a.compare b with
  | lt => exact ⟨"<", by simp, by simp [hbelow]⟩
  | eq => exact ⟨sign, by simp, by simp [hbelow.symm, habove.symm]⟩
  | gt => exact ⟨">", by simp, by simp [habove]⟩

/-- "At most" is the opposite of the strict relation with the operands turned around. -/
theorem related_atMost :
    ∃ holds, scope.related levels tokens "<=" left right = .ok (.boolean holds) ∧
      scope.related levels tokens "<" right left = .ok (.boolean !holds) := by
  obtain ⟨-, -, hatMost, -⟩ := related_all htokens hleft hright htype hnull
  obtain ⟨-, hless, -⟩ := related_all htokens hright hleft htype.symm (htype ▸ hnull)
  refine ⟨_, hatMost, ?_⟩
  rw [hless, Value.compare_swap htype]
  cases a.compare b <;> rfl

/-- "At least" is the opposite of the strict relation. -/
theorem related_atLeast :
    ∃ holds, scope.related levels tokens ">=" left right = .ok (.boolean holds) ∧
      scope.related levels tokens "<" left right = .ok (.boolean !holds) := by
  obtain ⟨-, hless, -, -, hatLeast⟩ := related_all htokens hleft hright htype hnull
  refine ⟨_, hatLeast, ?_⟩
  rw [hless]
  cases a.compare b <;> rfl

end Related

end Scope

/-- On the values of each type comparison is a total preorder, and equality is an equivalence on all
    values. Of two operands of one type that are not null exactly one is below the other or equal to
    it or above it, and the relations that include equality are the opposites of the strict ones. -/
theorem Value.preordered :
    (∀ a b : Value, a.type = b.type → b.compare a = (a.compare b).swap) ∧
    (∀ a b c : Value, a.type = b.type → b.type = c.type →
      (a.compare b ≠ .gt → b.compare c ≠ .gt → a.compare c ≠ .gt) ∧
      ∀ outcome, a.compare b = outcome → b.compare c = outcome → a.compare c = outcome) ∧
    (∀ a : Value, a.compare a = .eq) ∧
    Equivalence (fun a b : Value => a.equal b = true) ∧
    ∀ (scope : Scope) (tokens : String → Token), scope.ReadsRelations tokens →
      ∀ levels left right a b, scope.evaluateWithin levels left = .ok a →
      scope.evaluateWithin levels right = .ok b → a.type = b.type → a.type ≠ .null →
        (∀ sign, sign = "=" ∨ sign = "==" →
          ∃ name ∈ ["<", sign, ">"], ∀ other ∈ ["<", sign, ">"],
            scope.related levels tokens other left right = .ok (.boolean (other == name))) ∧
        (∃ holds, scope.related levels tokens "<=" left right = .ok (.boolean holds) ∧
          scope.related levels tokens "<" right left = .ok (.boolean !holds)) ∧
        ∃ holds, scope.related levels tokens ">=" left right = .ok (.boolean holds) ∧
          scope.related levels tokens "<" left right = .ok (.boolean !holds) := by
  refine ⟨fun a b => Value.compare_swap, fun a b c hab hbc => ⟨Value.compare_ne_gt_trans hab hbc,
    fun outcome => Value.compare_trans hab hbc⟩, Value.compare_self, Value.equal_equivalence, ?_⟩
  intro scope tokens htokens levels left right a b hleft hright htype hnull
  exact ⟨fun sign => Scope.related_trichotomy htokens hleft hright htype hnull,
    Scope.related_atMost htokens hleft hright htype hnull,
    Scope.related_atLeast htokens hleft hright htype hnull⟩

/-- The standard configuration with two variables. -/
def Scope.ofPair (x y : Value) : Scope where
  configuration := .standard
  constants := Configuration.standardConstants
  store := .table [("X", x), ("Y", y)]
  ambient := ⟨.epoch, fun _ => 0⟩

theorem Scope.lookup?_ofPair (x y : Value) :
    (Scope.ofPair x y).lookup? "x" = some x ∧ (Scope.ofPair x y).lookup? "y" = some y := by
  have hx : Text.upper "x" = "X" := by decide +kernel
  have hy : Text.upper "y" = "Y" := by decide +kernel
  simp only [lookup?, ofPair, VariableStore.get?, hx, hy]
  exact ⟨rfl, rfl⟩

/-- With the operators of the standard configuration, one of the arrays `[1.0, [true]]` and
    `[1, [true]]` is below the other one. -/
theorem Value.preordered_arrays :
    let a : Value := .array [.number ⟨false, 10, 1, by decide, by decide⟩, .array [.boolean true]]
    let b : Value := .array [.number .one, .array [.boolean true]]
    let x : Tree := .node ⟨.name, "x", 0, none⟩ []
    let y : Tree := .node ⟨.name, "y", 4, none⟩ []
    let tokens : String → Token := fun name => ⟨.infixOperator, name, 2, none⟩
    (Scope.ofPair a b).ReadsRelations tokens ∧ (Scope.ofPair a b).evaluateWithin 1 x = .ok a ∧
    (Scope.ofPair a b).evaluateWithin 1 y = .ok b ∧
    ∃ name ∈ ["<", "=", ">"], ∀ other ∈ ["<", "=", ">"],
      (Scope.ofPair a b).related 1 tokens other x y = .ok (.boolean (other == name)) := by
  intro a b x y tokens
  obtain ⟨hlookupX, hlookupY⟩ := Scope.lookup?_ofPair a b
  have htokens : (Scope.ofPair a b).ReadsRelations tokens := fun _ _ =>
    Scope.standsFor_of_unbound rfl _ 2
  have hx : (Scope.ofPair a b).evaluateWithin 1 x = .ok a :=
    Scope.evaluateWithin_variable rfl hlookupX rfl rfl
  have hy : (Scope.ofPair a b).evaluateWithin 1 y = .ok b :=
    Scope.evaluateWithin_variable rfl hlookupY rfl rfl
  obtain ⟨-, -, -, -, hrelated⟩ := Value.preordered
  obtain ⟨htrichotomy, -⟩ :=
    hrelated _ tokens htokens 1 x y a b hx hy rfl (by simp [a, Value.type])
  exact ⟨htokens, hx, hy, htrichotomy "=" (.inl rfl)⟩

end Formula

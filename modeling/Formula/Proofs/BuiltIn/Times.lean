-- SUMMARY: Sums and differences of instants and spans: what they yield, when they fail, and how they undo each other.
import Formula.BuiltIn.Operators
import Formula.Configuration
import Formula.Proofs.BuiltIn.Table
import Formula.Proofs.Calendar.Instant
import Formula.Proofs.Decimal.Value

/-!
# Arithmetic with times

Outside leap seconds adding a span to an instant adds its nanoseconds, and the operators fail where
dates end. A number in the place of a span stands for the span of its whole milliseconds
(`BuiltIn.millisSpan_eq`), so what holds of spans holds of numbers, once there is such a span.
-/

namespace Formula
namespace BuiltIn

variable {token : Token} {t : Instant} {d : Span} {n : Decimal}

/-! ## Instants and spans -/

/-- The result is the instant of a number of nanoseconds, or there is none and the date-time range is
    at fault. -/
def Reaches (token : Token) (nanos : Int) (result : Except EvalError Value) : Prop :=
  (Instant.InRange nanos →
    ∃ u : Instant, result = .ok (.instant u) ∧ u.isLeap = false ∧ u.toNanos = nanos) ∧
  (¬ Instant.InRange nanos → result = .error (token.arithmetic .instantRange))

theorem reaches_ofNanos? (nanos : Int) :
    Reaches token nanos
      ((token.orFault .instantRange (Instant.ofNanos? nanos)).map Value.instant) := by
  refine ⟨fun hin => ?_, fun hout => ?_⟩
  · cases hinstant : Instant.ofNanos? nanos with
    | none => exact absurd hin (Instant.ofNanos?_eq_none_iff.mp hinstant)
    | some u => exact ⟨u, rfl, Instant.ofNanos?_eq_some_iff.mp hinstant⟩
  · rw [Instant.ofNanos?_eq_none_iff.mpr hout]
    rfl

theorem add_span : add token [.instant t, .span d] =
    (token.orFault .instantRange (t.add? d)).map .instant := by
  change (token.orFault .instantRange (t.add? d) >>= fun u => .ok (Value.instant u)) = _
  cases token.orFault .instantRange (t.add? d) <;> rfl

theorem subtract_span : subtract token [.instant t, .span d] =
    (token.orFault .instantRange (t.sub? d)).map .instant := by
  change (token.orFault .instantRange (t.sub? d) >>= fun u => .ok (Value.instant u)) = _
  cases token.orFault .instantRange (t.sub? d) <;> rfl

theorem reaches_add (h : t.isLeap = false) :
    Reaches token (t.toNanos + d.nanos) (add token [.instant t, .span d]) := by
  rw [add_span, Instant.add?_of_plain h]
  exact reaches_ofNanos? _

theorem reaches_subtract (h : t.isLeap = false) :
    Reaches token (t.toNanos - d.nanos) (subtract token [.instant t, .span d]) := by
  rw [subtract_span, Instant.sub?_of_plain h]
  exact reaches_ofNanos? _

/-- Where an instant was moved to, the difference to it is the span, and taking the span away leads
    back to it. -/
theorem subtract_of_add {value : Value} (h : t.isLeap = false)
    (hvalue : add token [.instant t, .span d] = .ok value) :
    subtract token [value, .instant t] = .ok (.span d) ∧
      subtract token [value, .span d] = .ok (.instant t) := by
  rw [add_span] at hvalue
  cases hadd : t.add? d with
  | none =>
    rw [hadd] at hvalue
    cases hvalue
  | some u =>
    rw [hadd] at hvalue
    cases hvalue
    constructor
    · change Except.ok (Value.span (u.since t)) = _
      rw [Instant.since_of_add? h hadd]
    · rw [subtract_span, Instant.sub?_of_add? h hadd]
      rfl

/-! ## Numbers of milliseconds -/

theorem millisSpan_eq (token : Token) (n : Decimal) :
    millisSpan token n = token.orFault .spanRange (Span.ofMillis? n.toInt) := by
  by_cases hword : -(twoTo 63 : Int) ≤ n.toInt ∧ n.toInt < twoTo 63
  · simp only [millisSpan, Decimal.toInt64?, if_pos hword, Option.bind_some]
  · have hnone : Span.ofMillis? n.toInt = none := by
      have hvalue : (twoTo 63 : Int) = 9223372036854775808 := rfl
      rw [Span.ofMillis?_eq_none_iff]
      omega
    simp only [millisSpan, Decimal.toInt64?, if_neg hword, Option.bind_none, hnone]

theorem add_number : add token [.instant t, .number n] =
    (millisSpan token n >>= fun m => add token [.instant t, .span m]) := rfl

theorem subtract_number : subtract token [.instant t, .number n] =
    (millisSpan token n >>= fun m => subtract token [.instant t, .span m]) := rfl

/-- A number of milliseconds moves an instant as the span does that is as long. -/
theorem number_as_span
    (h : (RoundingMode.towardZero.select n.value).natAbs ≤ 9223372036854775807) :
    ∃ m : Span, m.nanos = RoundingMode.towardZero.select n.value * 1000000 ∧
      add token [.instant t, .number n] = add token [.instant t, .span m] ∧
      subtract token [.instant t, .number n] = subtract token [.instant t, .span m] := by
  rw [← Decimal.toInt_eq_select] at h ⊢
  let m : Span := ⟨n.toInt * 1000000, by omega⟩
  have hm : Span.ofMillis? n.toInt = some m := Span.ofMillis?_eq_some_iff.mpr rfl
  have hspan : millisSpan token n = .ok m := by
    rw [millisSpan_eq, hm]
    rfl
  refine ⟨m, rfl, ?_, ?_⟩
  · rw [add_number, hspan]
    rfl
  · rw [subtract_number, hspan]
    rfl

theorem number_without_span
    (h : 9223372036854775807 < (RoundingMode.towardZero.select n.value).natAbs) :
    add token [.instant t, .number n] = .error (token.arithmetic .spanRange) ∧
      subtract token [.instant t, .number n] = .error (token.arithmetic .spanRange) := by
  rw [← Decimal.toInt_eq_select] at h
  have hspan : millisSpan token n = .error (token.arithmetic .spanRange) := by
    rw [millisSpan_eq, Span.ofMillis?_eq_none_iff.mpr h]
    rfl
  constructor
  · rw [add_number, hspan]
    rfl
  · rw [subtract_number, hspan]
    rfl

/-! ## The operators -/

/-- Outside leap seconds `+` and `-` move instants by the nanoseconds of spans, and fail exactly where
    dates end. The difference to where an instant was moved is the span, and taking the span away
    leads back. A number is the span of its whole milliseconds toward zero, or there is none. -/
theorem instant_plus_minus (host : Array Behaviour) (context : CallContext) (token : Token)
    {t : Instant} (hplain : t.isLeap = false) :
    ∃ plus minus : Operator, operatorTable.find? .between "+" = some plus ∧
      operatorTable.find? .between "-" = some minus ∧
      let sum (a b : Value) := applyOperator host context token plus.action [a, b]
      let difference (a b : Value) := applyOperator host context token minus.action [a, b]
      (∀ d : Span,
        (∀ u, sum (.instant t) (.span d) = .ok u → difference u (.instant t) = .ok (.span d) ∧
          difference u (.span d) = .ok (.instant t)) ∧
        sum (.span d) (.instant t) = sum (.instant t) (.span d) ∧
        Reaches token (t.toNanos + d.nanos) (sum (.instant t) (.span d)) ∧
        Reaches token (t.toNanos - d.nanos) (difference (.instant t) (.span d))) ∧
      ∀ n : Decimal,
        let millis := RoundingMode.towardZero.select n.value
        (millis.natAbs ≤ 9223372036854775807 → ∃ d : Span, d.nanos = millis * 1000000 ∧
          sum (.instant t) (.number n) = sum (.instant t) (.span d) ∧
          difference (.instant t) (.number n) = difference (.instant t) (.span d)) ∧
        (9223372036854775807 < millis.natAbs →
          sum (.instant t) (.number n) = .error (token.arithmetic .spanRange) ∧
          difference (.instant t) (.number n) = .error (token.arithmetic .spanRange)) := by
  have hadd : ("+", ⟨.between Precedence.additive, .add⟩) ∈ operators := by simp [operators]
  have hsubtract : ("-", ⟨.between Precedence.additive, .subtract⟩) ∈ operators := by
    simp [operators]
  refine ⟨_, _, find?_operatorTable hadd, find?_operatorTable hsubtract, ?_, ?_⟩
  · intro d
    exact ⟨fun _ => subtract_of_add hplain, rfl, reaches_add hplain, reaches_subtract hplain⟩
  · intro n
    exact ⟨number_as_span, number_without_span⟩

/-- A second and a half from the last half of the second before 1970, and `-1500.9` milliseconds in
    its place. -/
theorem instant_plus_minus_before1970 :
    let t : Instant := ⟨-1, 500000000, by decide, by decide, by decide⟩
    let d : Span := ⟨1500000000, by decide⟩
    let n : Decimal := ⟨true, 15009, 1, by decide, by decide⟩
    let context : CallContext := ⟨Settings.standard, .ofSeed .epoch 0, .ok⟩
    let token : Token := ⟨.infixOperator, "+", 2, none⟩
    t.isLeap = false ∧ ∃ plus minus : Operator, operatorTable.find? .between "+" = some plus ∧
      operatorTable.find? .between "-" = some minus ∧
      let sum (a b : Value) := applyOperator #[] context token plus.action [a, b]
      let difference (a b : Value) := applyOperator #[] context token minus.action [a, b]
      (∃ u : Instant, sum (.instant t) (.span d) = .ok (.instant u) ∧ u.toNanos = 1000000000 ∧
        difference (.instant u) (.instant t) = .ok (.span d) ∧
        difference (.instant u) (.span d) = .ok (.instant t)) ∧
      ∃ m : Span, m.nanos = -1500000000 ∧
        sum (.instant t) (.number n) = sum (.instant t) (.span m) := by
  intro t d n context token
  have hplain : t.isLeap = false := by decide
  obtain ⟨plus, minus, hplus, hminus, hspan, hnumber⟩ :=
    instant_plus_minus #[] context token hplain
  obtain ⟨hundo, -, ⟨hreaches, -⟩, -⟩ := hspan d
  obtain ⟨u, hsum, -, hnanos⟩ := hreaches (Instant.inRange_iff.mpr (by decide))
  have hmillis : RoundingMode.towardZero.select n.value = -1500 := by
    rw [← Decimal.toInt_eq_select]
    decide +kernel
  obtain ⟨m, hm, hadd, -⟩ := (hnumber n).1 (by rw [hmillis]; decide)
  refine ⟨hplain, plus, minus, hplus, hminus, ⟨u, hsum, hnanos, hundo _ hsum⟩, m, ?_, hadd⟩
  rw [hm, hmillis]
  rfl

end BuiltIn
end Formula

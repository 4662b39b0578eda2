-- SUMMARY: A call has as many arguments as its parameters govern, and the first argument that its parameter forbids is reported.
import Formula.Call
import Formula.Proofs.Decimal.Value

/-!
# Arguments of calls

Where only the last parameter is variadic, the number of arguments is right if it is enough for the
others and each argument has a parameter (`Signature.accepts_iff`).

The check goes through the arguments in order, and reaches every one that has nothing forbidden
before it (`Signature.check_eq_checkFrom`). So it succeeds if nothing is forbidden, and otherwise
reports the first argument that is. What a parameter forbids is a matter of the number's value, so
that a zero is a zero with either sign.
-/

namespace Formula

/-! ## Numbers of arguments -/

namespace Signature

variable {s : Signature} {count index : Nat}

theorem minArguments_eq (h : ∀ parameter ∈ s.parameters.dropLast, parameter.variadic = false) :
    s.minArguments = s.parameters.countP (!·.variadic) := by
  rcases List.eq_nil_or_concat' s.parameters with hnone | ⟨others, last, hlast⟩
  · simp [minArguments, isVariadic, hnone]
  · rw [hlast, List.dropLast_concat] at h
    have hothers : others.countP (!·.variadic) = others.length := by
      refine List.countP_eq_length.mpr fun parameter hmem => ?_
      rw [h parameter hmem, Bool.not_false]
    have hvariadic : s.isVariadic = last.variadic := by
      rw [isVariadic, hlast, List.getLast?_concat]
    rw [minArguments, hvariadic, hlast, List.countP_append, hothers, List.length_append]
    cases hcase : last.variadic <;> simp [hcase]

theorem exists_parameter?_iff :
    (∃ parameter, s.parameter? index = some parameter) ↔
      index < s.parameters.length ∨ s.isVariadic = true := by
  rw [← Option.isSome_iff_exists, parameter?, isVariadic]
  cases hplace : s.parameters[index]? with
  | some parameter => simp [(List.getElem?_eq_some_iff.mp hplace).1]
  | none =>
    have hbeyond : ¬ index < s.parameters.length :=
      Nat.not_lt.mpr (List.getElem?_eq_none_iff.mp hplace)
    cases s.parameters.getLast? with
    | none => simp [hbeyond]
    | some last => simp [hbeyond, Option.filter]

theorem accepts_iff (h : ∀ parameter ∈ s.parameters.dropLast, parameter.variadic = false) :
    s.accepts count = true ↔
      s.parameters.countP (!·.variadic) ≤ count ∧
        ∀ index < count, ∃ parameter, s.parameter? index = some parameter := by
  rw [← minArguments_eq h, accepts, Bool.and_eq_true, decide_eq_true_eq, and_congr_right_iff]
  intro _
  simp only [exists_parameter?_iff, maxArguments?]
  cases s.isVariadic with
  | true => simp
  | false =>
    suffices count ≤ s.parameters.length ↔ ∀ index < count, index < s.parameters.length by simpa
    constructor
    · intro hmost index hindex
      exact Nat.lt_of_lt_of_le hindex hmost
    · intro hgoverned
      cases count with
      | zero => exact Nat.zero_le _
      | succ last => exact hgoverned last (Nat.lt_succ_self last)

end Signature

/-! ## What a parameter forbids -/

/-- The parameter forbids the argument: a number of value zero, or one below zero. -/
inductive Parameter.Forbids (parameter : Parameter) : Value → ParameterFault → Prop
  | zero {n : Decimal} (demand : parameter.nonZero = true) (isZero : n.value = 0) :
    Forbids parameter (.number n) .zero
  | negative {n : Decimal} (demand : parameter.nonNegative = true) (below : n.value < 0) :
    Forbids parameter (.number n) .negative

theorem Parameter.faultOf_eq_some_iff {parameter : Parameter} {argument : Value}
    {fault : ParameterFault} :
    parameter.faultOf argument = some fault ↔ parameter.Forbids argument fault := by
  constructor
  · intro h
    unfold faultOf at h
    split at h
    · rename_i n
      split at h
      · rename_i hzero
        obtain ⟨hdemand, hvalue⟩ := Bool.and_eq_true_iff.mp hzero
        cases h
        exact .zero hdemand (Decimal.isZero_iff.mp hvalue)
      · split at h
        · rename_i hnegative
          rw [Bool.and_assoc, Bool.and_eq_true, Decimal.negative_and_not_isZero] at hnegative
          cases h
          exact .negative hnegative.1 hnegative.2
        · cases h
    · cases h
  · intro h
    cases h with
    | zero demand isZero =>
      rw [faultOf, demand, Decimal.isZero_iff.mpr isZero]
      rfl
    | @negative n demand below =>
      have hzero : n.isZero = false := Decimal.isZero_of_value_ne_zero (ne_of_lt below)
      have hnegative := Decimal.negative_and_not_isZero.mpr below
      rw [faultOf, Bool.and_assoc, hnegative, demand, hzero, Bool.and_false]
      rfl

/-! ## The first forbidden argument -/

namespace Signature

variable {s : Signature} {token : Token} {arguments : List Value} {index : Nat}
  {parameter : Parameter} {fault : ParameterFault}

/-- The parameter that governs the argument at the index forbids it. -/
structure ForbidsAt (s : Signature) (arguments : List Value) (index : Nat) (parameter : Parameter)
    (fault : ParameterFault) : Prop where
  governs : s.parameter? index = some parameter
  forbids : ∃ argument, arguments[index]? = some argument ∧ parameter.Forbids argument fault

/-- No argument before the index is forbidden. -/
def AllowsUpTo (s : Signature) (arguments : List Value) (index : Nat) : Prop :=
  ∀ earlier < index, ∀ parameter fault, ¬ s.ForbidsAt arguments earlier parameter fault

theorem checkFrom_of_forbidsAt (h : s.ForbidsAt arguments index parameter fault) :
    s.checkFrom token index (arguments.drop index) =
      .error (token.invalidParameter parameter.name fault) := by
  obtain ⟨hgoverns, argument, hargument, hforbids⟩ := h
  obtain ⟨hindex, rfl⟩ := List.getElem?_eq_some_iff.mp hargument
  rw [List.drop_eq_getElem_cons hindex, checkFrom, hgoverns]
  simp only [Parameter.faultOf_eq_some_iff.mpr hforbids]

theorem checkFrom_of_not_forbidsAt
    (h : ∀ parameter fault, ¬ s.ForbidsAt arguments index parameter fault) :
    s.checkFrom token index (arguments.drop index) =
      s.checkFrom token (index + 1) (arguments.drop (index + 1)) := by
  cases hargument : arguments[index]? with
  | none =>
    have hend := List.getElem?_eq_none_iff.mp hargument
    rw [List.drop_of_length_le hend, List.drop_of_length_le (Nat.le_succ_of_le hend)]
    rfl
  | some argument =>
    obtain ⟨hindex, hsame⟩ := List.getElem?_eq_some_iff.mp hargument
    rw [List.drop_eq_getElem_cons hindex, checkFrom]
    split
    · rfl
    · rename_i parameter hgoverns
      split
      · rename_i fault hfault
        rw [hsame, Parameter.faultOf_eq_some_iff] at hfault
        exact absurd ⟨hgoverns, argument, hargument, hfault⟩ (h parameter fault)
      · rfl

/-- The check reaches every argument that has nothing forbidden before it. -/
theorem check_eq_checkFrom (h : s.AllowsUpTo arguments index) :
    s.check token arguments = s.checkFrom token index (arguments.drop index) := by
  induction index with
  | zero => rfl
  | succ index ih =>
    have hearlier : s.AllowsUpTo arguments index := by
      intro earlier hlt
      exact h earlier (Nat.lt_succ_of_lt hlt)
    rw [ih hearlier, checkFrom_of_not_forbidsAt (h index (Nat.lt_succ_self index))]

theorem check_of_forbidsAt (hfirst : s.AllowsUpTo arguments index)
    (h : s.ForbidsAt arguments index parameter fault) :
    s.check token arguments = .error (token.invalidParameter parameter.name fault) := by
  rw [check_eq_checkFrom hfirst, checkFrom_of_forbidsAt h]

theorem check_of_allows (h : s.AllowsUpTo arguments arguments.length) :
    s.check token arguments = .ok () := by
  rw [check_eq_checkFrom h, List.drop_length]
  rfl

theorem ForbidsAt.index_lt (h : s.ForbidsAt arguments index parameter fault) :
    index < arguments.length := by
  obtain ⟨-, argument, hargument, -⟩ := h
  exact (List.getElem?_eq_some_iff.mp hargument).1

/-- Unless nothing is forbidden, one forbidden argument is the first. -/
theorem allows_or_exists_first (s : Signature) (arguments : List Value) :
    s.AllowsUpTo arguments arguments.length ∨
      ∃ index parameter fault, s.AllowsUpTo arguments index ∧
        s.ForbidsAt arguments index parameter fault := by
  classical
  by_cases hany : ∃ index parameter fault, s.ForbidsAt arguments index parameter fault
  · obtain ⟨parameter, fault, hforbids⟩ := Nat.find_spec hany
    refine .inr ⟨Nat.find hany, parameter, fault, ?_, hforbids⟩
    intro earlier hearlier other fault' hother
    exact Nat.find_min hany hearlier ⟨other, fault', hother⟩
  · refine .inl ?_
    intro index _ parameter fault hforbids
    exact hany ⟨index, parameter, fault, hforbids⟩

theorem check_error_iff {error : EvalError} :
    s.check token arguments = .error error ↔
      ∃ index parameter fault, s.AllowsUpTo arguments index ∧
        s.ForbidsAt arguments index parameter fault ∧
        error = token.invalidParameter parameter.name fault := by
  constructor
  · intro herror
    rcases s.allows_or_exists_first arguments with hallows | ⟨index, parameter, fault, hfirst, h⟩
    · cases herror.symm.trans (check_of_allows hallows)
    · refine ⟨index, parameter, fault, hfirst, h, ?_⟩
      exact Except.error.inj (herror.symm.trans (check_of_forbidsAt hfirst h))
  · rintro ⟨index, parameter, fault, hfirst, h, rfl⟩
    exact check_of_forbidsAt hfirst h

theorem check_ok_iff :
    s.check token arguments = .ok () ↔
      ∀ index parameter fault, ¬ s.ForbidsAt arguments index parameter fault := by
  constructor
  · intro hok index parameter fault hforbids
    rcases s.allows_or_exists_first arguments with hallows | ⟨_, _, _, hfirst, h⟩
    · exact hallows index hforbids.index_lt parameter fault hforbids
    · cases hok.symm.trans (check_of_forbidsAt hfirst h)
  · intro hnone
    exact check_of_allows fun index _ => hnone index

/-- If only the last parameter is variadic, a call may have as many arguments as are enough for the
    others and all have a parameter. The check of any arguments succeeds if no parameter forbids the
    one it governs, and otherwise names the parameter of the first one that is forbidden. -/
theorem accepts_and_check_iff
    (h : ∀ parameter ∈ s.parameters.dropLast, parameter.variadic = false) :
    (∀ count, s.accepts count = true ↔
      s.parameters.countP (!·.variadic) ≤ count ∧
        ∀ index < count, ∃ parameter, s.parameter? index = some parameter) ∧
    ∀ token arguments,
      (s.check token arguments = .ok () ↔
        ∀ index parameter fault, ¬ s.ForbidsAt arguments index parameter fault) ∧
      ∀ error, s.check token arguments = .error error ↔
        ∃ index parameter fault,
          (∀ earlier < index, ∀ other fault', ¬ s.ForbidsAt arguments earlier other fault') ∧
          s.ForbidsAt arguments index parameter fault ∧
          error = token.invalidParameter parameter.name fault := by
  refine ⟨fun _ => accepts_iff h, fun token arguments => ⟨check_ok_iff, fun error => ?_⟩⟩
  exact check_error_iff

/-- A factor that is not zero, and any number of weights above zero. -/
def weighted : Signature :=
  ⟨[{ name := "factor", nonZero := true },
    { name := "weights", variadic := true, nonZero := true, nonNegative := true }]⟩

/-- The demands are on numbers only, so the text in front is allowed. A negative zero is reported as
    zero, and before the negative number behind it. -/
theorem accepts_and_check_iff_weighted :
    let token : Token := { kind := .function, lexeme := "WEIGHTED", position := 0 }
    let minusZero : Decimal := ⟨true, 0, 0, by decide, by decide⟩
    let minusOne : Decimal := ⟨true, 1, 0, by decide, by decide⟩
    let allowed : List Value := [.text "0", .number .one]
    let arguments := allowed ++ [.number minusZero, .number minusOne]
    (∀ parameter ∈ weighted.parameters.dropLast, parameter.variadic = false) ∧
      (weighted.accepts 0 = false ∧ ∃ parameter, weighted.parameter? 3 = some parameter) ∧
      (∀ index parameter fault, ¬ weighted.ForbidsAt allowed index parameter fault) ∧
      ∃ index parameter fault, weighted.ForbidsAt arguments index parameter fault ∧
        token.invalidParameter parameter.name fault = token.invalidParameter "weights" .zero := by
  intro token minusZero minusOne allowed arguments
  have hlast : ∀ parameter ∈ weighted.parameters.dropLast, parameter.variadic = false := by decide
  obtain ⟨haccepts, hcheck⟩ := accepts_and_check_iff hlast
  have hfew : weighted.accepts 0 = false := by
    refine Bool.eq_false_iff.mpr fun hzero => ?_
    exact absurd ((haccepts 0).mp hzero).1 (by decide)
  have hgoverned := ((haccepts 4).mp rfl).2 3 (by decide)
  have hallowed := (hcheck token allowed).1.mp rfl
  obtain ⟨index, parameter, fault, -, hforbids, herror⟩ :=
    ((hcheck token arguments).2 (token.invalidParameter "weights" .zero)).mp rfl
  exact ⟨hlast, ⟨hfew, hgoverned⟩, hallowed, index, parameter, fault, hforbids, herror.symm⟩

end Signature
end Formula

-- SUMMARY: The power of a whole number with a whole exponent is exact, and it is missing exactly where it is too large or a division by zero.
import Formula.BuiltIn.Operators
import Formula.Proofs.Decimal.Power
import Formula.Proofs.Value.Exchange

/-!
# Powers with whole exponents

Exponents of zero, and bases of zero and one, are answered before anything is multiplied; all other
powers are found by squaring, and a negative exponent takes the reciprocal of the power
(`Decimal.pow_of_whole`). The answers in front agree with what squaring would find, so the power of
whole numbers is one number with one bound for all of them (`BuiltIn.power_whole`).
-/

namespace Formula

/-! ## Signs -/

namespace Decimal

variable {base d exponent p : Decimal} {n : ℤ}

theorem value_abs_eq (d : Decimal) : d.abs.value = |d.value| := by
  rw [value_eq, abs_value]
  rfl

theorem negative_eq_of_whole (h : d.value = n) (hzero : n ≠ 0) : d.negative = decide (n < 0) := by
  have hnonzero : d.value ≠ 0 := by
    rw [h]
    exact_mod_cast hzero
  rw [negative_eq hnonzero, h]
  exact_mod_cast rfl

/-! ## The power of decimals -/

theorem pow_of_isZero (h : exponent.isZero = true) : base.pow exponent = .ok one := by
  unfold pow
  rw [if_pos h]
  rfl

theorem pow_one_base (hexponent : exponent.isZero = false) (h : base.same one = true) :
    base.pow exponent = .ok one := by
  unfold pow
  rw [if_neg (by simp [hexponent]), if_pos h]
  rfl

theorem pow_zero_base (hexponent : exponent.isZero = false) (h : base.isZero = true) :
    base.pow exponent = if exponent.negative then .error .divisionByZero else .ok zero := by
  have hone : ¬ base.same one = true := by
    rw [same_iff, value_of_zero h, value_one]
    exact zero_ne_one
  unfold pow
  rw [if_neg (by simp [hexponent]), if_neg hone, if_pos h]
  split <;> rfl

/-- The reciprocal of a power, if there is one. -/
def reciprocal (power : Decimal) : Except PowerError Decimal :=
  if power.isZero then .error .divisionByZero
  else
    match one.div? power with
    | some inverse => .ok inverse
    | none => .error .overflow

/-- A whole exponent takes the power of its magnitude, and the reciprocal if it is below zero. -/
theorem pow_of_whole (hexponent : exponent.value = n) (hn : |n| < 2 ^ 63) (hzero : n ≠ 0)
    (hone : base.same one = false) (hbase : base.isZero = false) :
    base.pow exponent =
      match base.powNat? n.natAbs with
      | none => .error .overflow
      | some power => if n < 0 then reciprocal power else .ok power := by
  have hnonzero : exponent.value ≠ 0 := by
    rw [hexponent]
    exact_mod_cast hzero
  have hmagnitude : exponent.abs.value = (n.natAbs : ℤ) := by
    rw [value_abs_eq, hexponent, Int.natCast_natAbs]
    push_cast
    rfl
  have hword : exponent.abs.toInt64? = some (n.natAbs : ℤ) := by
    apply toInt64?_of_value hmagnitude
    have hbound : (twoTo 63 : ℤ) = 2 ^ 63 := rfl
    rw [Int.abs_eq_natAbs] at hn
    unfold IsInt64
    omega
  have hnegative : exponent.negative = decide (n < 0) := negative_eq_of_whole hexponent hzero
  unfold pow
  rw [if_neg (by simp [isZero_of_value_ne_zero hnonzero]), if_neg (by simp [hone]),
    if_neg (by simp [hbase])]
  simp only [hword, isWhole_of_value hmagnitude, hnegative, Int.toNat_natCast]
  cases base.powNat? n.natAbs with
  | none => rfl
  | some power =>
    by_cases hnegative : n < 0
    · simp only [hnegative, reciprocal, if_true, pure_bind, decide_true]
      cases power.isZero with
      | true => rfl
      | false => cases one.div? power <;> rfl
    · simp only [hnegative]
      rfl

/-- The reciprocal of a whole number is rounded half to even to its last decimal. -/
theorem value_reciprocal (hscale : p.scale = 0) (hzero : p.value ≠ 0) :
    ∃ inverse, one.div? p = some inverse ∧ reciprocal p = .ok inverse ∧
      inverse.value = RoundingMode.nearestEven.select (10 ^ maxScale / p.value) / 10 ^ maxScale := by
  have hpos : 0 < p.coefficient :=
    Nat.pos_of_ne_zero (by simpa [isZero] using isZero_of_value_ne_zero hzero)
  obtain ⟨inverse, hdiv, hvalue⟩ := value_div? (d := one) hscale hpos (Roomy.one p.coefficient)
  refine ⟨inverse, hdiv, ?_, ?_⟩
  · rw [reciprocal, if_neg (by simp [isZero_of_value_ne_zero hzero]), hdiv]
  · rw [hvalue, value_one, one_div_mul_eq_div]
    rfl

/-- The power is what squaring finds, or its reciprocal, also where it is known beforehand. -/
theorem pow_found (hbase : base.scale = 0) (hexponent : exponent.value = n) (hn : |n| < 2 ^ 63) :
    ∃ result, numbers.Found (base.value ^ n.natAbs) result ∧
      base.pow exponent =
        match result with
        | none => .error .overflow
        | some power => if n < 0 then reciprocal power else .ok power := by
  have hbaseIs : numbers.Is base base.value := ⟨hbase, rfl⟩
  have honeIs : numbers.Is one 1 := ⟨rfl, value_one⟩
  by_cases hzero : n = 0
  · have hnone : exponent.isZero = true := by rw [isZero_iff, hexponent, hzero, Int.cast_zero]
    refine ⟨some one, ?_, ?_⟩
    · rw [hzero, Int.natAbs_zero, pow_zero]
      exact .of_is honeIs
    · rw [pow_of_isZero hnone, hzero]
      rfl
  have hsome : exponent.isZero = false := by
    apply isZero_of_value_ne_zero
    rw [hexponent]
    exact_mod_cast hzero
  by_cases hone : base.same one = true
  · refine ⟨some one, ?_, ?_⟩
    · rw [same_iff.mp hone, value_one, one_pow]
      exact .of_is honeIs
    · have hinverse : reciprocal one = .ok one := by decide +kernel
      simp only [pow_one_base hsome hone, hinverse, ite_self]
  by_cases hnull : base.isZero = true
  · refine ⟨some zero, ?_, ?_⟩
    · rw [value_of_zero hnull, zero_pow (Int.natAbs_ne_zero.mpr hzero)]
      exact .of_is ⟨rfl, value_of_zero rfl⟩
    · have hnegative : exponent.negative = decide (n < 0) := negative_eq_of_whole hexponent hzero
      have hinverse : reciprocal zero = .error .divisionByZero := rfl
      simp only [pow_zero_base hsome hnull, hnegative, decide_eq_true_eq, hinverse]
  · exact ⟨_, found_powNat? hbaseIs n.natAbs,
      pow_of_whole hexponent hn hzero (Bool.eq_false_iff.mpr hone) (Bool.eq_false_iff.mpr hnull)⟩

end Decimal

namespace BuiltIn

open Decimal (limit maxScale one)

variable {base exponent : Decimal} {n : ℤ}

/-- The power of a whole number with a whole exponent from zero on is exact if there is room for it,
    and an overflow otherwise. With an exponent below zero it is the reciprocal of the power with the
    opposite exponent, as a quotient of decimals; it is missing for a base of zero and where there is
    no room for that power. -/
theorem power_whole (token : Token) (hbase : base.scale = 0) (hexponent : exponent.value = n)
    (hn : |n| < 2 ^ 63) :
    (0 ≤ n →
      (|base.value ^ n.natAbs| < limit → ∃ p, power token base exponent = .ok p ∧
        p.scale = 0 ∧ p.value = base.value ^ n.natAbs) ∧
      (limit ≤ |base.value ^ n.natAbs| →
        power token base exponent = .error (token.arithmetic .overflow))) ∧
    (n < 0 →
      (base.value = 0 → power token base exponent = .error (token.arithmetic .divisionByZero)) ∧
      (limit ≤ |base.value ^ n.natAbs| →
        power token base exponent = .error (token.arithmetic .overflow)) ∧
      (base.value ≠ 0 → |base.value ^ n.natAbs| < limit → ∃ p inverse : Decimal,
        p.scale = 0 ∧ p.value = base.value ^ n.natAbs ∧ one.div? p = some inverse ∧
        power token base exponent = .ok inverse ∧
        inverse.value =
          RoundingMode.nearestEven.select (10 ^ maxScale / p.value) / 10 ^ maxScale)) := by
  obtain ⟨result, hfound, hpow⟩ := Decimal.pow_found hbase hexponent hn
  have hoverflow (hfull : (limit : ℚ) ≤ |base.value ^ n.natAbs|) :
      power token base exponent = .error (token.arithmetic .overflow) := by
    rw [power, hpow, hfound.beyond hfull]
    rfl
  refine ⟨fun hle => ⟨fun hless => ?_, hoverflow⟩, fun hneg => ⟨fun hzero => ?_, hoverflow,
    fun hzero hless => ?_⟩⟩
  · obtain ⟨p, rfl, hscale, hvalue⟩ := hfound.within hless
    refine ⟨p, ?_, hscale, hvalue⟩
    simp only [power, hpow, if_neg (not_lt.mpr hle)]
  · have hvalue : base.value ^ n.natAbs = 0 := by
      rw [hzero, zero_pow (Int.natAbs_ne_zero.mpr hneg.ne)]
    have hroom : (0 : ℚ) < limit := Nat.cast_pos.mpr (by decide : 0 < limit)
    obtain ⟨p, rfl, -, hp⟩ := hfound.within (by rwa [hvalue, abs_zero])
    have hinverse : Decimal.reciprocal p = .error .divisionByZero :=
      if_pos (Decimal.isZero_iff.mpr (hp.trans hvalue))
    simp only [power, hpow, if_pos hneg, hinverse]
    rfl
  · obtain ⟨p, rfl, hscale, hvalue⟩ := hfound.within hless
    have hnonzero : p.value ≠ 0 := by
      rw [hvalue]
      exact pow_ne_zero _ hzero
    obtain ⟨inverse, hdiv, hreciprocal, hinverse⟩ := Decimal.value_reciprocal hscale hnonzero
    refine ⟨p, inverse, hscale, hvalue, hdiv, ?_, hinverse⟩
    simp only [power, hpow, if_pos hneg, hreciprocal]

/-- With the exponent `-3.0` the power of `-2` is one eighth below zero, and with the exponent 96 it
    is the first one without room. -/
theorem power_whole_minusTwo :
    let base : Decimal := ⟨true, 2, 0, by decide, by decide⟩
    let few : Decimal := ⟨true, 30, 1, by decide, by decide⟩
    let many : Decimal := ⟨false, 96, 0, by decide, by decide⟩
    let token : Token := ⟨.infixOperator, "^", 3, none⟩
    base.scale = 0 ∧ few.value = (-3 : ℤ) ∧ many.value = (96 : ℤ) ∧
    |(-3 : ℤ)| < 2 ^ 63 ∧ |(96 : ℤ)| < 2 ^ 63 ∧
    (∃ inverse, power token base few = .ok inverse ∧ inverse.value = -1 / 8) ∧
    power token base many = .error (token.arithmetic .overflow) := by
  intro base few many token
  have hbase : base.value = -2 := by norm_num [base, Decimal.value, Decimal.signed]
  have hfew : few.value = (-3 : ℤ) := by norm_num [few, Decimal.value, Decimal.signed]
  have hmany : many.value = (96 : ℤ) := by norm_num [many, Decimal.value, Decimal.signed]
  have hroom : (limit : ℚ) = 2 ^ 96 := by exact_mod_cast rfl
  have hscale : base.scale = 0 := rfl
  obtain ⟨-, hneg⟩ := power_whole token hscale hfew (by norm_num)
  obtain ⟨hnonneg, -⟩ := power_whole token hscale hmany (by norm_num)
  obtain ⟨p, inverse, -, hp, -, hpower, hinverse⟩ :=
    (hneg (by norm_num)).2.2 (by norm_num [hbase]) (by norm_num [hbase, hroom])
  have hdigits : (10 : ℚ) ^ maxScale / p.value = ((-1250000000000000000000000000 : ℤ) : ℚ) := by
    norm_num [hp, hbase]
  refine ⟨hscale, hfew, hmany, by norm_num, by norm_num, ⟨inverse, hpower, ?_⟩,
    (hnonneg (by norm_num)).2 (by norm_num [hbase, hroom])⟩
  rw [hinverse, hdigits, RoundingMode.select_intCast]
  norm_num

end BuiltIn
end Formula

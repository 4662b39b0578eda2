-- SUMMARY: Rounding to significant digits selects a multiple of the unit of the last digit that is kept, within the reach of a 64-bit power of ten.
import Formula.Proofs.Decimal.Quotient
import Formula.Proofs.Decimal.Rounding
import Formula.Settings

/-!
# Significant digits

A number with more digits than the precision loses the last ones: it becomes the multiple of the
unit of the last kept digit that the rounding mode selects (`Precision.selected`). Inside the
decimals that is one rounding. Inside the whole part the number is divided by a power of ten,
rounded and multiplied again. The division is exact, so the three steps are one rounding as well,
but the power has to fit a 64-bit signed number: if more than 18 digits before the point are to go,
the number stays as it is.
-/

namespace Formula

/-! ## Rounded quotients -/

/-- Rounding off all but the first digits of a magnitude leaves a magnitude with these digits, or
    the next power of ten. -/
theorem roundQuotient_le_tenTo (mode : RoundingMode) (negative : Bool) {n kept drop : Nat}
    (h : n < tenTo (kept + drop)) :
    roundQuotient mode negative n (tenTo drop) ≤ tenTo kept := by
  have hle := roundQuotient_le mode negative n (tenTo drop)
  have hlt : n / tenTo drop < tenTo kept := by
    rw [Nat.div_lt_iff_lt_mul (tenTo_pos drop), ← tenTo_add]
    exact h
  omega

theorem roundQuotient_pos (mode : RoundingMode) (negative : Bool) {n drop : Nat}
    (h : tenTo drop ≤ n) : 0 < roundQuotient mode negative n (tenTo drop) :=
  Nat.lt_of_lt_of_le (Nat.div_pos h (tenTo_pos drop)) (le_roundQuotient mode negative n _)

namespace Decimal

variable {d : Decimal}

/-! ## Digits -/

theorem digitCount_le_iff {count : Nat} (h : 0 < count) :
    d.digitCount ≤ count ↔ d.coefficient < tenTo count :=
  Nat.length_toDigits_le_iff (by decide) h

theorem coefficient_lt_tenTo : d.coefficient < tenTo d.digitCount :=
  (digitCount_le_iff Nat.length_toDigits_pos).mp (Nat.le_refl _)

theorem tenTo_le_coefficient {count : Nat} (hpos : 0 < count) (h : count < d.digitCount) :
    tenTo count ≤ d.coefficient :=
  Nat.le_of_not_lt fun hlt => Nat.not_le_of_lt h ((digitCount_le_iff hpos).mpr hlt)

theorem digitCount_le : d.digitCount ≤ 29 :=
  (digitCount_le_iff (by decide)).mpr (Nat.lt_trans d.coefficient_lt (by decide))

/-- A number has no more significant digits than given: the other ones, at the end, are zero. -/
def Within (count : Nat) (d : Decimal) : Prop :=
  ∃ leading zeros, d.coefficient = leading * tenTo zeros ∧ leading < tenTo count

theorem within_of_le {count n zeros : Nat} (hpos : 0 < count) (hle : n ≤ tenTo count)
    (h : d.coefficient = n * tenTo zeros) : d.Within count := by
  rcases Nat.lt_or_eq_of_le hle with hlt | rfl
  · exact ⟨n, zeros, h, hlt⟩
  · refine ⟨1, count + zeros, by rw [h, ← tenTo_add, Nat.one_mul], ?_⟩
    exact Nat.lt_of_lt_of_le (by decide) (tenTo_le_tenTo (Nat.succ_le_of_lt hpos))

theorem within_of_digitCount {count : Nat} (h : d.digitCount ≤ count) : d.Within count := by
  have hpos : 0 < count := Nat.lt_of_lt_of_le Nat.length_toDigits_pos h
  exact ⟨d.coefficient, 0, (Nat.mul_one _).symm, (digitCount_le_iff hpos).mp h⟩

/-! ## One rounding -/

/-- A number that does not become zero keeps its sign. -/
theorem roundTo_eq (mode : RoundingMode) {places : Nat} (h : places < d.scale)
    (hbig : tenTo (d.scale - places) ≤ d.coefficient) :
    (d.roundTo places mode).negative = d.negative ∧
    (d.roundTo places mode).coefficient =
      roundQuotient mode d.negative d.coefficient (tenTo (d.scale - places)) ∧
    (d.roundTo places mode).scale = places := by
  have hpos := roundQuotient_pos mode d.negative hbig
  rw [roundTo, dif_pos h]
  refine ⟨?_, rfl, rfl⟩
  have hnonzero : (roundQuotient mode d.negative d.coefficient (tenTo (d.scale - places)) != 0) =
      true := bne_iff_ne.mpr (Nat.ne_of_gt hpos)
  simp only [hnonzero, Bool.or_true, Bool.and_true]

/-- Rounding to a whole number, also of a number that is one. -/
theorem roundTo_zero (mode : RoundingMode) (hbig : tenTo d.scale ≤ d.coefficient) :
    (d.roundTo 0 mode).negative = d.negative ∧
    (d.roundTo 0 mode).coefficient =
      roundQuotient mode d.negative d.coefficient (tenTo d.scale) ∧
    (d.roundTo 0 mode).scale = 0 := by
  by_cases h : 0 < d.scale
  · exact roundTo_eq mode h hbig
  · have hscale : d.scale = 0 := Nat.eq_zero_of_not_pos h
    rw [roundTo, dif_neg h]
    refine ⟨rfl, ?_, hscale⟩
    have hexact := roundQuotient_exact mode d.negative d.coefficient (tenTo_pos 0)
    rw [Nat.mul_one] at hexact
    rw [hscale, hexact]

/-! ## Products -/

theorem fit?_whole (negative : Bool) (n : Nat) : fit? negative n 0 = make? negative n 0 := by
  have hkept : dropDigits n 0 = n := by
    have hexact := roundQuotient_exact .nearestEven false n (tenTo_pos 0)
    rwa [Nat.mul_one] at hexact
  by_cases h : n < limit
  · simp [fit?, dropCount?, List.range_succ, hkept, h]
  · simp [fit?, dropCount?, List.range_succ, hkept, h, make?]

/-- The product of a whole number and a power of ten, if there is room for it. -/
theorem mul?_tenTo {factor : Decimal} {shift : Nat} (hscale : d.scale = 0)
    (hpos : 0 < d.coefficient) (hsign : factor.negative = false)
    (hfactor : factor.coefficient = tenTo shift) (hwhole : factor.scale = 0) :
    d.mul? factor = make? d.negative (d.coefficient * tenTo shift) 0 := by
  have hzero := isZero_eq_false hpos
  have hfactorZero : factor.isZero = false := isZero_eq_false (hfactor ▸ tenTo_pos shift)
  rw [mul?, if_neg (by simp [hzero, hfactorZero]), if_neg (by simp [hscale, hwhole]), hscale,
    hwhole, hfactor, hsign, fit?_whole]
  unfold make?
  split
  · have hproduct := Nat.ne_of_gt (Nat.mul_pos hpos (tenTo_pos shift))
    have hnonzero : (d.coefficient * tenTo shift == 0) = false := beq_eq_false_iff_ne.mpr hproduct
    simp only [Nat.zero_le, dite_true, Option.map_some, isZero, hnonzero, Bool.and_false,
      Bool.not_false, Bool.and_true, Bool.bne_false]
  · rfl

/-! ## Significant digits -/

section Significant

variable {precision : Nat}

theorem roundSignificant_of_le (h : d.digitCount ≤ precision) (mode : RoundingMode) :
    d.roundSignificant precision mode = d := by
  rw [roundSignificant, if_pos (by simp [h])]

theorem roundSignificant_eq (hpos : 0 < precision) (h : precision < d.digitCount)
    (mode : RoundingMode) : d.roundSignificant precision mode =
      if d.digitCount - precision ≤ d.scale then
        d.roundTo (d.scale - (d.digitCount - precision)) mode
      else
        ((powerOfTen? (d.digitCount - precision - d.scale)).bind fun factor =>
          (d.div? factor).bind fun scaled => (scaled.roundTo 0 mode).mul? factor).getD d := by
  have hzero : d.isZero = false :=
    isZero_eq_false (Nat.lt_of_lt_of_le (tenTo_pos precision) (tenTo_le_coefficient hpos h))
  rw [roundSignificant, if_neg (by simp [hzero]; omega)]
  rfl

/-- The digits that go are digits of the number. -/
theorem tenTo_excess_le (hpos : 0 < precision) (h : precision < d.digitCount) :
    tenTo (d.digitCount - precision) ≤ d.coefficient :=
  tenTo_le_coefficient (Nat.sub_pos_of_lt h) (Nat.sub_lt (by omega) hpos)

/-- Rounding inside the decimals. -/
theorem roundSignificant_places (hpos : 0 < precision) (h : precision < d.digitCount)
    (hplaces : d.digitCount - precision ≤ d.scale) (mode : RoundingMode) :
    (d.roundSignificant precision mode).negative = d.negative ∧
    (d.roundSignificant precision mode).coefficient =
      roundQuotient mode d.negative d.coefficient (tenTo (d.digitCount - precision)) ∧
    (d.roundSignificant precision mode).scale = d.scale - (d.digitCount - precision) := by
  have hdrop : d.scale - (d.scale - (d.digitCount - precision)) = d.digitCount - precision := by
    omega
  rw [roundSignificant_eq hpos h, if_pos hplaces]
  have hbig : tenTo (d.scale - (d.scale - (d.digitCount - precision))) ≤ d.coefficient := by
    rw [hdrop]
    exact tenTo_excess_le hpos h
  have hround := roundTo_eq mode (by omega) hbig
  rwa [hdrop] at hround

/-- Rounding inside the whole part is one rounding, if the power of ten is in reach and there is
    room for the result. -/
theorem roundSignificant_whole (hpos : 0 < precision) (h : precision < d.digitCount)
    (hwhole : d.scale < d.digitCount - precision) (mode : RoundingMode) :
    d.roundSignificant precision mode =
      if d.digitCount - precision ≤ d.scale + 18 then
        (make? d.negative
          (roundQuotient mode d.negative d.coefficient (tenTo (d.digitCount - precision)) *
            tenTo (d.digitCount - precision - d.scale)) 0).getD d
      else d := by
  have hdigits := @digitCount_le d
  have hsplit : d.scale + (d.digitCount - precision - d.scale) = d.digitCount - precision := by
    omega
  rw [roundSignificant_eq hpos h, if_neg (Nat.not_le_of_lt hwhole)]
  split
  · obtain ⟨factor, hfactor, hsign, hcoefficient, hscale⟩ :=
      powerOfTen?_eq (k := d.digitCount - precision - d.scale) (by omega)
    have hbig := tenTo_excess_le hpos h
    have hcoefficientPos : 0 < d.coefficient := Nat.lt_of_lt_of_le (tenTo_pos _) hbig
    obtain ⟨w, hdiv, hnegative, hexact⟩ :=
      div?_tenTo_exact hsign hcoefficient hscale hcoefficientPos (by simp only [maxScale]; omega)
    rw [hsplit] at hexact
    have hround : tenTo w.scale ≤ w.coefficient := by
      apply Nat.le_of_mul_le_mul_right _ (tenTo_pos (d.digitCount - precision))
      rw [hexact, Nat.mul_comm]
      exact Nat.mul_le_mul_right _ hbig
    have hquotient : roundQuotient mode w.negative w.coefficient (tenTo w.scale) =
        roundQuotient mode d.negative d.coefficient (tenTo (d.digitCount - precision)) := by
      rw [hnegative]
      exact roundQuotient_congr mode _ (tenTo_pos _) (tenTo_pos _) hexact
    obtain ⟨hwnegative, hwcoefficient, hwscale⟩ := roundTo_zero mode hround
    have hmul := mul?_tenTo hwscale (hwcoefficient ▸ roundQuotient_pos mode _ hround) hsign
      hcoefficient hscale
    rw [hfactor, Option.bind_some, hdiv, Option.bind_some, hmul, hwnegative, hnegative,
      hwcoefficient, hquotient]
  · rename_i hfar
    rw [powerOfTen?, if_neg (by omega)]
    rfl

end Significant

/-! ## Values -/

theorem withSign_mul (negative : Bool) (x y : ℚ) :
    withSign negative x * y = withSign negative (x * y) := by
  unfold withSign
  split
  · ring
  · rfl

theorem abs_withSign (negative : Bool) (x : ℚ) : |withSign negative x| = |x| := by
  unfold withSign
  split
  · exact abs_neg x
  · rfl

/-- A whole number that is the value of a decimal is within the bound of coefficients. -/
theorem lt_limit_of_value {negative : Bool} {n : Nat} (h : d.value = withSign negative n) :
    n < limit := by
  have habs : |d.value| = |withSign negative (n : ℚ)| := by rw [h]
  rw [value_eq, abs_withSign, abs_withSign, abs_of_nonneg (by positivity),
    abs_of_nonneg (by positivity), div_eq_iff (by positivity), ← cast_tenTo] at habs
  have hcoefficient : d.coefficient = n * tenTo d.scale := by exact_mod_cast habs
  have hle : n ≤ d.coefficient := by
    rw [hcoefficient]
    exact Nat.le_mul_of_pos_right n (tenTo_pos d.scale)
  exact Nat.lt_of_le_of_lt hle d.coefficient_lt

end Decimal

/-! ## Precision -/

namespace Precision

variable {precision : Precision} {v : Decimal}

/-- The unit of the last digit that is kept is ten to this power. -/
def exponent (precision : Precision) (v : Decimal) : ℤ :=
  (v.digitCount : ℤ) - precision.digits - v.scale

/-- The multiple of the unit that the rounding mode selects. -/
def selected (precision : Precision) (v : Decimal) : ℚ :=
  precision.rounding.select (v.value / 10 ^ precision.exponent v) * 10 ^ precision.exponent v

/-- The magnitude of the multiple: what is left of the coefficient. -/
def kept (precision : Precision) (v : Decimal) : Nat :=
  roundQuotient precision.rounding v.negative v.coefficient
    (tenTo (v.digitCount - precision.digits))

theorem selected_eq (h : precision.digits < v.digitCount) :
    precision.selected v =
      Decimal.withSign v.negative (precision.kept v) * 10 ^ precision.exponent v := by
  have hexponent :
      precision.exponent v = ((v.digitCount - precision.digits : Nat) : ℤ) - v.scale := by
    unfold exponent
    omega
  have hten : (10 : ℚ) ≠ 0 := by norm_num
  have hvalue : v.value / 10 ^ precision.exponent v = Decimal.withSign v.negative
      ((v.coefficient : ℚ) / (tenTo (v.digitCount - precision.digits) : Nat)) := by
    rw [hexponent, zpow_sub₀ hten, zpow_natCast, zpow_natCast, cast_tenTo, v.value_eq,
      div_eq_mul_inv, Decimal.withSign_mul]
    congr 1
    field_simp
  rw [selected, hvalue, select_withSign _ _ (tenTo_pos _)]
  rfl

/-- Inside the whole part the multiple is a whole number. -/
theorem selected_whole (h : precision.digits < v.digitCount)
    (hwhole : v.scale < v.digitCount - precision.digits) :
    precision.selected v = Decimal.withSign v.negative
      ((precision.kept v * tenTo (v.digitCount - precision.digits - v.scale) : Nat) : ℚ) := by
  have hexponent : precision.exponent v =
      ((v.digitCount - precision.digits - v.scale : Nat) : ℤ) := by
    unfold exponent
    omega
  rw [selected_eq h, hexponent, zpow_natCast, Decimal.withSign_mul, Nat.cast_mul, cast_tenTo]

/-- What is kept of the coefficient are as many digits as the precision has, or one more if they
    became a power of ten. -/
theorem kept_le (h : precision.digits < v.digitCount) :
    precision.kept v ≤ tenTo precision.digits := by
  have hlt := @Decimal.coefficient_lt_tenTo v
  apply roundQuotient_le_tenTo
  rwa [Nat.add_sub_cancel' (Nat.le_of_lt h)]

/-- Inside the decimals there is always room for the multiple. -/
theorem value_round_places (hdigits : 0 < precision.digits) (h : precision.digits < v.digitCount)
    (hplaces : v.digitCount - precision.digits ≤ v.scale) :
    (precision.round v).value = precision.selected v ∧
      (precision.round v).Within precision.digits := by
  obtain ⟨hnegative, hcoefficient, hscale⟩ :=
    Decimal.roundSignificant_places hdigits h hplaces precision.rounding
  have hexponent : precision.exponent v =
      -((v.scale - (v.digitCount - precision.digits) : Nat) : ℤ) := by
    unfold exponent
    omega
  constructor
  · rw [round, Decimal.value_eq, hnegative, hcoefficient, hscale, selected_eq h, hexponent,
      zpow_neg, zpow_natCast, Decimal.withSign_mul, ← div_eq_mul_inv]
    rfl
  · have hkept : (precision.round v).coefficient = precision.kept v * tenTo 0 :=
      hcoefficient.trans (Nat.mul_one (precision.kept v)).symm
    exact Decimal.within_of_le hdigits (kept_le h) hkept

/-- Inside the whole part the result is the multiple, if there is room for it. -/
theorem round_whole (hdigits : 0 < precision.digits) (h : precision.digits < v.digitCount)
    (hwhole : v.scale < v.digitCount - precision.digits) (hreach : precision.exponent v ≤ 18) :
    (∃ hroom : precision.kept v * tenTo (v.digitCount - precision.digits - v.scale) < twoTo 96,
      precision.round v = ⟨v.negative,
        precision.kept v * tenTo (v.digitCount - precision.digits - v.scale), 0, hroom,
        Nat.zero_le _⟩) ∨
    (Decimal.limit ≤ precision.kept v * tenTo (v.digitCount - precision.digits - v.scale) ∧
      precision.round v = v) := by
  have hreach : v.digitCount - precision.digits ≤ v.scale + 18 := by
    unfold exponent at hreach
    omega
  rw [round, Decimal.roundSignificant_whole hdigits h hwhole, if_pos hreach, Decimal.make?]
  split
  · rename_i hroom
    exact .inl ⟨hroom, rfl⟩
  · rename_i hfull
    exact .inr ⟨Nat.le_of_not_lt hfull, rfl⟩

/-- Rounding to the precision keeps a number with no more digits than that. Of every other number it
    makes the multiple of the unit of the last digit that the mode selects, which has no more
    significant digits than the precision, if the unit is at most ten to 18 and a decimal has that
    value. Otherwise the number stays as it is. -/
theorem round_value (hdigits : 0 < precision.digits) :
    (v.digitCount ≤ precision.digits → precision.round v = v) ∧
    (precision.digits < v.digitCount →
      (precision.exponent v ≤ 18 ∧ (∃ w : Decimal, w.value = precision.selected v) →
        (precision.round v).value = precision.selected v ∧
          (precision.round v).Within precision.digits) ∧
      (18 < precision.exponent v ∨ (∀ w : Decimal, w.value ≠ precision.selected v) →
        precision.round v = v)) := by
  refine ⟨fun h => Decimal.roundSignificant_of_le h _, fun h => ?_⟩
  by_cases hplaces : v.digitCount - precision.digits ≤ v.scale
  · have hround := value_round_places hdigits h hplaces
    refine ⟨fun _ => hround, fun hnone => ?_⟩
    rcases hnone with hfar | hnone
    · unfold exponent at hfar
      omega
    · exact absurd hround.1 (hnone _)
  · have hwhole := Nat.lt_of_not_le hplaces
    have hselected := selected_whole h hwhole
    constructor
    · rintro ⟨hreach, w, hw⟩
      rcases round_whole hdigits h hwhole hreach with ⟨hroom, hround⟩ | ⟨hfull, _⟩
      · rw [hround]
        refine ⟨?_, Decimal.within_of_le hdigits (kept_le h) rfl⟩
        rw [hselected, Decimal.value_eq, pow_zero, div_one]
      · exact absurd (Decimal.lt_limit_of_value (hw.trans hselected)) (Nat.not_lt_of_le hfull)
    · intro hnone
      by_cases hreach : precision.exponent v ≤ 18
      · rcases round_whole hdigits h hwhole hreach with ⟨hroom, hround⟩ | ⟨_, hround⟩
        · have hvalue : (precision.round v).value = precision.selected v := by
            rw [hround, hselected, Decimal.value_eq, pow_zero, div_one]
          rcases hnone with hfar | hnone
          · exact absurd hreach (not_le_of_gt hfar)
          · exact absurd hvalue (hnone _)
        · exact hround
      · unfold exponent at hreach
        rw [round, Decimal.roundSignificant_whole hdigits h hwhole, if_neg (by omega)]

/-- One significant digit of twenty: the multiple is a decimal, but its unit is out of reach. -/
theorem round_value_unreached : ∃ v w : Decimal,
    v.coefficient = 12345678901234567890 ∧ v.scale = 0 ∧
    w.coefficient = 10000000000000000000 ∧ w.scale = 0 ∧
    w.value = selected ⟨1, .nearestEven⟩ v ∧ round ⟨1, .nearestEven⟩ v = v := by
  let precision : Precision := ⟨1, .nearestEven⟩
  let v : Decimal := ⟨false, 12345678901234567890, 0, by decide, by decide⟩
  let w : Decimal := ⟨false, 10000000000000000000, 0, by decide, by decide⟩
  have hdigits : v.digitCount = 20 := by decide +kernel
  have hless : precision.digits < v.digitCount := by
    rw [hdigits]
    decide
  have hfar : 18 < precision.exponent v := by
    rw [exponent, hdigits]
    decide
  have hkept : precision.kept v * tenTo (v.digitCount - precision.digits - v.scale) =
      w.coefficient := by
    decide +kernel
  refine ⟨v, w, rfl, rfl, rfl, rfl, ?_, ((round_value (by decide)).2 hless).2 (.inl hfar)⟩
  rw [selected_whole hless (by rw [hdigits]; decide), hkept, Decimal.value_eq, pow_zero, div_one]

end Precision
end Formula

-- SUMMARY: Rounding and finishing a number depend on its value only, so finishing a number a second time keeps its value.
import Formula.Proofs.Decimal.Finish

/-!
# Values of finished numbers

How a number is written does not matter to the value that rounding makes of it: rounding to places
selects a multiple of their unit (`Decimal.value_roundTo`), and rounding to the precision selects a
multiple of a unit that follows from the value, where there is one in reach
(`Precision.value_round`). Zeros at the end, whether they are removed or appended, change no value.
So the settings that keep zeros finish a number to the value that it has without them.
-/

namespace Formula

/-! ## Ways to write a value -/

namespace Decimal

variable {a b d : Decimal}

theorem value_of_zero (h : d.isZero = true) : d.value = 0 := by
  have hcoefficient : d.coefficient = 0 := eq_of_beq h
  rw [value_eq, hcoefficient]
  simp [withSign]

theorem abs_value (d : Decimal) : |d.value| = (d.coefficient : ℚ) / 10 ^ d.scale := by
  rw [value_eq, abs_withSign, abs_of_nonneg (by positivity)]

theorem isZero_iff : d.isZero = true ↔ d.value = 0 := by
  refine ⟨value_of_zero, fun h => ?_⟩
  have habs : |d.value| = 0 := by rw [h, abs_zero]
  rw [abs_value, div_eq_zero_iff] at habs
  rcases habs with habs | habs
  · exact beq_iff_eq.mpr (by exact_mod_cast habs)
  · exact absurd habs (by positivity)

theorem isZero_of_value_ne_zero (h : d.value ≠ 0) : d.isZero = false := by
  rwa [← Bool.not_eq_true, isZero_iff]

/-- The sign of a number that is not zero says whether it is below zero. -/
theorem negative_eq (h : d.value ≠ 0) : d.negative = decide (d.value < 0) := by
  have hpos : (0 : ℚ) < d.coefficient / 10 ^ d.scale := by
    rw [← abs_value]
    exact abs_pos.mpr h
  rw [value_eq]
  cases d.negative with
  | false => exact (decide_eq_false (not_lt.mpr hpos.le)).symm
  | true => exact (decide_eq_true (neg_lt_zero.mpr hpos)).symm

theorem negative_and_not_isZero : (d.negative && !d.isZero) = true ↔ d.value < 0 := by
  rw [Bool.and_eq_true, Bool.not_eq_true', ← Bool.not_eq_true, isZero_iff]
  constructor
  · rintro ⟨hnegative, hvalue⟩
    rw [negative_eq hvalue] at hnegative
    exact of_decide_eq_true hnegative
  · intro hbelow
    have hvalue : d.value ≠ 0 := ne_of_lt hbelow
    exact ⟨(negative_eq hvalue).trans (decide_eq_true hbelow), hvalue⟩

/-- Digits that are zero at the end do not count. -/
theorem value_of_trimmed (hnegative : b.negative = a.negative)
    (h : Trimmed a.coefficient a.scale (b.coefficient, b.scale)) : b.value = a.value := by
  obtain ⟨count, hcoefficient, hscale⟩ := h
  simp only at hcoefficient hscale
  rw [value_eq, value_eq, hnegative, hcoefficient, hscale, Nat.cast_mul, cast_tenTo, pow_add,
    mul_div_mul_right _ _ (by positivity)]

theorem value_normalize (d : Decimal) : d.normalize.value = d.value := by
  cases hzero : d.isZero with
  | true =>
    rw [normalize, if_pos hzero, value_of_zero hzero]
    exact value_of_zero rfl
  | false =>
    refine value_of_trimmed ?_ (normalize_trimmed hzero)
    rw [normalize, if_neg (by simp [hzero])]

theorem value_appendZeros (d : Decimal) (count : Nat) : (d.appendZeros count).value = d.value := by
  induction count generalizing d with
  | zero => rfl
  | succ count ih =>
    rw [appendZeros]
    split
    · rename_i h
      let longer : Decimal := ⟨d.negative, d.coefficient * 10, d.scale + 1, h.1, h.2⟩
      have hlonger : d.value = longer.value := value_of_trimmed rfl ⟨1, rfl, rfl⟩
      rw [ih]
      exact hlonger.symm
    · rfl

theorem value_padTo (d : Decimal) (places : Nat) : (d.padTo places).value = d.value := by
  unfold padTo
  split
  · rfl
  · split
    · rename_i hzero
      rw [value_of_zero hzero]
      exact value_of_zero rfl
    · exact value_appendZeros d _

/-! ## Rounding to places -/

/-- A whole number is selected for itself. -/
theorem select_whole (mode : RoundingMode) (negative : Bool) (n : Nat) :
    (mode.select (withSign negative n) : ℚ) = withSign negative n := by
  have hwhole : withSign negative (n : ℚ) = ((if negative then -n else n : ℤ) : ℚ) := by
    unfold withSign
    push_cast
    rfl
  rw [hwhole, RoundingMode.select_intCast]

/-- Rounding to places selects a multiple of their unit. -/
theorem value_roundTo (d : Decimal) (places : Nat) (mode : RoundingMode) :
    (d.roundTo places mode).value = mode.select (d.value * 10 ^ places) / 10 ^ places := by
  by_cases hplaces : places < d.scale
  · have hshift : d.value * 10 ^ places =
        withSign d.negative ((d.coefficient : ℚ) / (tenTo (d.scale - places) : Nat)) := by
      have hscale : d.scale = (d.scale - places) + places := by omega
      rw [value_eq, withSign_mul, cast_tenTo]
      congr 1
      conv_lhs => rw [hscale, pow_add]
      field_simp
    rw [hshift, select_withSign mode _ (tenTo_pos _), value_eq, roundTo, dif_pos hplaces]
    simp only
    rw [div_eq_mul_inv, ← withSign_mul, ← div_eq_mul_inv]
    congr 1
    -- A result of zero has lost its sign.
    by_cases hzero :
        roundQuotient mode d.negative d.coefficient (tenTo (d.scale - places)) = 0
    · rw [hzero]
      simp [withSign]
    · rw [bne_iff_ne.mpr hzero, Bool.or_true, Bool.and_true]
  · have hshift : d.value * 10 ^ places =
        withSign d.negative (d.coefficient * tenTo (places - d.scale) : Nat) := by
      have hscale : places = (places - d.scale) + d.scale := by omega
      rw [value_eq, withSign_mul, Nat.cast_mul, cast_tenTo]
      congr 1
      conv_lhs => rw [hscale, pow_add]
      field_simp
    rw [roundTo, dif_neg hplaces, hshift, select_whole, ← hshift]
    field_simp

/-- Without its decimals a number is the whole number that is selected toward zero. -/
theorem toInt_eq_select (d : Decimal) : d.toInt = RoundingMode.towardZero.select d.value := by
  have hwhole : roundQuotient .towardZero d.negative d.coefficient (tenTo d.scale) = d.whole := rfl
  have hselect :=
    @select_withSign d.coefficient (tenTo d.scale) .towardZero d.negative (tenTo_pos d.scale)
  rw [cast_tenTo, ← value_eq, hwhole] at hselect
  have hcast : (d.toInt : ℚ) = withSign d.negative d.whole := by
    unfold toInt withSign
    split
    · push_cast
      rfl
    · rfl
  exact_mod_cast hcast.trans hselect.symm

/-! ## Quotients -/

theorem withSign_div_withSign (negative other : Bool) (x y : ℚ) :
    withSign negative x / withSign other y = withSign (negative != other) (x / y) := by
  cases negative <;> cases other <;> simp [withSign, neg_div, div_neg]

/-- A quotient by a whole number, in a division in which digits have room, is rounded half to even
    to its last decimal. -/
theorem value_div? {divisor : Decimal} (hwhole : divisor.scale = 0)
    (hpos : 0 < divisor.coefficient)
    (hroomy : Roomy d.coefficient d.scale divisor.coefficient) :
    ∃ w, d.div? divisor = some w ∧ w.value =
      RoundingMode.nearestEven.select (d.value / divisor.value * 10 ^ quotientPlaces d.scale) /
        10 ^ quotientPlaces d.scale := by
  obtain ⟨w, hdiv, hnegative, hmost, hdigits⟩ := div?_nearest hwhole hpos hroomy
  refine ⟨w, hdiv, ?_⟩
  have hplaces : quotientPlaces d.scale = (quotientPlaces d.scale - d.scale) + d.scale :=
    (Nat.sub_add_cancel (Nat.le_max_right _ _)).symm
  have hshift : d.value / divisor.value * 10 ^ quotientPlaces d.scale =
      withSign (d.negative != divisor.negative)
        ((d.coefficient * tenTo (quotientPlaces d.scale - d.scale) : Nat) /
          (divisor.coefficient : Nat)) := by
    have hcoefficient : (divisor.coefficient : ℚ) ≠ 0 := by positivity
    rw [value_eq, value_eq, hwhole, pow_zero, div_one, withSign_div_withSign, withSign_mul,
      Nat.cast_mul, cast_tenTo]
    congr 1
    conv_lhs => rw [hplaces, pow_add]
    field_simp
  have hround : roundQuotient .nearestEven (d.negative != divisor.negative)
      (d.coefficient * tenTo (quotientPlaces d.scale - d.scale)) divisor.coefficient =
        w.coefficient * tenTo (quotientPlaces d.scale - w.scale) := hdigits.symm
  have hplaces' : quotientPlaces d.scale = (quotientPlaces d.scale - w.scale) + w.scale :=
    (Nat.sub_add_cancel hmost).symm
  rw [hshift, select_withSign _ _ hpos, hround, div_eq_mul_inv, withSign_mul, value_eq,
    hnegative, Nat.cast_mul, cast_tenTo]
  by_cases hzero : w.coefficient = 0
  · simp [hzero, withSign]
  · rw [bne_iff_ne.mpr hzero, Bool.and_true]
    congr 1
    conv_rhs => rw [hplaces', pow_add]
    rw [Nat.add_sub_cancel]
    field_simp

/-! ## Digits -/

theorem digitCount_mul_tenTo {shift : Nat} (hzero : a.isZero = false)
    (h : b.coefficient = a.coefficient * tenTo shift) : b.digitCount = a.digitCount + shift := by
  have hpos : 0 < a.digitCount := Nat.length_toDigits_pos
  have hnonzero : a.coefficient ≠ 0 := by simpa [isZero] using hzero
  apply Nat.le_antisymm
  · rw [digitCount_le_iff (by omega), h, tenTo_add]
    exact Nat.mul_lt_mul_of_pos_right coefficient_lt_tenTo (tenTo_pos shift)
  · refine Nat.le_of_not_lt fun hless => ?_
    have hpos' : 0 < b.digitCount := Nat.length_toDigits_pos
    have hfewer : b.digitCount ≤ (a.digitCount - 1) + shift := by omega
    rw [digitCount_le_iff (by omega), h, tenTo_add] at hfewer
    have hlt := Nat.lt_of_mul_lt_mul_right hfewer
    by_cases hone : a.digitCount = 1
    · rw [hone] at hlt
      exact hnonzero (Nat.lt_one_iff.mp hlt)
    · have hle := (digitCount_le_iff (by omega)).mpr hlt
      omega

theorem coefficient_eq_of_value (hscale : a.scale ≤ b.scale) (h : a.value = b.value) :
    b.coefficient = a.coefficient * tenTo (b.scale - a.scale) := by
  have habs : |a.value| = |b.value| := by rw [h]
  have hsplit : b.scale = (b.scale - a.scale) + a.scale := by omega
  rw [abs_value, abs_value, div_eq_div_iff (by positivity) (by positivity), hsplit, pow_add,
    ← mul_assoc] at habs
  have hcast := mul_right_cancel₀ (by positivity) habs
  rw [← cast_tenTo] at hcast
  exact_mod_cast hcast.symm

/-- The number of digits before the point follows from the value, also where it is below zero. -/
theorem digitCount_sub_scale_congr (hzero : a.isZero = false) (h : a.value = b.value) :
    (a.digitCount : ℤ) - a.scale = b.digitCount - b.scale := by
  have hzero' : b.isZero = false := by
    rwa [← Bool.not_eq_true, isZero_iff, ← h, ← isZero_iff, Bool.not_eq_true]
  rcases Nat.le_total a.scale b.scale with hscale | hscale
  · have hdigits := digitCount_mul_tenTo hzero (coefficient_eq_of_value hscale h)
    omega
  · have hdigits := digitCount_mul_tenTo hzero' (coefficient_eq_of_value hscale h.symm)
    omega

end Decimal

/-! ## Rounding to the precision -/

namespace Precision

variable {precision : Precision} {a b v : Decimal}

open Decimal (withSign)

theorem abs_selected_whole (h : precision.digits < v.digitCount)
    (hwhole : v.scale < v.digitCount - precision.digits) : |precision.selected v| =
      ((precision.kept v * tenTo (v.digitCount - precision.digits - v.scale) : Nat) : ℚ) := by
  rw [selected_whole h hwhole, Decimal.abs_withSign, abs_of_nonneg (by positivity)]

theorem abs_value_lt (v : Decimal) : |v.value| < Decimal.limit := by
  rw [v.abs_value]
  calc (v.coefficient : ℚ) / 10 ^ v.scale ≤ v.coefficient :=
        div_le_self (by positivity) (one_le_pow₀ (by norm_num))
    _ < Decimal.limit := by exact_mod_cast v.coefficient_lt

/-- A number with no more digits than the precision is a multiple of its unit. -/
theorem selected_of_le (h : v.digitCount ≤ precision.digits) : precision.selected v = v.value := by
  have hten : (10 : ℚ) ≠ 0 := by norm_num
  have hexponent : precision.exponent v =
      -((precision.digits - v.digitCount + v.scale : Nat) : ℤ) := by
    unfold exponent
    omega
  have hwhole : v.value / 10 ^ precision.exponent v =
      withSign v.negative (v.coefficient * tenTo (precision.digits - v.digitCount) : Nat) := by
    rw [hexponent, zpow_neg, zpow_natCast, div_inv_eq_mul, v.value_eq, Decimal.withSign_mul,
      Nat.cast_mul, cast_tenTo, pow_add]
    congr 1
    field_simp
  rw [selected, hwhole, Decimal.select_whole, ← hwhole, div_mul_cancel₀ _ (zpow_ne_zero _ hten)]

/-- What rounding to the precision makes of a number is the multiple of the unit that the mode
    selects, where the unit is in reach and there is room for the multiple. -/
theorem value_round (hdigits : 0 < precision.digits) (v : Decimal) : (precision.round v).value =
    if precision.exponent v ≤ 18 ∧ |precision.selected v| < Decimal.limit then precision.selected v
    else v.value := by
  by_cases h : v.digitCount ≤ precision.digits
  · rw [round, Decimal.roundSignificant_of_le h, selected_of_le h, ite_self]
  have h := Nat.lt_of_not_le h
  by_cases hplaces : v.digitCount - precision.digits ≤ v.scale
  · obtain ⟨hvalue, _⟩ := value_round_places hdigits h hplaces
    have hexponent : precision.exponent v ≤ 18 := by
      unfold exponent
      omega
    rw [if_pos ⟨hexponent, hvalue ▸ abs_value_lt _⟩, hvalue]
  have hwhole := Nat.lt_of_not_le hplaces
  by_cases hreach : precision.exponent v ≤ 18
  · rcases round_whole hdigits h hwhole hreach with ⟨hroom, hround⟩ | ⟨hfull, hround⟩
    · rw [if_pos, hround, selected_whole h hwhole, Decimal.value_eq, pow_zero, div_one]
      exact ⟨hreach, by rw [abs_selected_whole h hwhole]; exact_mod_cast hroom⟩
    · rw [if_neg, hround]
      rintro ⟨_, hroom⟩
      rw [abs_selected_whole h hwhole] at hroom
      exact Nat.not_lt_of_le hfull (by exact_mod_cast hroom)
  · rw [if_neg fun h => hreach h.1, round, Decimal.roundSignificant_whole hdigits h hwhole, if_neg]
    unfold exponent at hreach
    omega

/-- The unit follows from the value. -/
theorem exponent_congr (hzero : a.isZero = false) (h : a.value = b.value) :
    precision.exponent a = precision.exponent b := by
  have hdigits := Decimal.digitCount_sub_scale_congr hzero h
  unfold exponent
  omega

/-- Rounding to the precision depends on the value only. -/
theorem value_round_congr (h : a.value = b.value) :
    (precision.round a).value = (precision.round b).value := by
  by_cases hdigits : precision.digits = 0
  · simpa [round, Decimal.roundSignificant, hdigits] using h
  have hpos := Nat.pos_of_ne_zero hdigits
  cases hzero : a.isZero with
  | true =>
    -- A zero has one digit, so it stays.
    have hstays : ∀ {d : Decimal}, d.isZero = true → precision.round d = d := by
      intro d hd
      have hcoefficient : d.coefficient = 0 := eq_of_beq hd
      apply Decimal.roundSignificant_of_le
      rw [Decimal.digitCount_le_iff hpos, hcoefficient]
      exact tenTo_pos _
    have hzero' : b.isZero = true := by rwa [Decimal.isZero_iff, ← h, ← Decimal.isZero_iff]
    rw [hstays hzero, hstays hzero', h]
  | false =>
    have hexponent := @exponent_congr precision a b hzero h
    have hselected : precision.selected a = precision.selected b := by
      rw [selected, selected, hexponent, h]
    rw [value_round hpos, value_round hpos, hexponent, hselected, h]

end Precision

/-! ## Finished numbers -/

namespace Settings

/-- The settings that remove zeros and are otherwise the same. -/
def stripping (settings : Settings) : Settings := { settings with stripTrailingZeros := true }

variable {settings : Settings}

/-- Zeros that are kept or appended do not change the value of a finished number. -/
theorem value_finishNumber (n : Decimal) :
    (settings.finishNumber n).value = (settings.stripping.finishNumber n).value := by
  unfold finishNumber normalize stripping
  simp only [if_true]
  split
  · split
    · rfl
    · rw [Decimal.value_normalize]
  · split
    · rfl
    · rw [Decimal.value_normalize, Decimal.value_padTo]

theorem value_finishNumber_congr {a b : Decimal} (h : a.value = b.value) :
    (settings.finishNumber a).value = (settings.finishNumber b).value := by
  have hround : (settings.stripping.precision.round a).value =
      (settings.stripping.precision.round b).value := Precision.value_round_congr h
  have hstrip : settings.stripping.stripTrailingZeros = true := rfl
  rw [value_finishNumber a, value_finishNumber b, finishNumber, finishNumber, normalize_eq hstrip,
    normalize_eq hstrip, Decimal.value_normalize, Decimal.value_normalize]
  unfold placed
  split
  · exact hround
  · rw [Decimal.value_roundTo, Decimal.value_roundTo, hround]

/-- Finishing a number a second time keeps its value, whatever becomes of its zeros. -/
theorem value_finishNumber_finishNumber (n : Decimal) :
    (settings.finishNumber (settings.finishNumber n)).value = (settings.finishNumber n).value :=
  calc (settings.finishNumber (settings.finishNumber n)).value
      = (settings.stripping.finishNumber (settings.finishNumber n)).value := value_finishNumber _
    _ = (settings.stripping.finishNumber (settings.stripping.finishNumber n)).value :=
      value_finishNumber_congr (value_finishNumber n)
    _ = (settings.stripping.finishNumber n).value := by rw [finishNumber_finishNumber rfl]
    _ = (settings.finishNumber n).value := (value_finishNumber n).symm

end Settings
end Formula

-- SUMMARY: Finishing a number a second time changes nothing if trailing zeros are removed.
import Formula.Proofs.Decimal.Significant

/-!
# Finished numbers

A result is rounded to the precision, then to a number of decimals, and its trailing zeros go. What
comes out has no more significant digits than the precision, and such a number is rounded to itself
(`Decimal.roundSignificant_of_within`). The numbers that are not rounded because a power of ten is
out of reach stay out of reach when they lose decimals, and those for whose rounding there is no
room have no decimals to lose.
-/

namespace Formula
namespace Decimal

variable {d : Decimal}

/-! ## Trailing zeros -/

theorem stripZeros_trimmed (coefficient scale : Nat) :
    Trimmed coefficient scale (stripZeros coefficient scale) := by
  induction coefficient, scale using stripZeros.induct with
  | case1 coefficient => exact .refl coefficient 0
  | case2 coefficient scale hzero ih =>
    rw [stripZeros, if_pos hzero]
    exact (@Trimmed.of_dvd coefficient (scale + 1) 1 (Nat.succ_pos scale) hzero).trans ih
  | case3 coefficient scale hdigit =>
    rw [stripZeros, if_neg hdigit]
    exact .refl coefficient (scale + 1)

/-- All decimals are used, or the last one is no zero. -/
theorem stripZeros_last (coefficient scale : Nat) :
    (stripZeros coefficient scale).2 = 0 ∨ (stripZeros coefficient scale).1 % 10 ≠ 0 := by
  induction coefficient, scale using stripZeros.induct with
  | case1 coefficient => exact .inl rfl
  | case2 coefficient scale hzero ih => rwa [stripZeros, if_pos hzero]
  | case3 coefficient scale hdigit => exact .inr (by rwa [stripZeros, if_neg hdigit])

theorem stripZeros_of_last {coefficient scale : Nat} (h : scale = 0 ∨ coefficient % 10 ≠ 0) :
    stripZeros coefficient scale = (coefficient, scale) := by
  cases scale with
  | zero => rfl
  | succ scale =>
    rw [stripZeros, if_neg]
    rcases h with h | h
    · cases h
    · exact h

/-- A number without zeros to remove. -/
def Stripped (d : Decimal) : Prop := d.normalize = d

theorem stripped_of_last (hzero : d.isZero = false) (h : d.scale = 0 ∨ d.coefficient % 10 ≠ 0) :
    d.Stripped := by
  obtain ⟨negative, coefficient, scale, _, _⟩ := d
  simp only [Stripped, normalize, hzero, Bool.false_eq_true, if_false, stripZeros_of_last h]

theorem normalize_stripped (d : Decimal) : d.normalize.Stripped := by
  cases hzero : d.isZero with
  | true =>
    have hnormalize : d.normalize = zero := by rw [normalize, if_pos hzero]
    rw [hnormalize]
    rfl
  | false =>
    obtain ⟨count, hcoefficient, _⟩ := stripZeros_trimmed d.coefficient d.scale
    have hnormalize : ¬ d.isZero = true := by simp [hzero]
    apply stripped_of_last
    · rw [normalize, if_neg hnormalize]
      refine beq_eq_false_iff_ne.mpr fun hstripped => ?_
      simp only at hstripped
      rw [hstripped, Nat.zero_mul] at hcoefficient
      simp [isZero, hcoefficient] at hzero
    · rw [normalize, if_neg hnormalize]
      exact stripZeros_last d.coefficient d.scale

/-- Removing zeros divides the coefficient and lowers the scale alike. -/
theorem normalize_trimmed (hzero : d.isZero = false) :
    Trimmed d.coefficient d.scale (d.normalize.coefficient, d.normalize.scale) := by
  rw [normalize, if_neg (by simp [hzero])]
  exact stripZeros_trimmed d.coefficient d.scale

theorem Stripped.last (h : d.Stripped) (hzero : d.isZero = false) :
    d.scale = 0 ∨ d.coefficient % 10 ≠ 0 := by
  have hlast := stripZeros_last d.coefficient d.scale
  have hnormalize := h
  rw [Stripped, normalize, if_neg (by simp [hzero])] at hnormalize
  have hcoefficient := congrArg Decimal.coefficient hnormalize
  have hscale := congrArg Decimal.scale hnormalize
  simp only at hcoefficient hscale
  rwa [hcoefficient, hscale] at hlast

theorem normalize_scale_le (d : Decimal) : d.normalize.scale ≤ d.scale := by
  unfold normalize
  split
  · exact Nat.zero_le _
  · exact stripZeros_snd_le _ _

/-! ## Rounding to places -/

theorem roundTo_of_le {places : Nat} (mode : RoundingMode) (h : d.scale ≤ places) :
    d.roundTo places mode = d :=
  dif_neg (Nat.not_lt_of_le h)

theorem roundTo_scale_le (d : Decimal) (places : Nat) (mode : RoundingMode) :
    (d.roundTo places mode).scale ≤ places := by
  unfold roundTo
  split
  · exact Nat.le_refl _
  · rename_i h
    exact Nat.le_of_not_lt h

/-! ## Numbers within the precision -/

section Within

variable {precision : Nat}

/-- Rounding off digits leaves no more significant digits than there were. -/
theorem within_roundTo (hpos : 0 < precision) (places : Nat) (mode : RoundingMode)
    (h : d.Within precision) : (d.roundTo places mode).Within precision := by
  obtain ⟨leading, zeros, hcoefficient, hleading⟩ := h
  unfold roundTo
  split
  · simp only [Within, hcoefficient]
    generalize d.scale - places = drop
    by_cases hzeros : drop ≤ zeros
    · refine ⟨leading, zeros - drop, ?_, hleading⟩
      have hsplit : tenTo zeros = tenTo (zeros - drop) * tenTo drop := by
        rw [← tenTo_add, Nat.sub_add_cancel hzeros]
      rw [hsplit, ← Nat.mul_assoc]
      exact roundQuotient_exact mode d.negative _ (tenTo_pos drop)
    · obtain ⟨fewer, rfl⟩ : ∃ fewer, precision = fewer + 1 := ⟨precision - 1, by omega⟩
      have hle := roundQuotient_le mode d.negative (leading * tenTo zeros) (tenTo drop)
      have hdiv : leading * tenTo zeros / tenTo drop ≤ leading / 10 :=
        calc leading * tenTo zeros / tenTo drop
            ≤ leading * tenTo zeros / tenTo (zeros + 1) :=
              Nat.div_le_div_left (tenTo_le_tenTo (Nat.lt_of_not_le hzeros)) (tenTo_pos _)
          _ = leading / 10 := by
              rw [tenTo_succ, Nat.mul_comm (tenTo zeros),
                Nat.mul_div_mul_right _ _ (tenTo_pos zeros)]
      have hpow := tenTo_pos fewer
      rw [tenTo_succ] at hleading ⊢
      exact ⟨_, 0, (Nat.mul_one _).symm, by omega⟩
  · exact ⟨leading, zeros, hcoefficient, hleading⟩

theorem within_normalize (h : d.Within precision) : d.normalize.Within precision := by
  cases hzero : d.isZero with
  | true =>
    rw [normalize, if_pos hzero]
    exact ⟨0, 0, rfl, tenTo_pos precision⟩
  | false =>
    obtain ⟨leading, zeros, hcoefficient, hleading⟩ := h
    obtain ⟨count, hcount, _⟩ := normalize_trimmed hzero
    simp only at hcount
    rw [hcoefficient] at hcount
    by_cases hle : count ≤ zeros
    · refine ⟨leading, zeros - count, ?_, hleading⟩
      apply Nat.eq_of_mul_eq_mul_right (tenTo_pos count)
      rw [← hcount, Nat.mul_assoc, ← tenTo_add, Nat.sub_add_cancel hle]
    · have hmore : leading = d.normalize.coefficient * tenTo (count - zeros) := by
        apply Nat.eq_of_mul_eq_mul_right (tenTo_pos zeros)
        rw [hcount, Nat.mul_assoc, ← tenTo_add, Nat.sub_add_cancel (Nat.le_of_not_le hle)]
      refine ⟨d.normalize.coefficient, 0, (Nat.mul_one _).symm, Nat.lt_of_le_of_lt ?_ hleading⟩
      rw [hmore]
      exact Nat.le_mul_of_pos_right _ (tenTo_pos _)

/-- A stripped number within the precision is rounded to itself. -/
theorem roundSignificant_of_within (hpos : 0 < precision) (hstripped : d.Stripped)
    (h : d.Within precision) (mode : RoundingMode) : d.roundSignificant precision mode = d := by
  by_cases hdigits : d.digitCount ≤ precision
  · exact roundSignificant_of_le hdigits mode
  have hmore := Nat.lt_of_not_le hdigits
  have hzero : d.isZero = false :=
    isZero_eq_false (Nat.lt_of_lt_of_le (tenTo_pos precision) (tenTo_le_coefficient hpos hmore))
  obtain ⟨leading, zeros, hcoefficient, hleading⟩ := h
  -- The digits behind the first ones are zeros, so they stand before the point.
  have hexcess : d.digitCount - precision ≤ zeros := by
    have hcount : d.digitCount ≤ precision + zeros := by
      rw [digitCount_le_iff (by omega), hcoefficient, tenTo_add]
      exact Nat.mul_lt_mul_of_pos_right hleading (tenTo_pos zeros)
    omega
  have hscale : d.scale = 0 := by
    refine (hstripped.last hzero).resolve_right fun hdigit => hdigit ?_
    obtain ⟨fewer, rfl⟩ : ∃ fewer, zeros = fewer + 1 := ⟨zeros - 1, by omega⟩
    rw [hcoefficient, tenTo_succ, ← Nat.mul_assoc]
    exact Nat.mul_mod_left _ _
  have hkept : roundQuotient mode d.negative d.coefficient (tenTo (d.digitCount - precision)) *
      tenTo (d.digitCount - precision) = d.coefficient := by
    have hsplit : d.coefficient = leading * tenTo (zeros - (d.digitCount - precision)) *
        tenTo (d.digitCount - precision) := by
      rw [hcoefficient, Nat.mul_assoc, ← tenTo_add, Nat.sub_add_cancel hexcess]
    rw [hsplit, roundQuotient_exact mode _ _ (tenTo_pos _)]
  rw [roundSignificant_whole hpos hmore (by omega)]
  split
  · obtain ⟨negative, coefficient, scale, hlt, _⟩ := d
    simp only at hscale
    subst hscale
    simp only [Nat.sub_zero] at hkept ⊢
    rw [hkept, make?, dif_pos hlt, dif_pos (Nat.zero_le _)]
    rfl
  · rfl

/-! ## Numbers out of reach -/

/-- So many digits before the point would have to go that no 64-bit power of ten reaches them. -/
def Far (precision : Nat) (d : Decimal) : Prop := tenTo (precision + d.scale + 18) ≤ d.coefficient

theorem roundSignificant_of_far (hpos : 0 < precision) (h : d.Far precision)
    (mode : RoundingMode) : d.roundSignificant precision mode = d := by
  have hdigits : precision + d.scale + 18 < d.digitCount := by
    refine Nat.lt_of_not_le fun hle => ?_
    have hlt := (digitCount_le_iff (by omega)).mp hle
    exact Nat.not_le_of_lt hlt h
  rw [roundSignificant_whole hpos (by omega) (by omega), if_neg (by omega)]

theorem far_roundTo (places : Nat) (mode : RoundingMode) (h : d.Far precision) :
    (d.roundTo places mode).Far precision := by
  unfold roundTo
  split
  · rename_i hplaces
    refine Nat.le_trans ?_ (le_roundQuotient mode d.negative d.coefficient _)
    rw [Nat.le_div_iff_mul_le (tenTo_pos _), ← tenTo_add]
    have hsum : precision + places + 18 + (d.scale - places) = precision + d.scale + 18 := by omega
    rw [hsum]
    exact h
  · exact h

theorem far_normalize (h : d.Far precision) : d.normalize.Far precision := by
  have hzero : d.isZero = false := isZero_eq_false (Nat.lt_of_lt_of_le (tenTo_pos _) h)
  obtain ⟨count, hcoefficient, hscale⟩ := normalize_trimmed hzero
  apply Nat.le_of_mul_le_mul_right _ (tenTo_pos count)
  rw [← hcoefficient, ← tenTo_add]
  have hsum : precision + d.normalize.scale + 18 + count = precision + d.scale + 18 := by omega
  rw [hsum]
  exact h

end Within

end Decimal

/-! ## Results -/

namespace Precision

variable {precision : Precision} {v : Decimal}

/-- Where there is no room for the multiple, the number has no decimals. -/
theorem scale_eq_zero_of_full (hdigits : 0 < precision.digits)
    (h : precision.digits < v.digitCount) (hwhole : v.scale < v.digitCount - precision.digits)
    (hfull : Decimal.limit ≤
      precision.kept v * tenTo (v.digitCount - precision.digits - v.scale)) : v.scale = 0 := by
  by_contra hscale
  have hbig := Decimal.tenTo_excess_le hdigits h
  have hlt := v.coefficient_lt
  have hkept : precision.kept v * tenTo (v.digitCount - precision.digits) ≤ 2 * v.coefficient := by
    have hle := roundQuotient_le precision.rounding v.negative v.coefficient
      (tenTo (v.digitCount - precision.digits))
    have hdiv := Nat.div_mul_le_self v.coefficient (tenTo (v.digitCount - precision.digits))
    calc precision.kept v * tenTo (v.digitCount - precision.digits)
        ≤ (v.coefficient / tenTo (v.digitCount - precision.digits) + 1) *
            tenTo (v.digitCount - precision.digits) := Nat.mul_le_mul_right _ hle
      _ ≤ 2 * v.coefficient := by
        rw [Nat.add_mul]
        omega
  have hten : precision.kept v * tenTo (v.digitCount - precision.digits - v.scale) * 10 ≤
      precision.kept v * tenTo (v.digitCount - precision.digits) := by
    rw [Nat.mul_assoc, ← tenTo_succ]
    exact Nat.mul_le_mul_left _ (tenTo_le_tenTo (by omega))
  unfold Decimal.limit at hfull
  omega

/-- What rounding to the precision makes of a number is within the precision, or the number itself
    for one of two reasons. -/
theorem round_cases (hdigits : 0 < precision.digits) (v : Decimal) :
    (precision.round v).Within precision.digits ∨ v.Far precision.digits ∨
      (v.scale = 0 ∧ v.isZero = false ∧ precision.round v = v) := by
  by_cases h : v.digitCount ≤ precision.digits
  · left
    rw [round, Decimal.roundSignificant_of_le h]
    exact Decimal.within_of_digitCount h
  have h := Nat.lt_of_not_le h
  by_cases hplaces : v.digitCount - precision.digits ≤ v.scale
  · exact .inl (value_round_places hdigits h hplaces).2
  have hwhole := Nat.lt_of_not_le hplaces
  by_cases hreach : precision.exponent v ≤ 18
  · rcases round_whole hdigits h hwhole hreach with ⟨_, hround⟩ | ⟨hfull, hround⟩
    · left
      rw [hround]
      exact Decimal.within_of_le hdigits (kept_le h) rfl
    · refine .inr (.inr ⟨scale_eq_zero_of_full hdigits h hwhole hfull, ?_, hround⟩)
      have hbig := Decimal.tenTo_le_coefficient hdigits h
      exact Decimal.isZero_eq_false (Nat.lt_of_lt_of_le (tenTo_pos precision.digits) hbig)
  · right
    left
    unfold exponent at hreach
    exact Decimal.tenTo_le_coefficient (by omega) (by omega)

end Precision

namespace Settings

variable {settings : Settings}

/-- The number with the decimals that are set, before its zeros go. -/
def placed (settings : Settings) (v : Decimal) : Decimal :=
  match settings.decimalPlaces with
  | none => v
  | some places => v.roundTo places settings.precision.rounding

theorem normalize_eq (hstrip : settings.stripTrailingZeros = true) (v : Decimal) :
    settings.normalize v = (settings.placed v).normalize := by
  unfold normalize placed
  cases settings.decimalPlaces <;> simp only [hstrip, if_true]

/-- The decimals that are set are kept when zeros go. -/
theorem placed_normalize (v : Decimal) :
    settings.placed (settings.placed v).normalize = (settings.placed v).normalize := by
  unfold placed
  cases settings.decimalPlaces with
  | none => rfl
  | some places =>
    exact Decimal.roundTo_of_le _
      (Nat.le_trans (Decimal.normalize_scale_le _) (v.roundTo_scale_le _ _))

theorem placed_of_whole {v : Decimal} (h : v.scale = 0) : settings.placed v = v := by
  unfold placed
  cases settings.decimalPlaces with
  | none => rfl
  | some places => exact Decimal.roundTo_of_le _ (h ▸ Nat.zero_le places)

/-- A property that rounding to places and removing zeros keep is kept by bringing a number to its
    final form. -/
theorem normalize_keeps {P : Decimal → Prop}
    (hround : ∀ d places mode, P d → P (d.roundTo places mode))
    (hnormalize : ∀ d, P d → P d.normalize) (hstrip : settings.stripTrailingZeros = true)
    {v : Decimal} (h : P v) : P (settings.normalize v) := by
  rw [normalize_eq hstrip]
  apply hnormalize
  unfold placed
  cases settings.decimalPlaces with
  | none => exact h
  | some places => exact hround _ _ _ h

/-- A finished number is rounded to itself. -/
theorem round_finishNumber (hstrip : settings.stripTrailingZeros = true) (v : Decimal) :
    settings.precision.round (settings.finishNumber v) = settings.finishNumber v := by
  have hstripped : (settings.finishNumber v).Stripped := by
    rw [finishNumber, normalize_eq hstrip]
    exact Decimal.normalize_stripped _
  by_cases hdigits : settings.precision.digits = 0
  · simp [Precision.round, Decimal.roundSignificant, hdigits]
  have hpos := Nat.pos_of_ne_zero hdigits
  rcases settings.precision.round_cases hpos v with hwithin | hfar | ⟨hscale, hzero, hround⟩
  · apply Decimal.roundSignificant_of_within hpos hstripped
    exact normalize_keeps (P := Decimal.Within settings.precision.digits)
      (fun _ places mode => Decimal.within_roundTo hpos places mode)
      (fun _ => Decimal.within_normalize) hstrip hwithin
  · apply Decimal.roundSignificant_of_far hpos
    rw [finishNumber, Precision.round, Decimal.roundSignificant_of_far hpos hfar]
    exact normalize_keeps (P := Decimal.Far settings.precision.digits)
      (fun _ places mode => Decimal.far_roundTo places mode)
      (fun _ => Decimal.far_normalize) hstrip hfar
  · have hfinish : settings.finishNumber v = v := by
      rw [finishNumber, hround, normalize_eq hstrip, placed_of_whole hscale]
      exact Decimal.stripped_of_last hzero (.inl hscale)
    rw [hfinish, hround]

/-- Finishing a number a second time changes nothing. -/
theorem finishNumber_finishNumber (hstrip : settings.stripTrailingZeros = true) (v : Decimal) :
    settings.finishNumber (settings.finishNumber v) = settings.finishNumber v := by
  calc settings.finishNumber (settings.finishNumber v)
      = settings.normalize (settings.precision.round (settings.finishNumber v)) := rfl
    _ = settings.normalize (settings.finishNumber v) := by rw [round_finishNumber hstrip]
    _ = settings.finishNumber v := by
      rw [finishNumber, normalize_eq hstrip, normalize_eq hstrip, placed_normalize]
      exact Decimal.normalize_stripped _

end Settings
end Formula

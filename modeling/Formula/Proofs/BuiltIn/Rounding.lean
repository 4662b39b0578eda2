-- SUMMARY: Rounding to a number of places, also before the point, selects a multiple of their unit; before the point two roundings follow each other.
import Formula.BuiltIn.Numeric
import Formula.Proofs.Decimal.Order

/-!
# Rounding to places on both sides of the point

Rounding to decimals is one exact rounding. For places before the point the number is divided by a
power of ten first, and the quotient is rounded half to even to the decimals that a quotient has
(`Decimal.inUnits`), before the mode selects a whole number for it. The two roundings are one unless
the first one ends on a whole or half number (`Decimal.select_inUnits`).
-/

namespace Formula

/-! ## Quotients by powers of ten -/

namespace Decimal

variable {d factor : Decimal} {shift : Nat}

section Factor

variable (hsign : factor.negative = false) (hfactor : factor.coefficient = tenTo shift)
  (hwhole : factor.scale = 0)
include hsign hfactor hwhole

/-- The quotient by a power of ten is rounded half to even to its last decimal. -/
theorem value_div?_tenTo : ∃ w, d.div? factor = some w ∧ w.value =
    RoundingMode.nearestEven.select (d.value / 10 ^ shift * 10 ^ quotientPlaces d.scale) /
      10 ^ quotientPlaces d.scale := by
  have hvalue : factor.value = 10 ^ shift := by
    rw [value_eq, hsign, hfactor, hwhole, pow_zero, div_one, cast_tenTo]
    rfl
  have hquotient := value_div? (d := d) hwhole (hfactor ▸ tenTo_pos shift)
    (hfactor ▸ Roomy.tenTo d.coefficient_lt)
  rwa [hvalue] at hquotient

/-- The product of a whole number and a power of ten, or none if no decimal has its value. -/
theorem value_mul?_tenTo (hscale : d.scale = 0) :
    (∃ w, d.mul? factor = some w ∧ w.value = d.value * 10 ^ shift) ∨
      (d.mul? factor = none ∧ ∀ w : Decimal, w.value ≠ d.value * 10 ^ shift) := by
  cases hzero : d.isZero with
  | true =>
    refine .inl ⟨zero, by rw [mul?, if_pos (by simp [hzero])], ?_⟩
    rw [value_of_zero hzero, zero_mul]
    exact value_of_zero rfl
  | false =>
    have hpos : 0 < d.coefficient := Nat.pos_of_ne_zero (by simpa [isZero] using hzero)
    have hvalue : d.value * 10 ^ shift =
        withSign d.negative ((d.coefficient * tenTo shift : Nat) : ℚ) := by
      rw [value_eq, hscale, pow_zero, div_one, withSign_mul, Nat.cast_mul, cast_tenTo]
    rw [mul?_tenTo hscale hpos hsign hfactor hwhole, make?]
    split
    · refine .inl ⟨_, rfl, ?_⟩
      rw [hvalue, value_eq, pow_zero, div_one]
    · rename_i hfull
      exact .inr ⟨rfl, fun w hw => hfull (lt_limit_of_value (hw.trans hvalue))⟩

end Factor

/-- Powers of ten up to the last that has fewer digits than the largest coefficient are found. -/
theorem powNat?_ten {k : Nat} (h : k ≤ 28) : ∃ factor, ten.powNat? k = some factor ∧
    factor.negative = false ∧ factor.coefficient = tenTo k ∧ factor.scale = 0 := by
  have hall : ∀ k ∈ List.range 29, (ten.powNat? k).map
      (fun factor => (factor.negative, factor.coefficient, factor.scale)) =
        some (false, tenTo k, 0) := by
    decide +kernel
  obtain ⟨factor, hfactor, hparts⟩ :=
    Option.map_eq_some_iff.mp (hall k (List.mem_range.mpr (by omega)))
  simp only [Prod.mk.injEq] at hparts
  exact ⟨factor, hfactor, hparts⟩

/-! ## Units before the point -/

/-- The value in units of `10 ^ (- scale)`, as rounding to that scale finds it: for units of ten and
    more it is a quotient, rounded half to even to its last decimal. -/
def inUnits (d : Decimal) (scale : Int) : ℚ :=
  if 0 ≤ scale then d.value * 10 ^ scale
  else RoundingMode.nearestEven.select (d.value * 10 ^ scale * 10 ^ quotientPlaces d.scale) /
    10 ^ quotientPlaces d.scale

/-- The quotient is exact if it needs no more decimals than a quotient has. -/
theorem inUnits_eq {scale : Int} (h : 0 ≤ scale ∨ d.scale + scale.natAbs ≤ maxScale) :
    d.inUnits scale = d.value * 10 ^ scale := by
  unfold inUnits
  split
  · rfl
  · rename_i hneg
    have hplaces := h.resolve_left hneg
    have hmost : maxScale ≤ quotientPlaces d.scale := Nat.le_max_left _ _
    obtain ⟨shift, rfl⟩ : ∃ shift : Nat, scale = -shift := ⟨scale.natAbs, by omega⟩
    have hwhole : d.value * 10 ^ (-(shift : Int)) * 10 ^ quotientPlaces d.scale = withSign d.negative
        ((d.coefficient * tenTo (quotientPlaces d.scale - d.scale - shift) : Nat) : ℚ) := by
      have hsplit : quotientPlaces d.scale =
          (quotientPlaces d.scale - d.scale - shift) + shift + d.scale := by omega
      rw [value_eq, withSign_mul, withSign_mul, Nat.cast_mul, cast_tenTo, zpow_neg, zpow_natCast]
      congr 1
      conv_lhs => rw [hsplit, pow_add, pow_add]
      field_simp
    rw [hwhole, select_whole, ← hwhole, mul_div_cancel_right₀ _ (by positivity)]

theorem quotientPlaces_pos (scale : Nat) : 0 < quotientPlaces scale :=
  Nat.lt_of_lt_of_le (by decide : 0 < maxScale) (Nat.le_max_left _ _)

theorem half_mul_pow (k : ℤ) {places : Nat} (hpos : 0 < places) :
    ∃ j : ℤ, (k : ℚ) / 2 * 10 ^ places = j := by
  refine ⟨k * 5 * 10 ^ (places - 1), ?_⟩
  have hsplit : places = (places - 1) + 1 := by omega
  push_cast
  conv_lhs => rw [hsplit, pow_succ]
  ring

/-- A whole or half number is not passed when a quotient is rounded. -/
theorem inUnits_le {scale : Int} {k : ℤ} (h : d.value * 10 ^ scale ≤ k / 2) :
    d.inUnits scale ≤ k / 2 := by
  unfold inUnits
  split
  · exact h
  · obtain ⟨j, hj⟩ := half_mul_pow k (quotientPlaces_pos d.scale)
    have hpow : (0 : ℚ) < 10 ^ quotientPlaces d.scale := by positivity
    have hselect := RoundingMode.nearestEven.select_le
      ((mul_le_mul_of_nonneg_right h hpow.le).trans_eq hj)
    rw [div_le_iff₀ hpow, hj]
    exact_mod_cast hselect

theorem le_inUnits {scale : Int} {k : ℤ} (h : k / 2 ≤ d.value * 10 ^ scale) :
    k / 2 ≤ d.inUnits scale := by
  unfold inUnits
  split
  · exact h
  · obtain ⟨j, hj⟩ := half_mul_pow k (quotientPlaces_pos d.scale)
    have hpow : (0 : ℚ) < 10 ^ quotientPlaces d.scale := by positivity
    have hselect := RoundingMode.nearestEven.le_select
      (hj.symm.trans_le (mul_le_mul_of_nonneg_right h hpow.le))
    rw [le_div_iff₀ hpow, hj]
    exact_mod_cast hselect

/-- Unless the rounded quotient is a whole or half number, the mode selects for it what it selects
    for the exact one. -/
theorem select_inUnits (mode : RoundingMode) {scale : Int}
    (h : ∀ k : ℤ, 2 * d.inUnits scale ≠ k) :
    mode.select (d.inUnits scale) = mode.select (d.value * 10 ^ scale) := by
  have hlow : (⌊2 * d.inUnits scale⌋ : ℚ) < 2 * d.inUnits scale :=
    lt_of_le_of_ne (Int.floor_le _) (h _).symm
  have hhigh := Int.lt_floor_add_one (2 * d.inUnits scale)
  generalize ⌊2 * d.inUnits scale⌋ = k at hlow hhigh
  refine mode.select_congr ⟨hlow, hhigh⟩ ⟨?_, ?_⟩
  · by_contra hle
    have hpassed : d.inUnits scale ≤ k / 2 := inUnits_le (by linarith)
    linarith
  · by_contra hle
    have hpassed : ((k + 1 : ℤ) : ℚ) / 2 ≤ d.inUnits scale :=
      le_inUnits (by push_cast; linarith)
    push_cast at hpassed
    linarith

end Decimal

/-! ## The function -/

namespace BuiltIn

variable {token : Token} {mode : RoundingMode} {value : Decimal} {scale : Int}

/-- The multiple of `10 ^ (- scale)` that rounding yields. -/
def multiple (mode : RoundingMode) (value : Decimal) (scale : Int) : ℚ :=
  mode.select (value.inUnits scale) * 10 ^ (-scale)

/-- Rounding to decimals always has a result. -/
theorem roundNumber_places (hlow : 0 ≤ scale) (hhigh : scale ≤ 28) :
    ∃ w, roundNumber token mode value scale = .ok w ∧ w.value = multiple mode value scale := by
  obtain ⟨places, rfl⟩ := Int.eq_ofNat_of_zero_le hlow
  have hword : (28 : Int) < twoTo 32 := by decide
  refine ⟨value.roundTo places mode, ?_, ?_⟩
  · rw [roundNumber, if_pos ⟨hlow, by omega⟩, Int.toNat_natCast]
  · rw [Decimal.value_roundTo, multiple, Decimal.inUnits, if_pos hlow, zpow_neg, zpow_natCast,
      ← div_eq_mul_inv]

/-- Rounding before the point has a result exactly if a decimal has its value. -/
theorem roundNumber_units (hneg : scale < 0) (hlow : -28 ≤ scale) :
    (∃ w, roundNumber token mode value scale = .ok w ∧ w.value = multiple mode value scale) ∨
      (roundNumber token mode value scale = .error (token.arithmetic .overflow) ∧
        ∀ w : Decimal, w.value ≠ multiple mode value scale) := by
  obtain ⟨shift, rfl⟩ : ∃ shift : Nat, scale = -shift := ⟨scale.natAbs, by omega⟩
  obtain ⟨factor, hpower, hsign, hfactor, hwhole⟩ :=
    Decimal.powNat?_ten (k := shift) (by omega)
  obtain ⟨units, hdiv, hunits⟩ := Decimal.value_div?_tenTo (d := value) hsign hfactor hwhole
  have hround : roundNumber token mode value (-shift) =
      token.orFault .overflow ((units.roundTo 0 mode).mul? factor) := by
    rw [roundNumber, if_neg (by omega), Int.natAbs_neg, Int.natAbs_natCast, hpower]
    simp only [hdiv]
    rfl
  have hmultiple : multiple mode value (-shift) = (units.roundTo 0 mode).value * 10 ^ shift := by
    have hvalue : units.value = value.inUnits (-shift) := by
      rw [hunits, Decimal.inUnits, if_neg (by omega), zpow_neg, zpow_natCast, ← div_eq_mul_inv]
    rw [multiple, Decimal.value_roundTo, pow_zero, mul_one, div_one, hvalue, neg_neg,
      zpow_natCast]
  have hscale : (units.roundTo 0 mode).scale = 0 :=
    Nat.le_zero.mp (Decimal.roundTo_scale_le units 0 mode)
  rw [hround, hmultiple]
  rcases Decimal.value_mul?_tenTo hsign hfactor hwhole hscale with ⟨w, hmul, hw⟩ | ⟨hmul, hnone⟩
  · exact .inl ⟨w, by rw [hmul]; rfl, hw⟩
  · exact .inr ⟨by rw [hmul]; rfl, hnone⟩

/-- Rounding a number to a scale yields the multiple of `10 ^ (- scale)` that the mode selects for
    the number in these units, or reports an overflow exactly if no decimal is that multiple. In
    units of ten and more it is selected for a quotient that has been rounded itself. That quotient
    is the exact one if it has few decimals, and the same multiple is selected for both unless the
    rounded quotient is a whole or half number. -/
theorem round_scale (context : CallContext) (token : Token) (value count : Decimal) {scale : Int}
    (hscale : count.toInt64? = some scale) (hlow : -28 ≤ scale) (hhigh : scale ≤ 28) :
    let mode := context.settings.precision.rounding
    ((∃ w : Decimal, w.value = multiple mode value scale) →
      ∃ w : Decimal, round context token [.number value, .number count] = .ok (.number w) ∧
        w.value = multiple mode value scale) ∧
    ((∀ w : Decimal, w.value ≠ multiple mode value scale) →
      round context token [.number value, .number count] =
        .error (token.arithmetic .overflow)) ∧
    (0 ≤ scale ∨ value.scale + scale.natAbs ≤ Decimal.maxScale →
      value.inUnits scale = value.value * 10 ^ scale) ∧
    ((∀ k : ℤ, 2 * value.inUnits scale ≠ k) →
      mode.select (value.inUnits scale) = mode.select (value.value * 10 ^ scale)) := by
  intro mode
  have hcount : token.integerArgument [.number value, .number count] 1 = .ok scale := by
    change token.orFault _ count.toInt64? = _
    rw [hscale]
    rfl
  have hround : round context token [.number value, .number count] =
      (roundNumber token mode value scale).map .number := by
    change (do
      let scale ← token.integerArgument [.number value, .number count] 1
      let rounded ← roundNumber token mode value scale
      return Value.number rounded) = _
    rw [hcount]
    change (do
      let rounded ← roundNumber token mode value scale
      return Value.number rounded) = _
    cases roundNumber token mode value scale <;> rfl
  have hcases : (∃ w, roundNumber token mode value scale = .ok w ∧
        w.value = multiple mode value scale) ∨
      (roundNumber token mode value scale = .error (token.arithmetic .overflow) ∧
        ∀ w : Decimal, w.value ≠ multiple mode value scale) := by
    rcases Int.lt_or_le scale 0 with hneg | hnonneg
    · exact roundNumber_units hneg hlow
    · exact .inl (roundNumber_places hnonneg hhigh)
  refine ⟨?_, ?_, Decimal.inUnits_eq, Decimal.select_inUnits mode⟩
  · rintro ⟨v, hv⟩
    rcases hcases with ⟨w, hresult, hw⟩ | ⟨_, hnone⟩
    · exact ⟨w, by rw [hround, hresult]; rfl, hw⟩
    · exact absurd hv (hnone v)
  · intro hnone
    rcases hcases with ⟨w, _, hw⟩ | ⟨hresult, _⟩
    · exact absurd hw (hnone w)
    · rw [hround, hresult]
      rfl

/-- A quotient that is a little more than one half is rounded to one half, and the mode selects the
    even neighbour for it: the result is zero, where ten is the multiple of ten that the mode
    selects for the number itself. -/
theorem round_scale_twice :
    let value : Decimal := ⟨false, 50000000000000000000000000001, 28, by decide, by decide⟩
    let count : Decimal := ⟨true, 1, 0, by decide, by decide⟩
    let context : CallContext :=
      ⟨Settings.standard, .ofSeed ⟨0, 0, by decide, by decide, by decide⟩ 0, .ok⟩
    let token : Token := { kind := .function, lexeme := "ROUND", position := 0 }
    count.toInt64? = some (-1) ∧
    (∃ w : Decimal, round context token [.number value, .number count] = .ok (.number w) ∧
      w.value = 0) ∧
    (RoundingMode.nearestEven.select (value.value * 10 ^ (-1 : ℤ)) * 10 ^ (1 : ℤ) : ℚ) = 10 := by
  intro value count context token
  have hcount : count.toInt64? = some (-1) := by decide +kernel
  have hvalue : value.value = 50000000000000000000000000001 / 10 ^ 28 := by
    simp [value, Decimal.value_eq, Decimal.withSign]
  have hselect : ∀ {n d : Nat} {x : ℚ}, 0 < d → x = n / d →
      RoundingMode.nearestEven.select x = (roundQuotient .nearestEven false n d : ℤ) :=
    fun hd hx => by rw [hx, roundQuotient_eq_select _ hd]
  have hunits : value.inUnits (-1) = 1 / 2 := by
    have hplaces : Decimal.quotientPlaces value.scale = 28 := rfl
    rw [Decimal.inUnits, if_neg (by decide), hplaces, hvalue,
      hselect (n := 50000000000000000000000000001) (d := 10) (by decide) (by norm_num)]
    have hround : roundQuotient .nearestEven false 50000000000000000000000000001 10 =
        5000000000000000000000000000 := by decide +kernel
    rw [hround]
    norm_num
  have hmultiple : multiple .nearestEven value (-1) = 0 := by
    have hround : roundQuotient .nearestEven false 1 2 = 0 := by decide
    rw [multiple, hunits, hselect (n := 1) (d := 2) (by decide) (by norm_num), hround]
    norm_num
  obtain ⟨hresult, _⟩ := round_scale context token value count hcount (by decide) (by decide)
  refine ⟨hcount, ?_, ?_⟩
  · obtain ⟨w, hround, hw⟩ := hresult ⟨.zero, hmultiple ▸ Decimal.value_of_zero rfl⟩
    exact ⟨w, hround, hw.trans hmultiple⟩
  · have hround : roundQuotient .nearestEven false 50000000000000000000000000001
        100000000000000000000000000000 = 1 := by decide +kernel
    rw [hvalue, hselect (n := 50000000000000000000000000001)
      (d := 100000000000000000000000000000) (by decide) (by norm_num), hround]
    norm_num

end BuiltIn
end Formula

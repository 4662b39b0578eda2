-- SUMMARY: Rounding and finishing numbers keeps their order, across all regimes of rounding.
import Formula.Configuration
import Formula.Proofs.Decimal.Value

/-!
# The order of finished numbers

Every mode selects a whole number that grows with the number it is selected for
(`RoundingMode.select_mono`), so rounding to places keeps the order. Rounding to significant digits
has a unit that changes with the size of the number, and leaves some numbers as they are. What it
does with a number never crosses a multiple of the number's unit (`Precision.value_round_le`,
`Precision.le_value_round`), and between two numbers with different units lies a multiple of both.
-/

namespace Formula

/-! ## Modes -/

namespace RoundingMode

variable {x y : ℚ}

/-- What is nearest grows between two whole numbers. -/
theorem nearest_mono {middle : ℤ} (hfloor : ⌊x⌋ = ⌊y⌋) (hle : Int.fract x ≤ Int.fract y)
    (hlow : ⌊x⌋ ≤ middle) (hhigh : middle ≤ ⌊x⌋ + 1) : nearest middle x ≤ nearest middle y := by
  rw [nearest_eq, nearest_eq, ← hfloor]
  rcases lt_trichotomy (Int.fract x) (1 / 2) with hless | hmiddle | hmore
  · rw [if_pos hless]
    split_ifs <;> omega
  · rw [if_neg hmiddle.not_lt, if_pos hmiddle, if_neg (not_lt.mpr (hmiddle ▸ hle))]
    split_ifs <;> omega
  · have hmore' : 1 / 2 < Int.fract y := hmore.trans_le hle
    rw [if_neg hmore.not_gt, if_neg hmore.ne', if_neg hmore'.not_gt, if_neg hmore'.ne']

theorem neg_iff_floor_neg : x < 0 ↔ ⌊x⌋ < 0 := by
  simp [Int.floor_lt]

theorem select_mono (mode : RoundingMode) (hle : x ≤ y) : mode.select x ≤ mode.select y := by
  have hfloor : ⌊x⌋ ≤ ⌊y⌋ := Int.floor_le_floor hle
  rcases hfloor.lt_or_eq with hless | hsame
  · have hceil : ⌈x⌉ ≤ ⌊x⌋ + 1 := Int.ceil_le_floor_add_one x
    exact (mode.select_bounds x).2.trans (by have := (mode.select_bounds y).1; omega)
  by_cases hwhole : Int.fract x = 0
  · obtain ⟨n, rfl⟩ := Int.fract_eq_zero_iff.mp hwhole
    have hlow := (mode.select_bounds y).1
    have hhigh := (mode.select_bounds (n : ℚ)).2
    rw [Int.ceil_intCast] at hhigh
    rw [Int.floor_intCast] at hsame
    omega
  have hfract : Int.fract x ≤ Int.fract y := by
    rw [Int.fract, Int.fract, hsame]
    linarith
  have hwhole' : Int.fract y ≠ 0 := by
    have hpos := lt_of_le_of_ne (Int.fract_nonneg x) (Ne.symm hwhole)
    exact (hpos.trans_le hfract).ne'
  -- Between two whole numbers the sign and the neighbours are the same.
  cases mode <;>
    simp only [select, neg_iff_floor_neg, ceil_eq_floor_add_one hwhole,
      ceil_eq_floor_add_one hwhole', ← hsame, le_refl]
  all_goals (apply nearest_mono hsame hfract <;> split <;> omega)

/-- What is selected does not pass a whole number. -/
theorem select_le (mode : RoundingMode) {k : ℤ} (h : x ≤ k) : mode.select x ≤ k := by
  have hselect := mode.select_mono h
  rwa [select_intCast] at hselect

theorem le_select (mode : RoundingMode) {k : ℤ} (h : k ≤ x) : k ≤ mode.select x := by
  have hselect := mode.select_mono h
  rwa [select_intCast] at hselect

/-- A mode selects one whole number for all numbers that lie between the same two neighbours among
    the whole and half numbers. -/
theorem select_congr (mode : RoundingMode) {k : ℤ} (hx : k < 2 * x ∧ 2 * x < k + 1)
    (hy : k < 2 * y ∧ 2 * y < k + 1) : mode.select x = mode.select y := by
  obtain ⟨n, hn⟩ := Int.even_or_odd' k
  have hpart : ∀ {z : ℚ}, k < 2 * z ∧ 2 * z < k + 1 → ⌊z⌋ = n ∧
      (Int.fract z < 1 / 2 ↔ k = 2 * n) ∧ Int.fract z ≠ 1 / 2 ∧ Int.fract z ≠ 0 := by
    intro z ⟨hlow, hhigh⟩
    have hfloor : ⌊z⌋ = n := by
      rw [Int.floor_eq_iff]
      rcases hn with rfl | rfl <;> push_cast at hlow hhigh <;> constructor <;> linarith
    rw [Int.fract, hfloor]
    rcases hn with rfl | rfl <;> push_cast at hlow hhigh
    · refine ⟨rfl, ⟨fun _ => rfl, fun _ => by linarith⟩, ?_, ?_⟩ <;> intro h <;> linarith
    · refine ⟨rfl, ⟨fun _ => by linarith, fun _ => by omega⟩, ?_, ?_⟩ <;> intro h <;> linarith
  obtain ⟨hfloorX, hhalfX, hmiddleX, hwholeX⟩ := hpart hx
  obtain ⟨hfloorY, hhalfY, hmiddleY, hwholeY⟩ := hpart hy
  cases mode <;>
    simp only [select, nearest_eq, neg_iff_floor_neg, ceil_eq_floor_add_one hwholeX,
      ceil_eq_floor_add_one hwholeY, hfloorX, hfloorY, hhalfX, hhalfY, hmiddleX, hmiddleY, if_false]

end RoundingMode

/-! ## Rounding to the precision -/

namespace Precision

variable {precision : Precision} {a b v : Decimal} {k : ℤ}

/-- The unit of the last digit that is kept. -/
def unit (precision : Precision) (v : Decimal) : ℚ := 10 ^ precision.exponent v

theorem unit_pos (precision : Precision) (v : Decimal) : 0 < precision.unit v :=
  zpow_pos (by norm_num) _

/-- What is selected does not cross a multiple of the unit. -/
theorem selected_le (h : v.value ≤ k * precision.unit v) :
    precision.selected v ≤ k * precision.unit v := by
  have hunit := precision.unit_pos v
  have hselect := precision.rounding.select_le ((div_le_iff₀ hunit).mpr h)
  exact mul_le_mul_of_nonneg_right (by exact_mod_cast hselect) hunit.le

theorem le_selected (h : k * precision.unit v ≤ v.value) :
    k * precision.unit v ≤ precision.selected v := by
  have hunit := precision.unit_pos v
  have hselect := precision.rounding.le_select ((le_div_iff₀ hunit).mpr h)
  exact mul_le_mul_of_nonneg_right (by exact_mod_cast hselect) hunit.le

/-- What is selected is itself a multiple of the unit. -/
theorem selected_eq_mul (precision : Precision) (v : Decimal) :
    ∃ k : ℤ, precision.selected v = k * precision.unit v :=
  ⟨_, rfl⟩

theorem value_round_le (hdigits : 0 < precision.digits) (h : v.value ≤ k * precision.unit v) :
    (precision.round v).value ≤ k * precision.unit v := by
  rw [value_round hdigits]
  split
  · exact selected_le h
  · exact h

theorem le_value_round (hdigits : 0 < precision.digits) (h : k * precision.unit v ≤ v.value) :
    k * precision.unit v ≤ (precision.round v).value := by
  rw [value_round hdigits]
  split
  · exact le_selected h
  · exact h

/-! ## Numbers with one unit -/

section Unit

variable (hexponent : precision.exponent a = precision.exponent b)
include hexponent

theorem selected_mono (h : a.value ≤ b.value) : precision.selected a ≤ precision.selected b := by
  have hunit := precision.unit_pos b
  rw [unit] at hunit
  rw [selected, selected, hexponent]
  have hselect := precision.rounding.select_mono (div_le_div_of_nonneg_right h hunit.le)
  exact mul_le_mul_of_nonneg_right (by exact_mod_cast hselect) hunit.le

/-- If only one of two numbers can be rounded, the multiple selected for it is not beyond the other
    number: otherwise the other one would be rounded to that multiple too. -/
theorem selected_le_value (h : a.value ≤ b.value)
    (hdiffer : precision.selected a ≠ precision.selected b) :
    precision.selected a ≤ b.value ∧ a.value ≤ precision.selected b := by
  have hmono := selected_mono hexponent h
  have hunit : precision.unit a = precision.unit b := by rw [unit, unit, hexponent]
  constructor
  · by_contra hbeyond
    obtain ⟨k, hk⟩ := precision.selected_eq_mul a
    have hle : precision.selected b ≤ k * precision.unit b :=
      selected_le (by rw [← hunit, ← hk]; exact (not_le.mp hbeyond).le)
    rw [← hunit, ← hk] at hle
    exact hdiffer (le_antisymm hmono hle)
  · by_contra hbeyond
    obtain ⟨k, hk⟩ := precision.selected_eq_mul b
    have hle : k * precision.unit a ≤ precision.selected a :=
      le_selected (by rw [hunit, ← hk]; exact (not_le.mp hbeyond).le)
    rw [hunit, ← hk] at hle
    exact hdiffer (le_antisymm hmono hle)

theorem value_round_mono_of_exponent (hdigits : 0 < precision.digits) (h : a.value ≤ b.value) :
    (precision.round a).value ≤ (precision.round b).value := by
  rw [value_round hdigits, value_round hdigits, hexponent]
  by_cases hreach : precision.exponent b ≤ 18
  · simp only [hreach, true_and]
    have hdiffer : ∀ {x y : ℚ}, |x| < Decimal.limit → ¬ |y| < Decimal.limit → x ≠ y :=
      fun hx hy hsame => hy (hsame ▸ hx)
    by_cases hroomA : |precision.selected a| < Decimal.limit <;>
      by_cases hroomB : |precision.selected b| < Decimal.limit
    · rw [if_pos hroomA, if_pos hroomB]
      exact selected_mono hexponent h
    · rw [if_pos hroomA, if_neg hroomB]
      exact (selected_le_value hexponent h (hdiffer hroomA hroomB)).1
    · rw [if_neg hroomA, if_pos hroomB]
      exact (selected_le_value hexponent h (hdiffer hroomB hroomA).symm).2
    · rwa [if_neg hroomA, if_neg hroomB]
  · simpa only [hreach, false_and, if_false] using h

end Unit

/-! ## Numbers with different units -/

/-- The unit has as many digits behind it as the precision drops. -/
theorem mul_unit (precision : Precision) (v : Decimal) {j n : ℕ}
    (h : (j : ℤ) + v.digitCount = precision.digits + n) :
    10 ^ j * precision.unit v * 10 ^ v.scale = (tenTo n : ℚ) := by
  have hten : (10 : ℚ) ≠ 0 := by norm_num
  rw [unit, exponent, ← zpow_natCast, ← zpow_natCast, ← zpow_add₀ hten, ← zpow_add₀ hten, cast_tenTo,
    ← zpow_natCast]
  congr 1
  linarith

theorem abs_value_lt_unit (precision : Precision) (v : Decimal) :
    |v.value| < 10 ^ precision.digits * precision.unit v := by
  rw [v.abs_value, div_lt_iff₀ (by positivity), precision.mul_unit v rfl]
  exact_mod_cast v.coefficient_lt_tenTo

theorem unit_le_abs_value (hdigits : 0 < precision.digits) (hzero : v.value ≠ 0) :
    10 ^ (precision.digits - 1) * precision.unit v ≤ |v.value| := by
  have hcount : 0 < v.digitCount := Nat.length_toDigits_pos
  have hcoefficient : tenTo (v.digitCount - 1) ≤ v.coefficient := by
    by_cases hone : v.digitCount = 1
    · rw [hone]
      refine Nat.pos_of_ne_zero fun hcoefficient => hzero (Decimal.value_of_zero ?_)
      exact beq_iff_eq.mpr hcoefficient
    · exact Decimal.tenTo_le_coefficient (by omega) (by omega)
  have hunit : 10 ^ (precision.digits - 1) * precision.unit v * 10 ^ v.scale =
      (tenTo (v.digitCount - 1) : ℚ) := precision.mul_unit v (by omega)
  rw [v.abs_value, le_div_iff₀ (by positivity), hunit]
  exact_mod_cast hcoefficient

/-- The multiples of a unit that have the digits of the precision end where those of the next unit
    begin. -/
theorem unit_step (hdigits : 0 < precision.digits)
    (h : precision.exponent a < precision.exponent b) :
    10 ^ precision.digits * precision.unit a ≤ 10 ^ (precision.digits - 1) * precision.unit b := by
  have hten : (10 : ℚ) ≠ 0 := by norm_num
  rw [unit, unit, ← zpow_natCast, ← zpow_natCast, ← zpow_add₀ hten, ← zpow_add₀ hten]
  exact zpow_le_zpow_right₀ (by norm_num) (by omega)

theorem exponent_le (hdigits : 0 < precision.digits) (hzero : a.value ≠ 0)
    (h : |a.value| ≤ |b.value|) : precision.exponent a ≤ precision.exponent b := by
  by_contra hmore
  have hlow := unit_le_abs_value hdigits hzero
  have hhigh := precision.abs_value_lt_unit b
  have hstep := unit_step hdigits (not_le.mp hmore)
  linarith

/-- Between the magnitudes of two numbers with different units lies a multiple of both units. -/
theorem abs_value_between (hdigits : 0 < precision.digits) (hzero : a.value ≠ 0)
    (h : |a.value| ≤ |b.value|) (hdiffer : precision.exponent a ≠ precision.exponent b) :
    |a.value| ≤ 10 ^ precision.digits * precision.unit a ∧
      10 ^ precision.digits * precision.unit a ≤ 10 ^ (precision.digits - 1) * precision.unit b ∧
      10 ^ (precision.digits - 1) * precision.unit b ≤ |b.value| := by
  have hzero' : b.value ≠ 0 := abs_pos.mp ((abs_pos.mpr hzero).trans_le h)
  exact ⟨(precision.abs_value_lt_unit a).le,
    unit_step hdigits (lt_of_le_of_ne (exponent_le hdigits hzero h) hdiffer),
    unit_le_abs_value hdigits hzero'⟩

theorem value_round_mono_of_between (hdigits : 0 < precision.digits) {j k : ℤ}
    (hlow : a.value ≤ j * precision.unit a) (hbetween : j * precision.unit a ≤ k * precision.unit b)
    (hhigh : k * precision.unit b ≤ b.value) :
    (precision.round a).value ≤ (precision.round b).value :=
  calc (precision.round a).value ≤ j * precision.unit a := value_round_le hdigits hlow
    _ ≤ k * precision.unit b := hbetween
    _ ≤ (precision.round b).value := le_value_round hdigits hhigh

/-- Rounding to the precision keeps the order. -/
theorem value_round_mono (h : a.value ≤ b.value) :
    (precision.round a).value ≤ (precision.round b).value := by
  by_cases hnone : precision.digits = 0
  · simpa [round, Decimal.roundSignificant, hnone] using h
  have hdigits := Nat.pos_of_ne_zero hnone
  by_cases hdiffer : precision.exponent a = precision.exponent b
  · exact value_round_mono_of_exponent hdiffer hdigits h
  rcases le_or_gt a.value 0 with ha | ha <;> rcases le_or_gt 0 b.value with hb | hb
  · -- Zero is a multiple of every unit.
    apply value_round_mono_of_between hdigits (j := 0) (k := 0) <;> simp [ha, hb]
  · have habs : |b.value| ≤ |a.value| := by
      rw [abs_of_neg hb, abs_of_nonpos ha]
      linarith
    obtain ⟨hlow, hbetween, hhigh⟩ := abs_value_between hdigits hb.ne habs (Ne.symm hdiffer)
    rw [abs_of_neg hb] at hlow
    rw [abs_of_nonpos ha] at hhigh
    apply value_round_mono_of_between hdigits (j := -10 ^ (precision.digits - 1))
      (k := -10 ^ precision.digits) <;> push_cast <;> linarith
  · have habs : |a.value| ≤ |b.value| := by rwa [abs_of_pos ha, abs_of_nonneg hb]
    obtain ⟨hlow, hbetween, hhigh⟩ := abs_value_between hdigits ha.ne' habs hdiffer
    rw [abs_of_pos ha] at hlow
    rw [abs_of_nonneg hb] at hhigh
    apply value_round_mono_of_between hdigits (j := 10 ^ precision.digits)
      (k := 10 ^ (precision.digits - 1)) <;> push_cast <;> assumption
  · linarith

end Precision

/-! ## Finished numbers -/

theorem Decimal.value_roundTo_mono {a b : Decimal} (h : a.value ≤ b.value) (places : Nat)
    (mode : RoundingMode) : (a.roundTo places mode).value ≤ (b.roundTo places mode).value := by
  have hpow : (0 : ℚ) < 10 ^ places := by positivity
  have hselect := mode.select_mono (mul_le_mul_of_nonneg_right h hpow.le)
  rw [value_roundTo, value_roundTo]
  exact div_le_div_of_nonneg_right (by exact_mod_cast hselect) hpow.le

/-- One number does not compare above another if its value is at most the other's. -/
theorem Decimal.compare_ne_gt_iff {a b : Decimal} : a.compare b ≠ .gt ↔ a.value ≤ b.value := by
  have hpow : (0 : ℚ) < 10 ^ maxPaddedScale := by positivity
  rw [compare, compare_le_iff_le, ← Int.cast_le (R := ℚ), units_eq, units_eq]
  exact mul_le_mul_iff_left₀ hpow

namespace Settings

variable {settings : Settings} {a b : Decimal}

theorem value_finishNumber_eq (settings : Settings) (n : Decimal) :
    (settings.finishNumber n).value = (settings.placed (settings.precision.round n)).value := by
  have hstrip : settings.stripping.stripTrailingZeros = true := rfl
  rw [value_finishNumber, finishNumber, normalize_eq hstrip, Decimal.value_normalize]
  rfl

/-- Of two numbers that do not compare one above the other, finishing both does not swap the
    order. -/
theorem compare_finishNumber (settings : Settings) {a b : Decimal} (h : a.compare b ≠ .gt) :
    (settings.finishNumber a).compare (settings.finishNumber b) ≠ .gt := by
  rw [Decimal.compare_ne_gt_iff] at h ⊢
  have hround : (settings.precision.round a).value ≤ (settings.precision.round b).value :=
    Precision.value_round_mono h
  rw [value_finishNumber_eq, value_finishNumber_eq]
  unfold placed
  cases settings.decimalPlaces with
  | none => exact hround
  | some places => exact Decimal.value_roundTo_mono hround places _

/-- The smaller number is rounded up to a power of ten. The unit of the larger one is out of reach,
    so it stays as it is. -/
theorem compare_finishNumber_unreached :
    let settings : Settings := { Settings.standard with precision := ⟨1, .nearestEven⟩ }
    let a : Decimal := ⟨false, 99999999999999999995, 1, by decide, by decide⟩
    let b : Decimal := ⟨false, 10000000000000000001, 0, by decide, by decide⟩
    a.compare b ≠ .gt ∧
    settings.finishNumber a = ⟨false, 10000000000000000000, 0, by decide, by decide⟩ ∧
    settings.finishNumber b = b ∧
    (settings.finishNumber a).compare (settings.finishNumber b) ≠ .gt := by
  intro settings a b
  have hle : a.compare b ≠ .gt := by decide +kernel
  exact ⟨hle, by decide +kernel, by decide +kernel, compare_finishNumber settings hle⟩

end Settings
end Formula

-- SUMMARY: The value of a decimal as a rational number, and the whole number that a rounding mode selects for it.
import Formula.Decimal.Arithmetic
import Mathlib.Algebra.Order.Round
import Mathlib.Data.Rat.Floor
import Mathlib.Tactic.FieldSimp
import Mathlib.Tactic.Linarith
import Mathlib.Tactic.Ring

/-!
# Values and rounding

A decimal stands for a rational number, and two decimals are the same if they stand for the same
one. `RoundingMode.select` says which whole number a mode selects for a rational number, in terms of
the number alone; `select_withSign` says that rounding the quotient of two magnitudes does so.
-/

namespace Formula

theorem cast_tenTo (n : Nat) : ((tenTo n : Nat) : ℚ) = 10 ^ n := by
  simp [tenTo]

/-! ## Values -/

namespace Decimal

/-- The rational number that a decimal stands for. -/
def value (d : Decimal) : ℚ := d.signed / 10 ^ d.scale

theorem units_eq (d : Decimal) : (d.units : ℚ) = d.value * 10 ^ maxPaddedScale := by
  have hscale : maxPaddedScale = (maxPaddedScale - d.scale) + d.scale := by
    have hle : d.scale ≤ maxPaddedScale := d.scale_le
    omega
  rw [units, value, Int.cast_mul, Int.cast_natCast, cast_tenTo]
  conv_rhs => rw [hscale, pow_add]
  field_simp

/-- Two decimals are the same if they have the same value. -/
theorem same_iff {a b : Decimal} : a.same b = true ↔ a.value = b.value := by
  have hpow : (10 : ℚ) ^ maxPaddedScale ≠ 0 := by positivity
  rw [same, beq_iff_eq, ← Int.cast_inj (α := ℚ), units_eq, units_eq]
  exact mul_left_inj' hpow

/-- The magnitude with its sign. -/
def withSign (negative : Bool) (x : ℚ) : ℚ := if negative then -x else x

theorem value_eq (d : Decimal) :
    d.value = withSign d.negative ((d.coefficient : ℚ) / 10 ^ d.scale) := by
  unfold value signed withSign
  split
  · push_cast
    ring
  · push_cast
    rfl

end Decimal

/-! ## Modes -/

namespace RoundingMode

variable {x : ℚ}

/-- The nearest whole number; what is given where two are equally near. -/
def nearest (middle : ℤ) (x : ℚ) : ℤ := if Int.fract x = 1 / 2 then middle else round x

/-- The whole number that the mode selects. -/
def select (mode : RoundingMode) (x : ℚ) : ℤ :=
  match mode with
  | nearestEven => nearest (if Even ⌊x⌋ then ⌊x⌋ else ⌈x⌉) x
  | nearestAway => nearest (if x < 0 then ⌊x⌋ else ⌈x⌉) x
  | nearestTowardZero => nearest (if x < 0 then ⌈x⌉ else ⌊x⌋) x
  | towardZero => if x < 0 then ⌈x⌉ else ⌊x⌋
  | awayFromZero => if x < 0 then ⌊x⌋ else ⌈x⌉
  | towardNegative => ⌊x⌋
  | towardPositive => ⌈x⌉

/-- The mode that does below zero what this one does above. -/
def mirrored : RoundingMode → RoundingMode
  | towardNegative => towardPositive
  | towardPositive => towardNegative
  | mode => mode

theorem roundsUp_mirrored (mode : RoundingMode) (quotient remainder divisor : Nat) :
    mode.roundsUp true quotient remainder divisor =
      mode.mirrored.roundsUp false quotient remainder divisor := by
  cases mode <;> rfl

theorem fract_neg_eq_half {x : ℚ} : Int.fract (-x) = 1 / 2 ↔ Int.fract x = 1 / 2 := by
  by_cases h : Int.fract x = 0
  · rw [Int.fract_neg_eq_zero.mpr h, h]
  · rw [Int.fract_neg h]
    constructor <;> intro heq <;> linarith

theorem ceil_eq_floor_add_one {x : ℚ} (h : Int.fract x ≠ 0) : ⌈x⌉ = ⌊x⌋ + 1 := by
  have hceil := Int.ceil_eq_add_one_sub_fract h
  rw [Int.fract] at hceil
  have : ((⌈x⌉ : ℤ) : ℚ) = ((⌊x⌋ + 1 : ℤ) : ℚ) := by
    push_cast
    linarith
  exact_mod_cast this

theorem round_neg {x : ℚ} (h : Int.fract x ≠ 1 / 2) : round (-x) = -round x := by
  by_cases hzero : Int.fract x = 0
  · obtain ⟨whole, rfl⟩ := Int.fract_eq_zero_iff.mp hzero
    rw [← Int.cast_neg, round_intCast, round_intCast]
  · unfold round
    rw [Int.fract_neg hzero, Int.floor_neg, Int.ceil_neg]
    have hpos := Int.fract_nonneg x
    by_cases hless : 2 * Int.fract x < 1
    · rw [if_pos hless, if_neg (by linarith)]
    · rw [if_neg hless, if_pos]
      rcases lt_or_eq_of_le (not_lt.mp hless) with hlt | heq
      · linarith
      · exact absurd (by linarith) h

theorem nearest_neg (middle : ℤ) (x : ℚ) : nearest (-middle) (-x) = -nearest middle x := by
  unfold nearest
  by_cases h : Int.fract x = 1 / 2
  · rw [if_pos h, if_pos (fract_neg_eq_half.mpr h)]
  · rw [if_neg h, if_neg (fract_neg_eq_half.not.mpr h), round_neg h]

/-- What is given for the middle does not matter elsewhere. -/
theorem nearest_congr {x : ℚ} {a b : ℤ} (h : Int.fract x = 1 / 2 → a = b) :
    nearest a x = nearest b x := by
  unfold nearest
  split
  · exact h ‹_›
  · rfl

/-- Below the middle the nearest whole number is the one below, beyond it the one above. -/
theorem nearest_eq (middle : ℤ) (x : ℚ) : nearest middle x =
    if Int.fract x < 1 / 2 then ⌊x⌋ else if Int.fract x = 1 / 2 then middle else ⌊x⌋ + 1 := by
  unfold nearest round
  by_cases hmiddle : Int.fract x = 1 / 2
  · rw [if_pos hmiddle, if_neg (by linarith), if_pos hmiddle]
  rw [if_neg hmiddle]
  by_cases hless : Int.fract x < 1 / 2
  · rw [if_pos (by linarith), if_pos hless]
  · rw [if_neg (by linarith), if_neg hless, if_neg hmiddle, ceil_eq_floor_add_one]
    intro hzero
    exact hless (by rw [hzero]; norm_num)

theorem nearest_bounds {middle : ℤ} (hlow : ⌊x⌋ ≤ middle) (hhigh : middle ≤ ⌈x⌉) :
    ⌊x⌋ ≤ nearest middle x ∧ nearest middle x ≤ ⌈x⌉ := by
  have hle : ⌊x⌋ ≤ ⌈x⌉ := Int.floor_le_ceil x
  rw [nearest_eq]
  split
  · exact ⟨le_rfl, hle⟩
  · rename_i hless
    split
    · exact ⟨hlow, hhigh⟩
    · rw [ceil_eq_floor_add_one]
      · omega
      · intro hzero
        exact hless (by rw [hzero]; norm_num)

/-- A mode selects one of the two whole numbers around a number. -/
theorem select_bounds (mode : RoundingMode) (x : ℚ) :
    ⌊x⌋ ≤ mode.select x ∧ mode.select x ≤ ⌈x⌉ := by
  have hle : ⌊x⌋ ≤ ⌈x⌉ := Int.floor_le_ceil x
  cases mode <;> simp only [select]
  case nearestEven => apply nearest_bounds <;> split <;> omega
  case nearestAway => apply nearest_bounds <;> split <;> omega
  case nearestTowardZero => apply nearest_bounds <;> split <;> omega
  all_goals (try split) <;> omega

@[simp] theorem select_intCast (mode : RoundingMode) (n : ℤ) : mode.select (n : ℚ) = n := by
  have hbounds := mode.select_bounds n
  rw [Int.floor_intCast, Int.ceil_intCast] at hbounds
  exact le_antisymm hbounds.2 hbounds.1

@[simp] theorem select_zero (mode : RoundingMode) : mode.select 0 = 0 := by
  cases mode <;> simp [select, nearest]

/-- Below zero a mode selects what the mirrored one selects above. -/
theorem select_neg (mode : RoundingMode) {x : ℚ} (hx : 0 ≤ x) :
    mode.select (-x) = -mode.mirrored.select x := by
  rcases hx.eq_or_lt with rfl | hpos
  · simp
  have hneg : -x < 0 := neg_neg_of_pos hpos
  have hnot : ¬ x < 0 := not_lt.mpr hx
  cases mode with
  | nearestEven =>
    simp only [select, mirrored, Int.floor_neg, Int.ceil_neg]
    rw [← nearest_neg]
    apply nearest_congr
    intro hhalf
    have hfract : Int.fract x ≠ 0 := by
      have := fract_neg_eq_half.mp hhalf
      intro h
      linarith
    simp only [ceil_eq_floor_add_one hfract, even_neg, Int.even_add_one]
    split <;> simp_all
  | nearestAway => simp only [select, mirrored, Int.floor_neg, Int.ceil_neg, if_pos hneg,
      if_neg hnot, nearest_neg]
  | nearestTowardZero => simp only [select, mirrored, Int.floor_neg, Int.ceil_neg, if_pos hneg,
      if_neg hnot, nearest_neg]
  | towardZero => simp only [select, mirrored, Int.ceil_neg, if_pos hneg, if_neg hnot]
  | awayFromZero => simp only [select, mirrored, Int.floor_neg, if_pos hneg, if_neg hnot]
  | towardNegative => simp only [select, mirrored, Int.floor_neg]
  | towardPositive => simp only [select, mirrored, Int.ceil_neg]

end RoundingMode

/-! ## Rounded quotients -/

section Quotient

variable {numerator divisor : Nat}

theorem fract_div : Int.fract ((numerator : ℚ) / divisor) = (numerator % divisor : Nat) / divisor :=
  Int.fract_div_natCast_eq_div_natCast_mod

theorem floor_div :
    ⌊(numerator : ℚ) / divisor⌋ = ((numerator / divisor : Nat) : ℤ) :=
  Rat.floor_natCast_div_natCast _ _

theorem ceil_div (hdivisor : 0 < divisor) : ⌈(numerator : ℚ) / divisor⌉ =
    ((if 0 < numerator % divisor then numerator / divisor + 1 else numerator / divisor : Nat) :
      ℤ) := by
  have hcast : (divisor : ℚ) ≠ 0 := by positivity
  by_cases h : 0 < numerator % divisor
  · rw [if_pos h, Nat.cast_succ, ← floor_div]
    apply RoundingMode.ceil_eq_floor_add_one
    rw [fract_div]
    exact div_ne_zero (by exact_mod_cast h.ne') hcast
  · have hfract : Int.fract ((numerator : ℚ) / divisor) = 0 := by
      rw [fract_div, Nat.eq_zero_of_not_pos h]
      simp
    rw [if_neg h, ← floor_div]
    obtain ⟨whole, hwhole⟩ := Int.fract_eq_zero_iff.mp hfract
    rw [← hwhole, Int.ceil_intCast, Int.floor_intCast]

theorem nearest_div (hdivisor : 0 < divisor) (middle : ℤ) :
    RoundingMode.nearest middle ((numerator : ℚ) / divisor) =
      if 2 * (numerator % divisor) = divisor then middle
      else ((if divisor < 2 * (numerator % divisor) then numerator / divisor + 1
        else numerator / divisor : Nat) : ℤ) := by
  have hpos : (0 : ℚ) < divisor := by exact_mod_cast hdivisor
  have hhalf : Int.fract ((numerator : ℚ) / divisor) = 1 / 2 ↔
      2 * (numerator % divisor) = divisor := by
    rw [fract_div, div_eq_div_iff hpos.ne' two_ne_zero, ← Nat.cast_inj (R := ℚ)]
    push_cast
    constructor <;> intro h <;> linarith
  have hless : 2 * Int.fract ((numerator : ℚ) / divisor) < 1 ↔
      2 * (numerator % divisor) < divisor := by
    rw [fract_div, ← mul_div_assoc, div_lt_one hpos, ← Nat.cast_lt (α := ℚ)]
    push_cast
    rfl
  rw [RoundingMode.nearest, round, floor_div, ceil_div hdivisor]
  simp only [hhalf, hless]
  split_ifs <;> first | rfl | omega

/-- On the quotient of two magnitudes, rounding selects what the mode selects. -/
theorem roundQuotient_eq_select (mode : RoundingMode) (hdivisor : 0 < divisor) :
    (roundQuotient mode false numerator divisor : ℤ) =
      mode.select ((numerator : ℚ) / divisor) := by
  have hnonneg : ¬ (numerator : ℚ) / divisor < 0 := not_lt.mpr (by positivity)
  simp only [roundQuotient]
  cases mode with
  | nearestEven =>
    simp only [RoundingMode.select, nearest_div hdivisor, floor_div, ceil_div hdivisor,
      RoundingMode.roundsUp, Int.even_iff, Bool.or_eq_true, Bool.and_eq_true, decide_eq_true_eq,
      beq_iff_eq]
    split_ifs <;> omega
  | nearestAway =>
    simp only [RoundingMode.select, nearest_div hdivisor, if_neg hnonneg, ceil_div hdivisor,
      RoundingMode.roundsUp, decide_eq_true_eq]
    split_ifs <;> omega
  | nearestTowardZero =>
    simp only [RoundingMode.select, nearest_div hdivisor, if_neg hnonneg, floor_div,
      RoundingMode.roundsUp, decide_eq_true_eq]
    split_ifs <;> omega
  | towardZero =>
    simp only [RoundingMode.select, if_neg hnonneg, floor_div, RoundingMode.roundsUp,
      Bool.false_eq_true, if_false]
  | awayFromZero =>
    simp only [RoundingMode.select, if_neg hnonneg, ceil_div hdivisor, RoundingMode.roundsUp,
      decide_eq_true_eq]
  | towardNegative =>
    simp only [RoundingMode.select, floor_div, RoundingMode.roundsUp, Bool.false_and,
      Bool.false_eq_true, if_false]
  | towardPositive =>
    simp only [RoundingMode.select, ceil_div hdivisor, RoundingMode.roundsUp, Bool.not_false,
      Bool.true_and, decide_eq_true_eq]

theorem roundQuotient_mirrored (mode : RoundingMode) :
    roundQuotient mode true numerator divisor =
      roundQuotient mode.mirrored false numerator divisor := by
  simp only [roundQuotient, mode.roundsUp_mirrored]

/-- A mode selects for a number with a sign what rounding makes of its magnitude. -/
theorem select_withSign (mode : RoundingMode) (negative : Bool) (hdivisor : 0 < divisor) :
    (mode.select (Decimal.withSign negative ((numerator : ℚ) / divisor)) : ℚ) =
      Decimal.withSign negative (roundQuotient mode negative numerator divisor) := by
  cases negative with
  | false =>
    simp only [Decimal.withSign, Bool.false_eq_true, if_false,
      ← roundQuotient_eq_select mode hdivisor, Int.cast_natCast]
  | true =>
    simp only [Decimal.withSign, if_true, roundQuotient_mirrored]
    rw [RoundingMode.select_neg mode (by positivity), ← roundQuotient_eq_select _ hdivisor]
    push_cast
    rfl

/-- Rounding depends on the quotient only. -/
theorem roundQuotient_congr (mode : RoundingMode) (negative : Bool) {n d : Nat}
    (hdivisor : 0 < divisor) (hd : 0 < d) (h : numerator * d = n * divisor) :
    roundQuotient mode negative numerator divisor = roundQuotient mode negative n d := by
  have hquotient : (numerator : ℚ) / divisor = (n : ℚ) / d := by
    rw [div_eq_div_iff (by positivity) (by positivity)]
    exact_mod_cast h
  have hleft := @select_withSign numerator divisor mode negative hdivisor
  rw [hquotient, select_withSign mode negative hd] at hleft
  cases negative <;> simp [Decimal.withSign] at hleft <;> exact_mod_cast hleft.symm

end Quotient

end Formula

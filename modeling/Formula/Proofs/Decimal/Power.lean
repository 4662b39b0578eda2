-- SUMMARY: Whole powers of whole numbers are exact, and there is none exactly where there is no room for it.
import Formula.Decimal.Power
import Formula.Proofs.Decimal.Value

/-!
# Whole powers

Repeated squaring yields a power in every format of whole numbers whose product is exact as far as
there is room (`Numbers.found_raiseFrom`). All numbers on the way are factors of the power, and a
whole number is not larger than a multiple of it, so there is room for them if there is room for the
power. Decimals without decimals are such a format, and so are the wide numbers that stand in for
them where the exponent is large (`Decimal.found_powNat?`).
-/

namespace Formula

/-! ## Formats of whole numbers -/

/-- A format of whole numbers: which number an item is, and a bound of these numbers. -/
structure Numbers (α : Type) where
  Is : α → ℚ → Prop
  room : ℚ
  lt_room : ∀ {a x}, Is a x → |x| < room

namespace Numbers

variable {α β : Type} {numbers : Numbers α} {others : Numbers β} {x y : ℚ} {result : Option α}

/-- The result is the number if there is room for it, and there is none otherwise. -/
structure Found (numbers : Numbers α) (x : ℚ) (result : Option α) : Prop where
  within : |x| < numbers.room → ∃ a, result = some a ∧ numbers.Is a x
  beyond : numbers.room ≤ |x| → result = none

theorem Found.of_is {a : α} (h : numbers.Is a x) : numbers.Found x (some a) where
  within _ := ⟨a, rfl, h⟩
  beyond hfull := absurd (numbers.lt_room h) (not_lt.mpr hfull)

theorem Found.bind {f : α → Option β} (h : numbers.Found x result)
    (hnext : ∀ a, numbers.Is a x → others.Found y (f a))
    (hroom : numbers.room ≤ |x| → others.room ≤ |y|) : others.Found y (result >>= f) := by
  rcases lt_or_ge |x| numbers.room with hless | hfull
  · obtain ⟨a, rfl, ha⟩ := h.within hless
    exact hnext a ha
  · rw [h.beyond hfull]
    exact ⟨fun hless => absurd hless (not_lt.mpr (hroom hfull)), fun _ => rfl⟩

theorem Found.map {f : α → α} (h : numbers.Found x result)
    (hkeeps : ∀ a, numbers.Is a x → numbers.Is (f a) x) : numbers.Found x (result.map f) := by
  rw [Option.map_eq_bind]
  exact h.bind (fun a ha => .of_is (hkeeps a ha)) id

/-- A product that is exact as far as there is room. -/
def Exact (numbers : Numbers α) (times : α → α → Option α) : Prop :=
  ∀ {a b x y}, numbers.Is a x → numbers.Is b y → numbers.Found (x * y) (times a b)

/-! ## Repeated squaring -/

/-- A number is not larger than a multiple of it. -/
theorem abs_mul_pow_le (hx : 1 ≤ |x|) (hy : 1 ≤ |y|) {m n : ℕ} (h : m ≤ n) :
    |y ^ m| ≤ |x * y ^ n| := by
  rw [abs_mul, abs_pow, abs_pow]
  calc |y| ^ m ≤ |y| ^ n := pow_le_pow_right₀ hy h
    _ ≤ |x| * |y| ^ n := le_mul_of_one_le_left (by positivity) hx

/-- What one digit of the exponent does. -/
theorem raiseFrom_of_ne_zero (times : α → α → Option α) (product square : α) {exponent : ℕ}
    (h : exponent ≠ 0) : raiseFrom times product square exponent =
      (if exponent % 2 = 1 then times product square else some product) >>= fun next =>
        if exponent / 2 = 0 then some next
        else times square square >>= fun wider => raiseFrom times next wider (exponent / 2) := by
  rw [raiseFrom, if_neg h]
  by_cases hodd : exponent % 2 = 1
  · rw [if_pos hodd, if_pos hodd]
  · rw [if_neg hodd, if_neg hodd]

/-- From any product and square that have been found so far, repeated squaring finds the product
    with the power of the square. -/
theorem found_raiseFrom {times : α → α → Option α} (hexact : numbers.Exact times)
    {product square : α} (hproduct : numbers.Is product x) (hsquare : numbers.Is square y)
    (hx : 1 ≤ |x|) (hy : 1 ≤ |y|) (exponent : ℕ) :
    numbers.Found (x * y ^ exponent) (raiseFrom times product square exponent) := by
  induction exponent using Nat.strongRecOn generalizing product square x y with
  | ind exponent ih =>
    by_cases hzero : exponent = 0
    · rw [hzero, raiseFrom, if_pos rfl, pow_zero, mul_one]
      exact .of_is hproduct
    rw [raiseFrom_of_ne_zero _ _ _ hzero]
    have hsplit : exponent = 2 * (exponent / 2) + exponent % 2 := (Nat.div_add_mod _ 2).symm
    have hpower : x * y ^ (exponent % 2) * (y * y) ^ (exponent / 2) = x * y ^ exponent := by
      conv_rhs => rw [hsplit, pow_add, pow_mul]
      ring
    have hlow : numbers.Found (x * y ^ (exponent % 2))
        (if exponent % 2 = 1 then times product square else some product) := by
      split
      · rename_i hodd
        rw [hodd, pow_one]
        exact hexact hproduct hsquare
      · rename_i heven
        rw [Nat.mod_two_ne_one.mp heven, pow_zero, mul_one]
        exact .of_is hproduct
    have hlow_abs : 1 ≤ |x * y ^ (exponent % 2)| := by
      simpa using abs_mul_pow_le hx hy (Nat.zero_le (exponent % 2))
    have hsquare_abs : 1 ≤ |y * y| := by
      rw [abs_mul]
      exact one_le_mul_of_one_le_of_one_le hy hy
    refine hlow.bind (fun next hnext => ?_) (fun hfull => hfull.trans ?_)
    · split
      · rename_i hlast
        rw [hlast, pow_zero, mul_one] at hpower
        rw [← hpower]
        exact .of_is hnext
      · rename_i hmore
        refine (hexact hsquare hsquare).bind (fun wider hwider => ?_) (fun hfull => hfull.trans ?_)
        · rw [← hpower]
          exact ih (exponent / 2) (by omega) hnext hwider hlow_abs hsquare_abs
        · -- The next square is a factor of the power, as the exponent is at least two.
          rw [← pow_two]
          exact abs_mul_pow_le hx hy (by omega)
    · rw [abs_mul, abs_mul, abs_pow, abs_pow]
      exact mul_le_mul_of_nonneg_left (pow_le_pow_right₀ hy (Nat.mod_le _ _)) (abs_nonneg x)

end Numbers

/-! ## Decimals without decimals -/

namespace Decimal

variable {base d : Decimal} {x : ℚ}

theorem withSign_mul_withSign (negative other : Bool) (x y : ℚ) :
    withSign negative x * withSign other y = withSign (negative != other) (x * y) := by
  cases negative <;> cases other <;> simp [withSign]

theorem abs_withSign_natCast (negative : Bool) (n : ℕ) : |withSign negative (n : ℚ)| = n := by
  rw [abs_withSign, Nat.abs_cast]

theorem value_one : one.value = 1 := by norm_num [value, signed, one, ofSmall]

theorem value_of_scale (h : d.scale = 0) : d.value = withSign d.negative d.coefficient := by
  rw [value_eq, h, pow_zero, div_one]

theorem abs_value_of_scale (h : d.scale = 0) : |d.value| = d.coefficient := by
  rw [value_of_scale h, abs_withSign_natCast]

/-- The whole numbers at scale 0. -/
def numbers : Numbers Decimal where
  Is d x := d.scale = 0 ∧ d.value = x
  room := limit
  lt_room := by
    rintro d x ⟨hscale, rfl⟩
    rw [abs_value_of_scale hscale]
    exact_mod_cast d.coefficient_lt

theorem found_make? (negative : Bool) (n : ℕ) :
    numbers.Found (withSign negative n) (make? negative n 0) where
  within h := by
    rw [abs_withSign_natCast] at h
    have hlt : n < limit := Nat.cast_lt.mp h
    refine ⟨⟨negative, n, 0, hlt, Nat.zero_le _⟩, ?_, rfl, value_of_scale rfl⟩
    rw [make?, dif_pos hlt, dif_pos (Nat.zero_le _)]
  beyond h := by
    rw [abs_withSign_natCast] at h
    have hle : limit ≤ n := Nat.cast_le.mp h
    rw [make?, dif_neg (Nat.not_lt.mpr hle)]

/-- The product of whole numbers is exact as far as there is room. -/
theorem mul?_exact : numbers.Exact mul? := by
  rintro a b x y ⟨hscale, rfl⟩ ⟨hscale', rfl⟩
  by_cases hzero : a.isZero = true ∨ b.isZero = true
  · have hvalue : a.value * b.value = 0 := by
      rcases hzero with hzero | hzero <;> simp [value_of_zero hzero]
    rw [mul?, if_pos (by simpa using hzero), hvalue]
    exact .of_is ⟨rfl, value_of_zero rfl⟩
  · obtain ⟨ha, hb⟩ := not_or.mp hzero
    have hnonzero : a.coefficient * b.coefficient ≠ 0 :=
      Nat.mul_ne_zero (by simpa [isZero] using ha) (by simpa [isZero] using hb)
    rw [mul?, if_neg (by simpa using hzero), if_neg (by simp [hscale, hscale']), hscale, hscale',
      fit?_whole, value_of_scale hscale, value_of_scale hscale', withSign_mul_withSign,
      ← Nat.cast_mul]
    refine (found_make? _ _).map ?_
    rintro d ⟨hd, hvalue⟩
    -- Only a product that is zero could lose its sign.
    have hkept : d.isZero = false := by
      rw [← Bool.not_eq_true, isZero_iff, hvalue, ← abs_eq_zero, abs_withSign_natCast]
      exact_mod_cast hnonzero
    simp only [hkept, Bool.and_false, Bool.not_false, Bool.and_true]
    exact ⟨hd, hvalue⟩

theorem normalize_is (h : numbers.Is d x) : numbers.Is d.normalize x :=
  ⟨Nat.le_zero.mp (h.1 ▸ normalize_scale_le d), (value_normalize d).trans h.2⟩

end Decimal

/-! ## Wide numbers without decimals -/

namespace Wide

variable {w : Wide} {x : ℚ}

open Decimal (withSign)

theorem fitInto?_whole (room : Room) (n : ℕ) :
    fitInto? room n 0 = if n < twoTo room.bits then some (n, 0) else none := by
  unfold fitInto?
  split
  · rw [Nat.zero_sub, dropRounded, if_pos rfl, Nat.zero_min]
  · exact if_pos (Nat.lt_of_lt_of_le (Nat.succ_pos _) (Nat.le_max_left _ _))

/-- The whole numbers among the wide numbers. -/
def numbers : Numbers Wide where
  Is w x := (w.scale = 0 ∧ w.magnitude < twoTo wideRoom.bits) ∧ withSign w.negative w.magnitude = x
  room := twoTo wideRoom.bits
  lt_room := by
    rintro w x ⟨⟨_, hlt⟩, rfl⟩
    rw [Decimal.abs_withSign_natCast]
    exact_mod_cast hlt

theorem mul?_exact : numbers.Exact mul? := by
  rintro a b x y ⟨⟨ha, _⟩, rfl⟩ ⟨⟨hb, _⟩, rfl⟩
  have habs : |withSign (a.negative != b.negative) ((a.magnitude * b.magnitude : ℕ) : ℚ)| =
      (a.magnitude * b.magnitude : ℕ) := Decimal.abs_withSign_natCast _ _
  rw [Decimal.withSign_mul_withSign, ← Nat.cast_mul, mul?, ha, hb, fitInto?_whole]
  constructor
  · intro hless
    rw [habs] at hless
    have hlt : a.magnitude * b.magnitude < twoTo wideRoom.bits := Nat.cast_lt.mp hless
    rw [if_pos hlt]
    exact ⟨_, rfl, ⟨rfl, hlt⟩, rfl⟩
  · intro hfull
    rw [habs] at hfull
    have hle : twoTo wideRoom.bits ≤ a.magnitude * b.magnitude := Nat.cast_le.mp hfull
    rw [if_neg (Nat.not_lt.mpr hle)]

theorem ofDecimal_is {d : Decimal} (h : Decimal.numbers.Is d x) : numbers.Is (ofDecimal d) x := by
  have hbits : Decimal.limit ≤ twoTo wideRoom.bits := by decide
  exact ⟨⟨h.1, Nat.lt_of_lt_of_le d.coefficient_lt hbits⟩, (Decimal.value_of_scale h.1).symm.trans h.2⟩

/-- A wide number is taken back if there is room for it. -/
theorem found_toDecimal? (h : numbers.Is w x) : Decimal.numbers.Found x w.toDecimal? := by
  obtain ⟨⟨hscale, _⟩, rfl⟩ := h
  have hmake : w.toDecimal? = Decimal.make? w.negative w.magnitude 0 := by
    rw [toDecimal?, hscale, fitInto?_whole]
    by_cases hlt : w.magnitude < twoTo decimalRoom.bits
    · rw [if_pos hlt]
    · have hfull : ¬ w.magnitude < twoTo 96 := hlt
      rw [if_neg hlt, Decimal.make?, dif_neg hfull]
  rw [hmake]
  exact Decimal.found_make? _ _

end Wide

/-! ## Powers -/

namespace Decimal

variable {base : Decimal} {x : ℚ}

/-- The power of a whole number is found exactly if there is room for it. -/
theorem found_powNat? (h : numbers.Is base x) (exponent : ℕ) :
    numbers.Found (x ^ exponent) (base.powNat? exponent) := by
  have hone : numbers.Is one 1 := ⟨rfl, value_one⟩
  unfold powNat?
  split_ifs with hnone hsingle hsquare hzero hunit hnarrow
  · rw [hnone, pow_zero]
    exact .of_is hone
  · rw [hsingle, pow_one]
    exact .of_is h
  · rw [hsquare, pow_two]
    exact mul?_exact h h
  · rw [← h.2, value_of_zero hzero, zero_pow hnone]
    exact .of_is ⟨rfl, value_of_zero rfl⟩
  · rw [← h.2, same_iff.mp hunit, hone.2, one_pow]
    exact .of_is hone
  all_goals
    have habs : 1 ≤ |x| := by
      have hpos : 0 < base.coefficient := Nat.pos_of_ne_zero (by simpa [isZero] using hzero)
      rw [← h.2, abs_value_of_scale h.1]
      exact_mod_cast hpos
  · have hraise := Numbers.found_raiseFrom mul?_exact hone h (abs_one.ge) habs exponent
    rw [one_mul] at hraise
    exact hraise.map fun _ => normalize_is
  · have hraise := Numbers.found_raiseFrom Wide.mul?_exact (Wide.ofDecimal_is hone)
      (Wide.ofDecimal_is h) (abs_one.ge) habs exponent
    rw [one_mul] at hraise
    have hbits : (limit : ℚ) ≤ (twoTo Wide.wideRoom.bits : ℕ) := by
      exact_mod_cast (by decide : limit ≤ twoTo Wide.wideRoom.bits)
    refine Numbers.Found.map ?_ fun _ => normalize_is
    exact hraise.bind (fun _ => Wide.found_toDecimal?) fun hfull => hbits.trans hfull

end Decimal
end Formula

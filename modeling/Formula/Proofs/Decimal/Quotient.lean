-- SUMMARY: Dividing a decimal by a power of ten, or one by a whole number, finds the nearest quotient with 28 decimals, or the quotient itself if it has no more.
import Formula.Decimal.Arithmetic

/-!
# Quotients

Long division finds the quotient in blocks of digits. If there is room for another digit as long as
something is left, and no digit is lost where a block does not fit (`Decimal.Roomy`), it goes on to
the last decimal, and what is left there is rounded half to even (`Decimal.div?_nearest`).

Long division by a power of ten ends without a remainder once as many decimals are found as the
power has zeros, unless the decimals run out before that. Until then there is room for another
digit, and a block of digits that is one too long ends in a zero. The digits of the reciprocal of a
whole number always have room.
-/

namespace Formula

/-- What divides without a remainder is not rounded. -/
theorem roundQuotient_exact (mode : RoundingMode) (negative : Bool) (quotient : Nat) {divisor : Nat}
    (h : 0 < divisor) : roundQuotient mode negative (quotient * divisor) divisor = quotient := by
  have hdiv : quotient * divisor / divisor = quotient := Nat.mul_div_cancel _ h
  have hdown : mode.roundsUp negative quotient 0 divisor = false := by
    cases mode <;> simp [RoundingMode.roundsUp] <;> omega
  simp only [roundQuotient, hdiv, Nat.mul_mod_left, hdown, Bool.false_eq_true, if_false]

namespace Decimal

theorem isZero_eq_false {d : Decimal} (h : 0 < d.coefficient) : d.isZero = false :=
  beq_eq_false_iff_ne.mpr (Nat.ne_of_gt h)

/-! ## Blocks of digits -/

theorem growth_pos {q most : Nat} (hroom : q * 10 < limit) (hmost : 0 < most) :
    0 < growth q most := by
  induction most with
  | zero => exact absurd hmost (Nat.lt_irrefl 0)
  | succ most ih =>
    simp only [growth]
    split
    · exact Nat.succ_pos most
    · rename_i hfull
      cases most with
      | zero => exact absurd hroom hfull
      | succ most => exact ih (Nat.succ_pos most)

theorem growth_room {q most : Nat} (h : 0 < growth q most) : q * tenTo (growth q most) < limit := by
  induction most with
  | zero => exact absurd h (Nat.lt_irrefl 0)
  | succ most ih =>
    simp only [growth] at h ⊢
    split
    · assumption
    · rename_i hfull
      rw [if_neg hfull] at h
      exact ih h

/-! ## Long division -/

/-- A remainder is zero if the divisor divides the dividend. -/
theorem eq_zero_of_dvd_remainder {divisor q r : Nat} (hlt : r < divisor)
    (h : divisor ∣ q * divisor + r) : r = 0 :=
  Nat.eq_zero_of_dvd_of_lt ((Nat.dvd_add_right (Nat.dvd_mul_left _ _)).mp h) hlt

/-- After `taken` decimals the quotient of `n` by the divisor is `q`, and `r` is left. -/
structure Divided (n divisor taken q r : Nat) : Prop where
  product : q * divisor + r = n * tenTo taken
  remainder_lt : r < divisor
  quotient_lt : q < limit

namespace Divided

variable {n divisor shift taken q r : Nat}

theorem start (hdivisor : 0 < divisor) (hn : n < limit) :
    Divided n divisor 0 (n / divisor) (n % divisor) where
  product := by
    rw [Nat.mul_comm]
    exact (Nat.div_add_mod n divisor).trans (Nat.mul_one n).symm
  remainder_lt := Nat.mod_lt _ hdivisor
  quotient_lt := Nat.lt_of_le_of_lt (Nat.div_le_self _ _) hn

theorem divisor_pos (h : Divided n divisor taken q r) : 0 < divisor :=
  Nat.lt_of_le_of_lt (Nat.zero_le r) h.remainder_lt

theorem next_product (h : Divided n divisor taken q r) (block : Nat) :
    (q * tenTo block + r * tenTo block / divisor) * divisor + r * tenTo block % divisor =
      n * tenTo (taken + block) := by
  have hdiv := Nat.div_add_mod (r * tenTo block) divisor
  calc (q * tenTo block + r * tenTo block / divisor) * divisor + r * tenTo block % divisor
      = q * tenTo block * divisor + (divisor * (r * tenTo block / divisor) +
          r * tenTo block % divisor) := by
        rw [Nat.add_mul, Nat.add_assoc, Nat.mul_comm (r * tenTo block / divisor)]
    _ = (q * divisor + r) * tenTo block := by
        rw [hdiv, Nat.add_mul, Nat.mul_right_comm]
    _ = n * tenTo (taken + block) := by rw [h.product, tenTo_add, Nat.mul_assoc]

theorem next (h : Divided n divisor taken q r) (block : Nat)
    (hlt : q * tenTo block + r * tenTo block / divisor < limit) :
    Divided n divisor (taken + block) (q * tenTo block + r * tenTo block / divisor)
      (r * tenTo block % divisor) :=
  ⟨h.next_product block, Nat.mod_lt _ h.divisor_pos, hlt⟩

/-! ### Powers of ten -/

/-- Nothing is left once all decimals are taken. -/
theorem exact (h : Divided n (tenTo shift) taken q r) (hle : shift ≤ taken) : r = 0 := by
  apply eq_zero_of_dvd_remainder h.remainder_lt
  rw [h.product, ← Nat.sub_add_cancel hle, tenTo_add]
  exact ⟨n * tenTo (taken - shift), by rw [← Nat.mul_assoc, Nat.mul_comm]⟩

theorem taken_lt (h : Divided n (tenTo shift) taken q r) (hr : r ≠ 0) : taken < shift :=
  Nat.lt_of_not_le fun hle => hr (h.exact hle)

theorem quotient_le (h : Divided n (tenTo shift) taken q r) (hle : taken ≤ shift) :
    q * tenTo (shift - taken) ≤ n := by
  have hsplit : tenTo shift = tenTo (shift - taken) * tenTo taken := by
    rw [← tenTo_add, Nat.sub_add_cancel hle]
  have hproduct : q * tenTo (shift - taken) * tenTo taken ≤ n * tenTo taken := by
    rw [Nat.mul_assoc, ← hsplit, ← h.product]
    exact Nat.le_add_right _ _
  exact Nat.le_of_mul_le_mul_right hproduct (tenTo_pos taken)

/-- While something is left there is room for one more digit. -/
theorem room (h : Divided n (tenTo shift) taken q r) (hn : n < limit) (hr : r ≠ 0) :
    q * 10 < limit := by
  have htaken := h.taken_lt hr
  have hle := h.quotient_le (Nat.le_of_lt htaken)
  have hten : tenTo 1 ≤ tenTo (shift - taken) := tenTo_le_tenTo (by omega)
  have hmul : q * tenTo 1 ≤ q * tenTo (shift - taken) := Nat.mul_le_mul_left q hten
  exact Nat.lt_of_le_of_lt (Nat.le_trans hmul hle) hn

/-- A block that does not fit is one digit too long, and that digit is a zero. -/
theorem overshoot (h : Divided n (tenTo shift) taken q r) {block : Nat} (hn : n < limit)
    (hblock : block ≤ 28) (hroom : q * tenTo block < limit) {q' r' : Nat}
    (hq : q' = q * tenTo block + r * tenTo block / tenTo shift)
    (hr : r' = r * tenTo block % tenTo shift) (hfull : limit ≤ q') :
    r' = 0 ∧ q' % 10 = 0 ∧ q' / 10 < limit ∧ q' * tenTo shift = n * tenTo (taken + block) := by
  have hproduct : q' * tenTo shift + r' = n * tenTo (taken + block) := by
    rw [hq, hr]
    exact h.next_product block
  have hbehind : shift < taken + block := by
    refine Nat.lt_of_not_le fun hle => Nat.lt_irrefl n (Nat.lt_of_lt_of_le hn ?_)
    have hmul : q' * tenTo shift ≤ n * tenTo shift :=
      calc q' * tenTo shift ≤ n * tenTo (taken + block) := hproduct ▸ Nat.le_add_right _ _
        _ ≤ n * tenTo shift := Nat.mul_le_mul_left n (tenTo_le_tenTo hle)
    exact Nat.le_trans hfull (Nat.le_of_mul_le_mul_right hmul (tenTo_pos shift))
  have hmultiple : n * tenTo (taken + block) =
      n * tenTo (taken + block - shift - 1) * 10 * tenTo shift := by
    have hsplit : taken + block = taken + block - shift - 1 + 1 + shift := by omega
    calc n * tenTo (taken + block)
        = n * tenTo (taken + block - shift - 1 + 1 + shift) := by rw [← hsplit]
      _ = n * tenTo (taken + block - shift - 1) * 10 * tenTo shift := by
        rw [tenTo_add, tenTo_succ, ← Nat.mul_assoc, ← Nat.mul_assoc]
  have hzero : r' = 0 := by
    apply eq_zero_of_dvd_remainder (hr ▸ Nat.mod_lt _ (tenTo_pos shift))
    rw [hproduct, hmultiple]
    exact Nat.dvd_mul_left _ _
  have hdigits : q' = n * tenTo (taken + block - shift - 1) * 10 := by
    apply Nat.eq_of_mul_eq_mul_right (tenTo_pos shift)
    rw [← hmultiple, ← hproduct, hzero, Nat.add_zero]
  refine ⟨hzero, by omega, ?_, by rw [← hproduct, hzero, Nat.add_zero]⟩
  have hnext : r * tenTo block / tenTo shift < tenTo block := by
    rw [Nat.div_lt_iff_lt_mul (tenTo_pos shift), Nat.mul_comm (tenTo block)]
    exact Nat.mul_lt_mul_of_pos_right h.remainder_lt (tenTo_pos block)
  have hsmall : tenTo block < limit := Nat.lt_of_le_of_lt (tenTo_le_tenTo hblock) (by decide)
  omega

end Divided

/-- The most decimals that a quotient is found with: as many as the dividend has, and at least
    28. -/
def quotientPlaces (scale : Nat) : Nat := max maxScale scale

/-! ### Divisions without loss -/

/-- A long division of `n / 10 ^ scale` in which digits have room: for one more as long as something
    is left, and where a block does not fit, for all of the block but a last zero. -/
structure Roomy (n scale divisor : Nat) : Prop where
  room : ∀ {taken q r}, Divided n divisor taken q r → scale + taken ≤ quotientPlaces scale →
    r ≠ 0 → q * 10 < limit
  overshoot : ∀ {taken q r block q' r'}, Divided n divisor taken q r → scale + taken + block ≤ 28 →
    q * tenTo block < limit → q' = q * tenTo block + r * tenTo block / divisor →
    r' = r * tenTo block % divisor → limit ≤ q' →
    r' = 0 ∧ q' % 10 = 0 ∧ q' / 10 < limit ∧ q' * divisor = n * tenTo (taken + block)

theorem Roomy.tenTo {n scale shift : Nat} (hn : n < limit) : Roomy n scale (tenTo shift) where
  room h _ hr := h.room hn hr
  overshoot h hblock hroom hq hr hfull := h.overshoot hn (by omega) hroom hq hr hfull

/-- The decimals of a reciprocal are fewer than those of one half. -/
theorem Roomy.one (divisor : Nat) : Roomy 1 0 divisor where
  room := by
    intro taken q r h htaken hr
    have hdivisor := h.remainder_lt
    have hplaces : taken ≤ 28 := Nat.le_trans (Nat.le_add_left taken 0) htaken
    have hhalf : q * 2 ≤ Formula.tenTo 28 :=
      calc q * 2 ≤ q * divisor := Nat.mul_le_mul_left q (by omega)
        _ ≤ 1 * Formula.tenTo taken := h.product ▸ Nat.le_add_right _ _
        _ = Formula.tenTo taken := Nat.one_mul _
        _ ≤ Formula.tenTo 28 := tenTo_le_tenTo hplaces
    have hbound : Formula.tenTo 28 * 5 < limit := by decide
    omega
  overshoot := by
    intro taken q r block q' r' h hblock _ hq hr hfull
    have hproduct : q' * divisor + r' = 1 * Formula.tenTo (taken + block) := by
      rw [hq, hr]
      exact h.next_product block
    have hle : q' ≤ Formula.tenTo 28 :=
      calc q' ≤ q' * divisor := Nat.le_mul_of_pos_right q' h.divisor_pos
        _ ≤ 1 * Formula.tenTo (taken + block) := hproduct ▸ Nat.le_add_right _ _
        _ = Formula.tenTo (taken + block) := Nat.one_mul _
        _ ≤ Formula.tenTo 28 := tenTo_le_tenTo (by omega)
    have hbound : Formula.tenTo 28 < limit := by decide
    omega

/-- The outcome of a long division of `n / 10 ^ scale`: with the most decimals, it is the number
    nearest to the quotient. -/
structure Nearest (n scale divisor : Nat) (quotient : Quotient) : Prop where
  scale_nonneg : 0 ≤ quotient.scale
  scale_le : quotient.scale ≤ quotientPlaces scale
  digits_lt : quotient.digits < limit
  digits_eq : quotient.digits * tenTo (quotientPlaces scale - quotient.scale.toNat) =
    roundQuotient .nearestEven false (n * tenTo (quotientPlaces scale - scale)) divisor

/-- The quotient itself is nearest. -/
theorem nearest_of_product {n scale divisor taken q : Nat} (inexact : Bool)
    (hdivisor : 0 < divisor) (hplaces : scale + taken ≤ quotientPlaces scale) (hlt : q < limit)
    (h : q * divisor = n * tenTo taken) :
    Nearest n scale divisor ⟨q, (scale : Int) + taken, inexact⟩ := by
  refine ⟨by simp only; omega, by simp only; omega, hlt, ?_⟩
  have hscale : ((scale : Int) + taken).toNat = scale + taken := by omega
  have hsplit : quotientPlaces scale - scale =
      taken + (quotientPlaces scale - (scale + taken)) := by omega
  simp only [hscale]
  rw [hsplit, tenTo_add, ← Nat.mul_assoc, ← h, Nat.mul_right_comm,
    roundQuotient_exact _ _ _ hdivisor]

/-- A last digit that is zero is dropped without an error. -/
theorem dropLastDigit_nearest {n scale divisor taken q : Nat} (inexact : Bool)
    (hdivisor : 0 < divisor) (hpos : 0 < taken) (hplaces : scale + taken ≤ quotientPlaces scale)
    (hlast : q % 10 = 0) (hlt : q / 10 < limit) (h : q * divisor = n * tenTo taken) :
    ∃ quotient, dropLastDigit q 0 ((scale : Int) + taken) inexact = some quotient ∧
      Nearest n scale divisor quotient := by
  have hscale : (scale : Int) + taken - 1 = scale + (taken - 1 : Nat) := by omega
  refine ⟨⟨q / 10, (scale : Int) + (taken - 1 : Nat), inexact⟩, ?_, ?_⟩
  · rw [dropLastDigit, if_neg (by omega), hscale]
    simp [hlast]
  · apply nearest_of_product inexact hdivisor (by omega) hlt
    apply Nat.eq_of_mul_eq_mul_right (Nat.succ_pos 9)
    have htaken : tenTo taken = tenTo (taken - 1) * 10 := by
      rw [← tenTo_succ, Nat.sub_add_cancel hpos]
    have hdigits : q / 10 * 10 = q := by omega
    rw [Nat.mul_right_comm, hdigits, h, htaken, Nat.mul_assoc]

/-- At the last decimal the quotient is rounded on what is left. -/
theorem finishQuotient_nearest {n scale divisor taken q r : Nat}
    (h : Divided n divisor taken q r) (hroom : q * 10 < limit)
    (hplaces : scale + taken = quotientPlaces scale) :
    ∃ quotient, finishQuotient divisor q r ((scale : Int) + taken) = some quotient ∧
      Nearest n scale divisor quotient := by
  have hquotient : n * tenTo taken / divisor = q := by
    rw [← h.product, Nat.mul_comm, Nat.mul_add_div h.divisor_pos,
      Nat.div_eq_of_lt h.remainder_lt, Nat.add_zero]
  have hremainder : n * tenTo taken % divisor = r := by
    rw [← h.product, Nat.mul_comm, Nat.mul_add_mod, Nat.mod_eq_of_lt h.remainder_lt]
  have hround : (if RoundingMode.nearestEven.roundsUp false q r divisor then q + 1 else q) =
      roundQuotient .nearestEven false (n * tenTo taken) divisor := by
    simp only [roundQuotient, hquotient, hremainder]
  have hlt : roundQuotient .nearestEven false (n * tenTo taken) divisor < limit := by
    have hle := roundQuotient_le .nearestEven false (n * tenTo taken) divisor
    have hmany : 10 < limit := by decide
    rw [hquotient] at hle
    omega
  rw [finishQuotient]
  simp only [hround]
  rw [if_neg (Nat.ne_of_lt hlt)]
  refine ⟨_, rfl, by simp only; omega, by simp only; omega, hlt, ?_⟩
  have hscale : ((scale : Int) + taken).toNat = quotientPlaces scale := by omega
  have htaken : quotientPlaces scale - scale = taken := by omega
  simp only [hscale, htaken, Nat.sub_self]
  exact Nat.mul_one _

/-- A division in which digits have room finds the nearest quotient. -/
theorem divideFrom_nearest {n scale divisor : Nat} (hroomy : Roomy n scale divisor)
    {taken q r : Nat} (h : Divided n divisor taken q r)
    (htaken : scale + taken ≤ quotientPlaces scale) (inexact : Bool) :
    ∃ quotient, divideFrom divisor q r ((scale : Int) + taken) inexact = some quotient ∧
      Nearest n scale divisor quotient := by
  induction hleft : 28 - (scale + taken) using Nat.strongRecOn generalizing taken q r inexact with
  | ind left ih =>
    subst hleft
    rw [divideFrom]
    by_cases hr : r = 0
    · rw [if_pos ⟨hr, by omega⟩]
      refine ⟨_, rfl, nearest_of_product inexact h.divisor_pos htaken h.quotient_lt ?_⟩
      rw [← h.product, hr, Nat.add_zero]
    rw [if_neg fun hboth => hr hboth.1]
    simp only
    have hblock : nextBlock q r ((scale : Int) + taken) =
        if (scale : Int) + taken < 28 then
          growth q (if (scale : Int) + taken ≤ 19 then 9 else (28 - ((scale : Int) + taken)).toNat)
        else 0 := by
      rw [nextBlock, if_neg hr]
    by_cases hlast : 28 ≤ scale + taken
    · rw [if_neg (by omega)] at hblock
      rw [if_pos hblock, if_neg (by omega)]
      apply finishQuotient_nearest h (hroomy.room h htaken hr)
      simp only [quotientPlaces, maxScale] at htaken ⊢
      omega
    · rw [if_pos (by omega)] at hblock
      have hpos : 0 < nextBlock q r ((scale : Int) + taken) := by
        rw [hblock]
        apply growth_pos (hroomy.room h htaken hr)
        split <;> omega
      have hroom : q * tenTo (nextBlock q r ((scale : Int) + taken)) < limit := by
        rw [hblock] at hpos ⊢
        exact growth_room hpos
      have hle := nextBlock_le q r ((scale : Int) + taken)
      rw [if_neg (Nat.ne_of_gt hpos), if_neg (Nat.not_le_of_lt hroom)]
      generalize nextBlock q r ((scale : Int) + taken) = block at hpos hroom hle ⊢
      have hscale : (scale : Int) + taken + block = scale + (taken + block : Nat) := by omega
      have hwithin : scale + (taken + block) ≤ 28 := by omega
      have hplaces := Nat.le_trans hwithin (Nat.le_max_left maxScale scale)
      rw [hscale]
      split
      · rename_i hfull
        obtain ⟨hexact, hzero, hlt, hproduct⟩ := hroomy.overshoot h (by omega) hroom rfl rfl hfull
        rw [hexact]
        exact dropLastDigit_nearest _ h.divisor_pos (by omega) hplaces hzero hlt hproduct
      · rename_i hfits
        exact ih _ (by omega) (h.next block (Nat.lt_of_not_le hfits)) hplaces _ rfl

/-! ## Trailing zeros of a quotient -/

/-- Decimals that are zero are removed. -/
def Trimmed (q scale : Nat) (trimmed : Nat × Nat) : Prop :=
  ∃ count, q = trimmed.1 * tenTo count ∧ scale = trimmed.2 + count

namespace Trimmed

theorem refl (q scale : Nat) : Trimmed q scale (q, scale) :=
  ⟨0, (Nat.mul_one q).symm, rfl⟩

theorem trans {q scale : Nat} {a b : Nat × Nat} (ha : Trimmed q scale a)
    (hb : Trimmed a.1 a.2 b) : Trimmed q scale b := by
  obtain ⟨m, hq, hscale⟩ := ha
  obtain ⟨n, hq', hscale'⟩ := hb
  exact ⟨n + m, by rw [hq, hq', tenTo_add, Nat.mul_assoc], by omega⟩

theorem of_dvd {q scale count : Nat} (hle : count ≤ scale) (h : q % tenTo count = 0) :
    Trimmed q scale (q / tenTo count, scale - count) :=
  ⟨count, (Nat.div_mul_cancel (Nat.dvd_of_mod_eq_zero h)).symm, (Nat.sub_add_cancel hle).symm⟩

end Trimmed

theorem removeZeros_trimmed (q scale count : Nat) :
    Trimmed q scale (removeZeros q scale count) := by
  unfold removeZeros
  split
  · rename_i h
    exact .of_dvd h.1 h.2
  · exact .refl q scale

theorem removeZeroBlocks_trimmed (q scale : Nat) :
    Trimmed q scale (removeZeroBlocks q scale) := by
  induction q, scale using removeZeroBlocks.induct with
  | case1 q scale h ih =>
    rw [removeZeroBlocks, dif_pos h]
    exact (Trimmed.of_dvd h.2.1 h.2.2).trans ih
  | case2 q scale h =>
    rw [removeZeroBlocks, dif_neg h]
    exact .refl q scale

theorem trimQuotient_trimmed (q scale : Nat) : Trimmed q scale (trimQuotient q scale) := by
  have htry : ∀ {q scale : Nat} {a : Nat × Nat} (c : Prop) [Decidable c] (count : Nat),
      Trimmed q scale a → Trimmed q scale (if c then removeZeros a.1 a.2 count else a) := by
    intro q scale a c _ count h
    split
    · exact h.trans (removeZeros_trimmed _ _ _)
    · exact h
  exact htry _ 1 (htry _ 2 (htry _ 4 (removeZeroBlocks_trimmed q scale)))

/-! ## Decimals -/

/-- The whole number ten to a power. -/
theorem powerOfTen?_eq {k : Nat} (h : k ≤ 18) : ∃ factor, powerOfTen? k = some factor ∧
    factor.negative = false ∧ factor.coefficient = tenTo k ∧ factor.scale = 0 := by
  have hlt : tenTo k < limit := Nat.lt_of_le_of_lt (tenTo_le_tenTo h) (by decide)
  refine ⟨⟨false, tenTo k, 0, hlt, Nat.zero_le _⟩, ?_, rfl, rfl, rfl⟩
  rw [powerOfTen?, if_pos h, make?, dif_pos hlt, dif_pos (Nat.zero_le _)]

/-- The quotient by a whole number, in a division in which digits have room, is the nearest number
    with the most decimals that a quotient has. A quotient of zero has no sign. -/
theorem div?_nearest {d divisor : Decimal} (hwhole : divisor.scale = 0)
    (hpos : 0 < divisor.coefficient)
    (hroomy : Roomy d.coefficient d.scale divisor.coefficient) :
    ∃ w, d.div? divisor = some w ∧
      w.negative = ((d.negative != divisor.negative) && w.coefficient != 0) ∧
      w.scale ≤ quotientPlaces d.scale ∧
      w.coefficient * tenTo (quotientPlaces d.scale - w.scale) =
        roundQuotient .nearestEven false
          (d.coefficient * tenTo (quotientPlaces d.scale - d.scale)) divisor.coefficient := by
  have hdivisor : ¬ divisor.isZero = true := by
    rw [isZero_eq_false hpos]
    exact Bool.false_ne_true
  by_cases hdividend : d.isZero = true
  · have hcoefficient : d.coefficient = 0 := eq_of_beq hdividend
    have hzero := roundQuotient_exact .nearestEven false 0 hpos
    refine ⟨zero, by rw [div?, if_neg hdivisor, if_pos hdividend], ?_, Nat.zero_le _, ?_⟩
    · exact (Bool.and_false _).symm
    · rw [Nat.zero_mul] at hzero
      rw [hcoefficient, Nat.zero_mul, hzero]
      exact Nat.zero_mul _
  have hstart : Divided d.coefficient divisor.coefficient 0 _ _ := .start hpos d.coefficient_lt
  have hplaces : d.scale + 0 ≤ quotientPlaces d.scale := Nat.le_max_right _ _
  obtain ⟨quotient, hdivide, hnearest⟩ := divideFrom_nearest hroomy hstart hplaces false
  have hscales : (d.scale : Int) - divisor.scale = d.scale + (0 : Nat) := by omega
  obtain ⟨trimmed, ⟨count, hdigits, hcount⟩, hresult⟩ : ∃ trimmed,
      Trimmed quotient.digits quotient.scale.toNat trimmed ∧
      d.div? divisor =
        make? ((d.negative != divisor.negative) && trimmed.1 != 0) trimmed.1 trimmed.2 := by
    refine ⟨if quotient.inexact then trimQuotient quotient.digits quotient.scale.toNat
      else (quotient.digits, quotient.scale.toNat), ?_, ?_⟩
    · split
      · exact trimQuotient_trimmed _ _
      · exact .refl _ _
    · rw [div?, if_neg hdivisor, if_neg hdividend, hscales, hdivide]
  have hplaces := hnearest.scale_le
  have hbound : trimmed.1 < limit := by
    refine Nat.lt_of_le_of_lt ?_ hnearest.digits_lt
    rw [hdigits]
    exact Nat.le_mul_of_pos_right _ (tenTo_pos count)
  have hmost : trimmed.2 ≤ quotientPlaces d.scale := by omega
  have hscale_le : trimmed.2 ≤ 56 := by
    have hall : quotientPlaces d.scale ≤ 56 := Nat.max_le.mpr ⟨by decide, d.scale_le⟩
    omega
  refine ⟨⟨(d.negative != divisor.negative) && trimmed.1 != 0, trimmed.1, trimmed.2, hbound,
    hscale_le⟩, ?_, rfl, hmost, ?_⟩
  · rw [hresult, make?, dif_pos hbound, dif_pos hscale_le]
  · have hsplit : quotientPlaces d.scale - trimmed.2 =
        count + (quotientPlaces d.scale - quotient.scale.toNat) := by omega
    simp only
    rw [← hnearest.digits_eq, hsplit, tenTo_add, ← Nat.mul_assoc, ← hdigits]

/-- The quotient of a decimal by ten to a power is the nearest number with the most decimals that a
    quotient has. A quotient of zero has no sign. -/
theorem div?_tenTo {d factor : Decimal} {shift : Nat} (hsign : factor.negative = false)
    (hfactor : factor.coefficient = tenTo shift) (hscale : factor.scale = 0) :
    ∃ w, d.div? factor = some w ∧ w.negative = (d.negative && w.coefficient != 0) ∧
      w.scale ≤ quotientPlaces d.scale ∧
      w.coefficient * tenTo (quotientPlaces d.scale - w.scale) =
        roundQuotient .nearestEven false
          (d.coefficient * tenTo (quotientPlaces d.scale - d.scale)) (tenTo shift) := by
  have hnearest := div?_nearest (d := d) hscale (hfactor ▸ tenTo_pos shift)
    (hfactor ▸ Roomy.tenTo d.coefficient_lt)
  simpa only [hsign, hfactor, Bool.bne_false] using hnearest

/-- Where the quotient has no more than 28 decimals, it is the exact one. -/
theorem div?_tenTo_exact {d factor : Decimal} {shift : Nat} (hsign : factor.negative = false)
    (hfactor : factor.coefficient = tenTo shift) (hscale : factor.scale = 0)
    (hpos : 0 < d.coefficient) (hplaces : d.scale + shift ≤ maxScale) :
    ∃ w, d.div? factor = some w ∧ w.negative = d.negative ∧
      w.coefficient * tenTo (d.scale + shift) = d.coefficient * tenTo w.scale := by
  obtain ⟨w, hdiv, hnegative, hmost, hdigits⟩ := div?_tenTo hsign hfactor hscale
  have hall : quotientPlaces d.scale = maxScale := Nat.max_eq_left (by omega)
  have hsplit : maxScale - d.scale = (maxScale - (d.scale + shift)) + shift := by omega
  rw [hall, hsplit, tenTo_add, ← Nat.mul_assoc, roundQuotient_exact _ _ _ (tenTo_pos shift)]
    at hdigits
  have hexact : w.coefficient * tenTo (d.scale + shift) = d.coefficient * tenTo w.scale := by
    apply Nat.eq_of_mul_eq_mul_right (tenTo_pos (maxScale - w.scale))
    have hleft : maxScale - (d.scale + shift) + (d.scale + shift) =
        w.scale + (maxScale - w.scale) := by omega
    rw [Nat.mul_right_comm, hdigits, Nat.mul_assoc, ← tenTo_add, hleft, tenTo_add, Nat.mul_assoc]
  refine ⟨w, hdiv, ?_, hexact⟩
  have hnonzero : w.coefficient ≠ 0 := by
    intro hzero
    rw [hzero, Nat.zero_mul] at hexact
    exact Nat.ne_of_lt (Nat.mul_pos hpos (tenTo_pos w.scale)) hexact
  rw [hnegative, bne_iff_ne.mpr hnonzero, Bool.and_true]

end Decimal
end Formula

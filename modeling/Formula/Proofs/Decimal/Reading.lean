-- SUMMARY: The text of a decimal is read back as the decimal, rounded to 28 decimals if it has more.
import Formula.Decimal.Rounding
import Formula.Proofs.Decimal.Numeral
import Formula.Proofs.Text.Letter

/-!
# Reading back a decimal

A decimal has up to 56 decimals, but no more than 28 of them are read. The first digit that is left
out rounds the digits before it up from five on, whatever comes after it, and this is how the value
is rounded half away from zero (`roundQuotient_nearestAway`).
-/

namespace Formula

/-! ## Rounding at a digit -/

theorem digit_le {c : Char} (h : c.isDigit = true) : c.toNat - '0'.toNat ≤ 9 := by
  have hrange := Text.toNat_of_isDigit h
  change c.toNat - 48 ≤ 9
  omega

/-- The number of some digits is below that of a one with as many zeros. -/
theorem ofDigitChars_lt {digits : List Char} (h : ∀ c ∈ digits, c.isDigit = true) :
    Nat.ofDigitChars 10 digits 0 < tenTo digits.length := by
  induction digits with
  | nil => exact Nat.one_pos
  | cons c rest ih =>
    obtain ⟨hfirst, hrest⟩ := List.forall_mem_cons.mp h
    have hfront := Nat.mul_le_mul_left (tenTo rest.length) (digit_le hfirst)
    have hbehind := ih hrest
    rw [Nat.ofDigitChars_cons, Nat.mul_zero, Nat.zero_add, Nat.ofDigitChars_eq_ofDigitChars_zero,
      List.length_cons, tenTo_succ]
    change tenTo rest.length * _ + _ < tenTo rest.length * 10
    omega

/-- The first digit that is dropped decides whether the digits before it are rounded up. -/
theorem roundQuotient_nearestAway (negative : Bool) (front digit : Nat) {behind places : Nat}
    (hdigit : digit ≤ 9) (hbehind : behind < tenTo places) :
    roundQuotient .nearestAway negative
      (tenTo (places + 1) * front + (tenTo places * digit + behind)) (tenTo (places + 1)) =
        if 5 ≤ digit then front + 1 else front := by
  have hsucc : tenTo (places + 1) = tenTo places * 10 := tenTo_succ places
  have hmost := Nat.mul_le_mul_left (tenTo places) hdigit
  have hless : tenTo places * digit + behind < tenTo (places + 1) := by omega
  have hquotient : (tenTo (places + 1) * front + (tenTo places * digit + behind)) /
      tenTo (places + 1) = front := by
    rw [Nat.mul_add_div (tenTo_pos _), Nat.div_eq_of_lt hless, Nat.add_zero]
  have hremainder : (tenTo (places + 1) * front + (tenTo places * digit + behind)) %
      tenTo (places + 1) = tenTo places * digit + behind := by
    rw [Nat.mul_add_mod, Nat.mod_eq_of_lt hless]
  have hhalf : tenTo (places + 1) ≤ 2 * (tenTo places * digit + behind) ↔ 5 ≤ digit := by
    constructor
    · intro h
      refine Nat.le_of_not_lt fun hsmall => ?_
      have hfour := Nat.mul_le_mul_left (tenTo places) (Nat.le_of_lt_succ hsmall)
      omega
    · intro h
      have hfive := Nat.mul_le_mul_left (tenTo places) h
      omega
  simp only [roundQuotient, RoundingMode.roundsUp, hquotient, hremainder, hhalf, decide_eq_true_eq]

/-! ## Numerals with more decimals than are read -/

namespace Numeral

variable {numeral : Numeral} {places : Nat}

/-- The numeral up to a decimal. -/
def upTo (numeral : Numeral) (places : Nat) : Numeral where
  whole := numeral.whole
  decimals := numeral.decimals.take places
  isDigit c hc := by
    refine numeral.isDigit c ?_
    rcases List.mem_append.mp hc with hwhole | hdecimals
    · exact List.mem_append_left _ hwhole
    · exact List.mem_append_right _ (List.mem_of_mem_take hdecimals)
  whole_ne_nil := numeral.whole_ne_nil

theorem scale_upTo (h : places ≤ numeral.scale) : (numeral.upTo places).scale = places :=
  List.length_take_of_le h

theorem text_upTo (hplaces : 0 < places) (h : places < numeral.scale) :
    numeral.text = (numeral.upTo places).text ++ numeral.decimals.drop places := by
  have hdecimals : numeral.decimals.isEmpty = false := by
    rw [List.isEmpty_eq_false_iff]
    exact List.ne_nil_of_length_pos (Nat.lt_of_le_of_lt (Nat.zero_le places) h)
  have hread : (numeral.decimals.take places).isEmpty = false := by
    rw [List.isEmpty_eq_false_iff]
    exact List.ne_nil_of_length_pos (Nat.lt_of_lt_of_eq hplaces (scale_upTo (Nat.le_of_lt h)).symm)
  simp only [text, upTo, hdecimals, hread, Bool.false_eq_true, if_false, List.append_assoc,
    List.cons_append, List.take_append_drop]

theorem coefficient_upTo (numeral : Numeral) (places : Nat) :
    numeral.coefficient = tenTo (numeral.decimals.drop places).length *
      (numeral.upTo places).coefficient + Nat.ofDigitChars 10 (numeral.decimals.drop places) 0 := by
  have hall : numeral.whole ++ numeral.decimals =
      (numeral.whole ++ numeral.decimals.take places) ++ numeral.decimals.drop places := by
    rw [List.append_assoc, List.take_append_drop]
  rw [coefficient, hall, Nat.ofDigitChars_append, Nat.ofDigitChars_eq_ofDigitChars_zero]
  rfl

end Numeral

namespace Decimal

namespace Reading

/-- Once the digits are full, the rest is only checked. -/
theorem foldlM_full {digits : List Char} (hdigits : ∀ c ∈ digits, c.isDigit = true) {r : Reading}
    (hfull : r.isFull = true) : digits.foldlM step r = some r := by
  induction digits with
  | nil => rfl
  | cons c rest ih =>
    obtain ⟨hfirst, hrest⟩ := List.forall_mem_cons.mp hdigits
    have hstep : r.step c = some r := by
      rw [step, digitValue?_of_isDigit hfirst]
      exact if_pos hfull
    rw [List.foldlM_cons, hstep]
    exact ih hrest

/-- Of more decimals than there is room for, the first one that is left out rounds the others. -/
theorem foldlM_excess {numeral : Numeral} (negative : Bool) (hroom : numeral.coefficient < limit)
    (hscale : maxScale < numeral.scale) :
    numeral.text.foldlM step start = some
      ⟨roundQuotient .nearestAway negative numeral.coefficient (tenTo (numeral.scale - maxScale)),
        maxScale, true, true, true⟩ := by
  obtain ⟨digit, behind, hrest⟩ :
      ∃ digit behind, numeral.decimals.drop maxScale = digit :: behind :=
    List.exists_cons_of_ne_nil (by rwa [ne_eq, List.drop_eq_nil_iff, Nat.not_le])
  have hdigits : ∀ c ∈ digit :: behind, c.isDigit = true := fun c hc =>
    numeral.isDigit_decimals c (List.mem_of_mem_drop (hrest ▸ hc))
  obtain ⟨hfirst, hbehind⟩ := List.forall_mem_cons.mp hdigits
  have hlength : numeral.scale - maxScale = behind.length + 1 := by
    rw [Numeral.scale, ← List.length_drop, hrest, List.length_cons]
  have hcoefficient : numeral.coefficient =
      tenTo (behind.length + 1) * (numeral.upTo maxScale).coefficient +
        (tenTo behind.length * (digit.toNat - '0'.toNat) + Nat.ofDigitChars 10 behind 0) := by
    rw [numeral.coefficient_upTo maxScale, hrest, Nat.ofDigitChars_cons, Nat.mul_zero,
      Nat.zero_add, List.length_cons, Nat.ofDigitChars_eq_ofDigitChars_zero]
    rfl
  -- Without the decimals that are left out there is room to round up.
  have hmore : (numeral.upTo maxScale).coefficient + 1 < limit := by
    have hone : 1 < limit := by decide
    have hten : 10 * (numeral.upTo maxScale).coefficient ≤
        tenTo (behind.length + 1) * (numeral.upTo maxScale).coefficient :=
      Nat.mul_le_mul_right _ (tenTo_le_tenTo (Nat.le_add_left 1 behind.length))
    omega
  have hread := foldlM_numeral (Nat.lt_of_succ_lt hmore)
    (Nat.le_of_eq (Numeral.scale_upTo (Nat.le_of_lt hscale)))
  have hpoint : (numeral.upTo maxScale).decimals.isEmpty = false := by
    rw [List.isEmpty_eq_false_iff]
    refine List.ne_nil_of_length_pos ?_
    rw [← Numeral.scale, Numeral.scale_upTo (Nat.le_of_lt hscale)]
    decide
  have hstep : step ⟨(numeral.upTo maxScale).coefficient, maxScale, true, true, false⟩ digit =
      some ⟨if 5 ≤ digit.toNat - '0'.toNat then (numeral.upTo maxScale).coefficient + 1
        else (numeral.upTo maxScale).coefficient, maxScale, true, true, true⟩ := by
    simp only [step, digitValue?_of_isDigit hfirst, Reading.digit, Nat.lt_irrefl, and_false,
      Bool.false_eq_true, if_false, if_true, roundOff]
    rw [if_pos (by split <;> omega)]
  rw [Numeral.text_upTo (by decide) hscale, List.foldlM_append, hread, hpoint, hrest,
    Numeral.scale_upTo (Nat.le_of_lt hscale), hlength, hcoefficient,
    roundQuotient_nearestAway negative _ _ (digit_le hfirst) (ofDigitChars_lt hbehind)]
  simp only [Option.bind_eq_bind, Option.bind_some, List.foldlM_cons, Bool.not_false, hstep]
  exact foldlM_full hbehind rfl

end Reading

/-! ## Reading back -/

/-- The decimal without the sign of a zero. -/
def unsignedZero (d : Decimal) : Decimal := { d with negative := d.negative && !d.isZero }

theorem units_unsignedZero (d : Decimal) : d.unsignedZero.units = d.units := by
  have hsigned : d.unsignedZero.signed = d.signed := by
    cases hzero : d.isZero with
    | true =>
      have hcoefficient : d.coefficient = 0 := eq_of_beq hzero
      simp [signed, unsignedZero, hcoefficient]
    | false => simp [signed, unsignedZero, hzero]
  rw [units, hsigned]
  rfl

theorem make?_unsignedZero (d : Decimal) :
    make? (d.negative && d.coefficient != 0) d.coefficient d.scale = some d.unsignedZero := by
  rw [make?, dif_pos d.coefficient_lt, dif_pos d.scale_le]
  rfl

/-- A decimal is read back from its text, rounded to the decimals that are read. -/
theorem read_text (d : Decimal) :
    read d.text.toList = some (d.roundTo maxScale .nearestAway).unsignedZero := by
  have hscale := Numeral.scale_ofParts d.coefficient d.scale
  have hcoefficient := Numeral.coefficient_ofParts d.coefficient d.scale
  have hroom : (Numeral.ofParts d.coefficient d.scale).coefficient < limit := by
    rw [hcoefficient]
    exact d.coefficient_lt
  rw [toList_text]
  by_cases hexcess : maxScale < d.scale
  · have hfold := Reading.foldlM_excess d.negative hroom (by rwa [hscale])
    rw [hcoefficient, hscale] at hfold
    rw [read_sign, readUnsigned, hfold, ← make?_unsignedZero]
    simp only [roundTo, dif_pos hexcess, if_true]
    congr 1
    generalize roundQuotient _ _ _ _ = rounded
    cases hzero : rounded != 0 <;> simp
  · rw [read_signed d.negative hroom (by omega), hcoefficient, hscale, make?_unsignedZero, roundTo,
      dif_neg hexcess]

end Decimal
end Formula

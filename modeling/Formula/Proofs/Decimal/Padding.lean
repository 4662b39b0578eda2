-- SUMMARY: Finishing a number a second time changes nothing if its decimals are set, since zeros are appended until there is room for no more.
import Formula.Configuration
import Formula.Proofs.Decimal.Value

/-!
# Numbers padded to their places

Where a number of decimals is set and zeros are kept, zeros are appended up to that number or as far
as there is room (`Decimal.Padded`). How far that is follows from the value: two padded numbers of
one value are written alike (`Padded.unique`). Finishing a number a second time keeps its value, so
it also keeps the way the number is written, unless no decimals are set and the zeros stay as they
come (`Settings.finishNumber_settled`).
-/

namespace Formula
namespace Decimal

variable {a b d : Decimal} {places : Nat}

theorem isZero_congr (h : a.value = b.value) : a.isZero = b.isZero := by
  rw [Bool.eq_iff_iff, isZero_iff, isZero_iff, h]

/-! ## Padded numbers -/

/-- The number has no more decimals than `places`, and there is no room for another one if it has
    fewer. -/
structure Padded (places : Nat) (d : Decimal) : Prop where
  scale_le_places : d.scale ≤ places
  full : d.scale = places ∨ limit ≤ d.coefficient * 10 ∨ d.scale = maxPaddedScale

theorem appendZeros_padded (count : Nat) (hplaces : d.scale + count = places) :
    (d.appendZeros count).Padded places := by
  induction count generalizing d with
  | zero => exact ⟨Nat.le_of_eq hplaces, .inl hplaces⟩
  | succ count ih =>
    rw [appendZeros]
    split
    · exact ih (by simp only; omega)
    · rename_i hstop
      have hscale : d.scale ≤ maxPaddedScale := d.scale_le
      refine ⟨by omega, .inr ?_⟩
      rcases Nat.lt_or_ge (d.coefficient * 10) limit with hroom | hfull
      · have hlast : ¬ d.scale + 1 ≤ maxPaddedScale := fun hlast => hstop ⟨hroom, hlast⟩
        exact .inr (by omega)
      · exact .inl hfull

theorem padTo_padded (hzero : d.isZero = false) (hscale : d.scale ≤ places) :
    (d.padTo places).Padded places := by
  unfold padTo
  split
  · rename_i hplaces
    exact ⟨hscale, .inl (Nat.le_antisymm hscale hplaces)⟩
  · rw [if_neg (by simp [hzero])]
    exact appendZeros_padded _ (by omega)

namespace Padded

/-- Of two padded numbers with the same value neither has more decimals. -/
theorem scale_le_scale (ha : a.Padded places) (hb : b.Padded places) (h : a.value = b.value) :
    b.scale ≤ a.scale := by
  by_contra hmore
  have hless : a.scale < b.scale := Nat.lt_of_not_le hmore
  have hroom : a.coefficient * 10 < limit :=
    calc a.coefficient * tenTo 1 ≤ a.coefficient * tenTo (b.scale - a.scale) :=
          Nat.mul_le_mul_left _ (tenTo_le_tenTo (by omega))
      _ = b.coefficient := (coefficient_eq_of_value (Nat.le_of_lt hless) h).symm
      _ < limit := b.coefficient_lt
  have hmost : b.scale ≤ maxPaddedScale := b.scale_le
  have hplaces := hb.scale_le_places
  rcases ha.full with hfull | hfull | hfull <;> omega

/-- A padded number is the only one with its value. -/
theorem unique (ha : a.Padded places) (hb : b.Padded places) (hzero : a.isZero = false)
    (h : a.value = b.value) : a = b := by
  have hscale : a.scale = b.scale :=
    Nat.le_antisymm (hb.scale_le_scale ha h.symm) (ha.scale_le_scale hb h)
  have hcoefficient : b.coefficient = a.coefficient := by
    rw [coefficient_eq_of_value (Nat.le_of_eq hscale) h, hscale, Nat.sub_self]
    exact Nat.mul_one _
  have hnegative : a.negative = b.negative := by
    have hpos : (0 : ℚ) < (a.coefficient : ℚ) / 10 ^ a.scale := by
      have hnonzero : a.coefficient ≠ 0 := by simpa [isZero] using hzero
      positivity
    have hsigns := h
    rw [value_eq, value_eq, hcoefficient, ← hscale] at hsigns
    cases hleft : a.negative <;> cases hright : b.negative <;>
      simp only [hleft, hright, withSign, if_true, if_false, Bool.false_eq_true] at hsigns ⊢
    all_goals linarith
  obtain ⟨_, _, _, _, _⟩ := a
  obtain ⟨_, _, _, _, _⟩ := b
  simp only at hscale hcoefficient hnegative
  simp only [hscale, hcoefficient, hnegative]

/-- There are as many decimals as asked for if a coefficient has room for them. -/
theorem scale_eq (h : d.Padded places) (hplaces : places ≤ maxScale)
    (hroom : |d.value| * 10 ^ places < limit) : d.scale = places := by
  by_contra hscale
  have hless : d.scale < places := Nat.lt_of_le_of_ne h.scale_le_places hscale
  have hcoefficient : d.coefficient * 10 < limit := by
    have hshift : |d.value| * 10 ^ places = d.coefficient * 10 ^ (places - d.scale) := by
      have hsplit : places = (places - d.scale) + d.scale := by omega
      rw [abs_value]
      conv_lhs => rw [hsplit, pow_add]
      field_simp
    rw [hshift, ← cast_tenTo] at hroom
    calc d.coefficient * tenTo 1 ≤ d.coefficient * tenTo (places - d.scale) :=
          Nat.mul_le_mul_left _ (tenTo_le_tenTo (by omega))
      _ < limit := by exact_mod_cast hroom
  have hmost : maxScale < maxPaddedScale := by decide
  rcases h.full with hfull | hfull | hfull <;> omega

end Padded

/-! ## Zeros -/

theorem isZero_padTo : (d.padTo places).isZero = d.isZero :=
  isZero_congr (value_padTo d places)

theorem padTo_of_zero (hzero : d.isZero = true) :
    d.padTo places = if places ≤ d.scale then d else d.zeroAt places := by
  rw [padTo, if_pos hzero]

/-- A padded zero has the decimals that are asked for, or as many as a zero can have. -/
theorem padTo_scale_of_zero (hzero : d.isZero = true) (hscale : d.scale ≤ places) :
    (d.padTo places).scale = places ∨ (d.padTo places).scale = min places maxScale := by
  rw [padTo_of_zero hzero]
  split
  · exact .inl (Nat.le_antisymm hscale ‹_›)
  · exact .inr rfl

/-- Padding a zero again changes nothing. -/
theorem padTo_padTo_of_zero (hzero : d.isZero = true) :
    (d.padTo places).padTo places = d.padTo places := by
  rw [padTo_of_zero (isZero_padTo.trans hzero), padTo_of_zero hzero]
  by_cases hplaces : places ≤ d.scale
  · simp only [if_pos hplaces]
  · simp only [if_neg hplaces]
    split <;> rfl

end Decimal

/-! ## Finished numbers -/

namespace Settings

variable {settings : Settings} {places : Nat}

section Places

variable (hplaces : settings.decimalPlaces = some places)
  (hstrip : settings.stripTrailingZeros = false) (n : Decimal)
include hplaces hstrip

/-- A finished number is a padded number without more decimals than asked for. -/
theorem finishNumber_eq_padTo :
    ∃ rounded : Decimal, rounded.scale ≤ places ∧ settings.finishNumber n = rounded.padTo places :=
  ⟨(settings.precision.round n).roundTo places settings.precision.rounding,
    Decimal.roundTo_scale_le _ _ _, by simp [finishNumber, normalize, hplaces, hstrip]⟩

theorem finishNumber_padded (hzero : (settings.finishNumber n).isZero = false) :
    (settings.finishNumber n).Padded places := by
  obtain ⟨rounded, hscale, hfinish⟩ := finishNumber_eq_padTo hplaces hstrip n
  rw [hfinish, Decimal.isZero_padTo] at hzero
  exact hfinish ▸ Decimal.padTo_padded hzero hscale

theorem finishNumber_of_zero (hzero : n.isZero = true) (hscale : n.scale ≤ places) :
    settings.finishNumber n = n.padTo places := by
  have hround : settings.precision.round n = n := by
    simp [Precision.round, Decimal.roundSignificant, hzero]
  simp only [finishNumber, normalize, hplaces, hstrip, hround, Decimal.roundTo_of_le _ hscale,
    Bool.false_eq_true, if_false]

/-- Finishing a number a second time changes nothing where the number of decimals is set. -/
theorem finishNumber_of_places :
    settings.finishNumber (settings.finishNumber n) = settings.finishNumber n := by
  have hvalue : (settings.finishNumber (settings.finishNumber n)).value =
      (settings.finishNumber n).value := value_finishNumber_finishNumber n
  cases hzero : (settings.finishNumber n).isZero with
  | true =>
    obtain ⟨rounded, hscale, hfinish⟩ := finishNumber_eq_padTo hplaces hstrip n
    have hrounded : rounded.isZero = true := by rwa [hfinish, Decimal.isZero_padTo] at hzero
    have hsmall : (settings.finishNumber n).scale ≤ places := by
      rcases hfinish ▸ Decimal.padTo_scale_of_zero hrounded hscale with h | h <;> omega
    rw [finishNumber_of_zero hplaces hstrip _ hzero hsmall, hfinish,
      Decimal.padTo_padTo_of_zero hrounded]
  | false =>
    have hzero' : (settings.finishNumber (settings.finishNumber n)).isZero = false :=
      (Decimal.isZero_congr hvalue).trans hzero
    exact (finishNumber_padded hplaces hstrip _ hzero').unique
      (finishNumber_padded hplaces hstrip n hzero) hzero' hvalue

/-- A finished number has all the decimals that are set, if there is room for them. -/
theorem finishNumber_scale (hmost : places ≤ Decimal.maxScale)
    (hroom : |(settings.finishNumber n).value| * 10 ^ places < Decimal.limit) :
    (settings.finishNumber n).scale = places := by
  cases hzero : (settings.finishNumber n).isZero with
  | true =>
    obtain ⟨rounded, hscale, hfinish⟩ := finishNumber_eq_padTo hplaces hstrip n
    have hrounded : rounded.isZero = true := by rwa [hfinish, Decimal.isZero_padTo] at hzero
    rcases hfinish ▸ Decimal.padTo_scale_of_zero hrounded hscale with h | h
    · exact h
    · exact h.trans (Nat.min_eq_left hmost)
  | false => exact (finishNumber_padded hplaces hstrip n hzero).scale_eq hmost hroom

end Places

/-- Finishing a number a second time keeps its value. It changes nothing at all if zeros are removed
    or the number of decimals is set. With zeros kept, a finished number has the decimals that are
    set wherever there is room for them. -/
theorem finishNumber_settled (settings : Settings) (n : Decimal) :
    (settings.finishNumber (settings.finishNumber n)).same (settings.finishNumber n) = true ∧
    (settings.stripTrailingZeros = true ∨ settings.decimalPlaces.isSome = true →
      settings.finishNumber (settings.finishNumber n) = settings.finishNumber n) ∧
    (∀ places, settings.decimalPlaces = some places → places ≤ Decimal.maxScale →
      settings.stripTrailingZeros = false →
      |(settings.finishNumber n).value| * 10 ^ places < Decimal.limit →
      (settings.finishNumber n).scale = places) := by
  refine ⟨Decimal.same_iff.mpr (value_finishNumber_finishNumber n), fun hform => ?_,
    fun places hplaces hmost hstrip => finishNumber_scale hplaces hstrip n hmost⟩
  cases hstrip : settings.stripTrailingZeros with
  | true => exact finishNumber_finishNumber hstrip n
  | false =>
    have hsome := hform.resolve_left (by simp [hstrip])
    obtain ⟨places, hplaces⟩ := Option.isSome_iff_exists.mp hsome
    exact finishNumber_of_places hplaces hstrip n

/-- Nine digits carry into the whole part, and three zeros are appended. -/
theorem finishNumber_settled_carried :
    let settings : Settings := { Settings.standard with
      precision := ⟨7, .awayFromZero⟩, decimalPlaces := some 3, stripTrailingZeros := false }
    let n : Decimal := ⟨true, 99999999123, 8, by decide, by decide⟩
    (settings.stripTrailingZeros = false ∧ settings.decimalPlaces = some 3 ∧
      |(settings.finishNumber n).value| * 10 ^ 3 < Decimal.limit) ∧
    settings.finishNumber n = ⟨true, 1000000, 3, by decide, by decide⟩ ∧
    settings.finishNumber (settings.finishNumber n) = settings.finishNumber n ∧
    (settings.finishNumber n).scale = 3 := by
  intro settings n
  have hfinish : settings.finishNumber n = ⟨true, 1000000, 3, by decide, by decide⟩ := by
    decide +kernel
  have hroom : |(settings.finishNumber n).value| * 10 ^ 3 < Decimal.limit := by
    rw [hfinish, Decimal.value_eq, Decimal.abs_withSign]
    norm_num
  obtain ⟨_, hagain, hscale⟩ := finishNumber_settled settings n
  exact ⟨⟨rfl, rfl, hroom⟩, hfinish, hagain (.inr rfl), hscale 3 rfl (by decide) rfl hroom⟩

end Settings
end Formula

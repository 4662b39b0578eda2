-- SUMMARY: The date of a day is a valid date, and the number of its day is that day.
import Formula.Calendar.Date

/-!
# Days and dates

The years follow each other without gaps (`yearStart_succ`), and the estimate of the year of a day
is at most one off, so each day lies in its year (`yearOf_spec`). Within a year the months follow
each other in the same way: a day of the year is split into whole months and the days after them
(`splitMonths_spec`).
-/

namespace Formula
namespace CivilDate

/-! ## Years -/

/-- The next year begins when a year is over. -/
theorem yearStart_succ (year : Int) : yearStart (year + 1) = yearStart year + daysInYear year := by
  unfold daysInYear isLeapYear
  simp only [yearStart, daysBeforeYear, epochDays]
  split
  · rename_i h
    simp at h
    omega
  · rename_i h
    simp at h
    omega

/-- The year that is estimated from the mean length is at most one off. -/
theorem estimate_bounds (day : Int) :
    yearStart ((day + epochDays) * 400 / 146097) ≤ day ∧
      day < yearStart ((day + epochDays) * 400 / 146097 + 1 + 1 + 1) := by
  simp only [yearStart, daysBeforeYear, epochDays]
  omega

/-- A day lies in its year. -/
theorem yearOf_spec (day : Int) :
    yearStart (yearOf day) ≤ day ∧ day < yearStart (yearOf day + 1) := by
  obtain ⟨hlow, hhigh⟩ := estimate_bounds day
  unfold yearOf
  generalize (day + epochDays) * 400 / 146097 = estimate at hlow hhigh
  by_cases hbefore : day < yearStart (estimate + 1)
  · simp only [if_pos hbefore, Int.add_sub_cancel]
    exact ⟨hlow, hbefore⟩
  · simp only [if_neg hbefore]
    by_cases hafter : yearStart (estimate + 1 + 1) ≤ day
    · rw [if_pos hafter]
      exact ⟨hafter, hhigh⟩
    · rw [if_neg hafter]
      omega

/-! ## Months -/

/-- What is left of the days behind whole months lies within the next month. -/
theorem splitMonths_spec {lengths : List Nat} {days : Nat} (h : days < lengths.foldr (· + ·) 0) :
    ∃ length, lengths[(splitMonths lengths days).1]? = some length ∧
      (splitMonths lengths days).2 < length ∧
      (lengths.take (splitMonths lengths days).1).foldr (· + ·) (splitMonths lengths days).2 =
        days := by
  induction lengths generalizing days with
  | nil => exact absurd h (Nat.not_lt_zero days)
  | cons first rest ih =>
    rw [splitMonths]
    split
    · rename_i hfirst
      exact ⟨first, rfl, hfirst, rfl⟩
    · rename_i hfirst
      rw [List.foldr_cons] at h
      obtain ⟨length, hlength, hless, hsum⟩ := @ih (days - first) (by omega)
      refine ⟨length, hlength, hless, ?_⟩
      simp only [List.take_succ_cons, List.foldr_cons]
      omega

/-- The months make up the year. -/
theorem foldr_monthLengths (year : Int) :
    (monthLengths (isLeapYear year)).foldr (· + ·) 0 = daysInYear year := by
  unfold daysInYear
  cases isLeapYear year <;> rfl

theorem length_monthLengths (leap : Bool) : (monthLengths leap).length = 12 := rfl

theorem le_of_mem_monthLengths {leap : Bool} : ∀ length ∈ monthLengths leap, length ≤ 31 := by
  cases leap <;> decide

/-- A day of a year is on a valid date of that year. -/
theorem ofOrdinal_spec {year : Int} {ordinal : Nat} (h : ordinal < daysInYear year) :
    (ofOrdinal year ordinal).month ≤ 12 ∧ (ofOrdinal year ordinal).day ≤ 31 ∧
      (ofOrdinal year ordinal).isValid = true ∧ (ofOrdinal year ordinal).ordinal = ordinal := by
  rw [← foldr_monthLengths] at h
  obtain ⟨length, hlength, hless, hsum⟩ := splitMonths_spec h
  have hmonth := (List.getElem?_eq_some_iff.mp hlength).1
  have hmost := le_of_mem_monthLengths length (List.mem_of_getElem? hlength)
  rw [length_monthLengths] at hmonth
  refine ⟨hmonth, Nat.le_trans hless hmost, ?_, ?_⟩
  · have hdays : daysInMonth year ((splitMonths (monthLengths (isLeapYear year)) ordinal).1 + 1) =
        length := by
      rw [daysInMonth, if_neg (Nat.succ_ne_zero _), Nat.add_sub_cancel,
        List.getD_eq_getElem?_getD, hlength]
      rfl
    rw [← hdays] at hless
    exact Bool.and_eq_true_iff.mpr ⟨decide_eq_true (Nat.le_add_left 1 _), decide_eq_true hless⟩
  · simpa only [CivilDate.ordinal, ofOrdinal, Nat.add_sub_cancel] using hsum

/-- The date of a day is valid, and the number of its day is that day. -/
theorem ofDayNumber_spec (day : Int) :
    (ofDayNumber day).month ≤ 12 ∧ (ofDayNumber day).day ≤ 31 ∧
      (ofDayNumber day).isValid = true ∧ (ofDayNumber day).dayNumber = day := by
  obtain ⟨hlow, hhigh⟩ := yearOf_spec day
  rw [yearStart_succ] at hhigh
  obtain ⟨hmonth, hday, hvalid, hordinal⟩ :=
    @ofOrdinal_spec (yearOf day) (day - yearStart (yearOf day)).toNat (by omega)
  refine ⟨hmonth, hday, hvalid, ?_⟩
  rw [dayNumber, ofDayNumber, hordinal]
  change yearStart (yearOf day) + _ = day
  omega

end CivilDate
end Formula

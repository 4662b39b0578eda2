-- SUMMARY: An instant of a year with four digits is read back from its text in any zone of whole minutes, with its nanoseconds.
import Formula.Calendar.Rfc3339
import Formula.Proofs.Calendar.Date
import Formula.Proofs.Decimal.Numeral

/-!
# Reading back RFC 3339

Each part of the text is read back by the reader of that part, whatever follows it: a number of a
fixed width (`readDigits_padded`), a fraction in front of something that is no digit
(`readFraction_padded`), a date, a time of day and the offset (`readOffset_offsetText`). A leap
second, a year with a sign and an offset with seconds are not read as they are written, so these are
left out.
-/

namespace Formula
namespace Rfc3339

variable {rest : List Char}

/-! ## Numbers -/

theorem isDigit_padded {width n : Nat} : ∀ c ∈ padded width n, c.isDigit = true :=
  Numeral.isDigit_zeros

theorem length_padded {width n : Nat} (hwidth : 0 < width) (h : n < tenTo width) :
    (padded width n).length = width := by
  have hlength := (Nat.length_toDigits_le_iff (by decide) hwidth).mpr h
  rw [padded, List.length_append, List.length_replicate]
  omega

theorem digitsValue_padded (width n : Nat) : digitsValue (padded width n) = n :=
  Numeral.ofDigitChars_zeros _ n

theorem readDigits_padded {width n : Nat} (hwidth : 0 < width) (h : n < tenTo width) :
    readDigits width (padded width n ++ rest) = some (n, rest) := by
  have hlength := length_padded hwidth h
  have hall : (padded width n).all Char.isDigit = true := List.all_eq_true.mpr isDigit_padded
  unfold readDigits
  rw [List.take_left' hlength, List.drop_left' hlength]
  simp only [hlength, hall, digitsValue_padded, decide_true, Bool.and_self, if_true]

theorem readDigits_two {n : Nat} (h : n < 100) :
    readDigits 2 (padded 2 n ++ rest) = some (n, rest) :=
  readDigits_padded (by decide) h

/-- The digits of a fraction count from the point on. -/
theorem readFraction_padded {width n : Nat} (hwidth : 0 < width) (hnine : width ≤ 9)
    (h : n < tenTo width) (hrest : Text.Breaks Char.isDigit rest) :
    readFraction (padded width n ++ rest) = some (n * tenTo (9 - width), rest) := by
  have hlength := length_padded hwidth h
  have hempty : (padded width n).isEmpty = false := by
    rw [List.isEmpty_eq_false_iff]
    exact List.ne_nil_of_length_pos (by omega)
  unfold readFraction
  rw [Text.takeWhile_append isDigit_padded hrest]
  simp only [hempty, List.take_of_length_le (hlength ▸ hnine), digitsValue_padded,
    hlength, List.drop_left' hlength, Bool.false_eq_true, if_false]

theorem readOneOf_cons {allowed : List Char} {c : Char} (h : c ∈ allowed) :
    readOneOf allowed (c :: rest) = some rest := by
  simp [readOneOf, h]

/-! ## Parts -/

theorem readDate_dateText {date : CivilDate} (hvalid : date.isValid = true)
    (hyear : 0 ≤ date.year ∧ date.year ≤ 9999) (hmonth : date.month ≤ 12) (hday : date.day ≤ 31) :
    readDate (dateText date ++ rest) = some (date, rest) := by
  have hnumber : date.year.toNat < 10000 := by omega
  have hdate : (⟨(date.year.toNat : Int), date.month, date.day⟩ : CivilDate) = date := by
    rw [Int.toNat_of_nonneg hyear.1]
  rw [dateText, yearText, if_pos hyear]
  simp only [readDate, List.append_assoc, List.cons_append, Option.bind_eq_bind, Option.bind_some,
    readDigits_padded (by decide : 0 < 4) hnumber, readOneOf_cons (List.mem_singleton.mpr rfl),
    readDigits_two (by omega : date.month < 100), readDigits_two (by omega : date.day < 100), hdate,
    hvalid, if_true]

/-- A fraction is written in the fewest digits that are exact, and each of them counts. -/
theorem readFraction_fractionText {nanos : Nat} (h : nanos < 1000000000)
    (hrest : Text.Breaks Char.isDigit rest) :
    (nanos = 0 ∧ fractionText nanos = []) ∨
      ∃ digits, fractionText nanos = '.' :: digits ∧
        readFraction (digits ++ rest) = some (nanos, rest) := by
  have hunits {width unit : Nat} (hwidth : 0 < width) (hnine : width ≤ 9)
      (hunit : tenTo (9 - width) = unit) (hexact : nanos % unit = 0)
      (hless : nanos / unit < tenTo width) :
      readFraction (padded width (nanos / unit) ++ rest) = some (nanos, rest) := by
    rw [readFraction_padded hwidth hnine hless hrest, hunit,
      Nat.div_mul_cancel (Nat.dvd_of_mod_eq_zero hexact)]
  unfold fractionText
  split
  · rename_i hzero
    exact .inl ⟨hzero, rfl⟩
  · split
    · rename_i hmillis
      have hless : nanos / 1000000 < 1000 := by omega
      exact .inr ⟨_, rfl, hunits (by decide) (by decide) rfl hmillis hless⟩
    · split
      · rename_i hmicros
        have hless : nanos / 1000 < 1000000 := by omega
        exact .inr ⟨_, rfl, hunits (by decide) (by decide) rfl hmicros hless⟩
      · have hone := @hunits 9 1 (by decide) (by decide) rfl (Nat.mod_one nanos)
        rw [Nat.div_one] at hone
        exact .inr ⟨_, rfl, hone h⟩

/-- A character with which the second of a time could go on. -/
def continuesSecond (c : Char) : Bool := c.isDigit || c == '.'

theorem readTime_timeText {time : LocalTime} (hnanos : time.nanos < 1000000000)
    (hrest : Text.Breaks continuesSecond rest) :
    readTime (timeText time ++ rest) = some ((time.secondOfDay, time.nanos), rest) := by
  have hday : time.secondOfDay < 86400 := by
    change (time.seconds % 86400).toNat < 86400
    omega
  have hhour : time.hour < 24 := by
    unfold LocalTime.hour
    omega
  have hminute : time.minute < 60 := Nat.mod_lt _ (by decide)
  have hleap : ¬ nanosPerSecond ≤ time.nanos := Nat.not_le.mpr hnanos
  have hsecond : time.second = time.secondOfDay % 60 := by rw [LocalTime.second, if_neg hleap]; rfl
  have hfraction : time.fraction = time.nanos := if_neg hleap
  have hclock : time.hour * 3600 + time.minute * 60 + time.second = time.secondOfDay := by
    rw [hsecond, LocalTime.hour, LocalTime.minute]
    omega
  have hchecks : ¬ (23 < time.hour ∨ 59 < time.minute ∨ 60 < time.second) := by omega
  have hsixty : ¬ time.second = 60 := by omega
  have hdigit : Text.Breaks Char.isDigit rest :=
    hrest.imp fun _ h => Bool.or_eq_true_iff.mpr (.inl h)
  simp only [timeText, readTime, List.append_assoc, List.cons_append, Option.bind_eq_bind,
    Option.bind_some, readOneOf_cons (List.mem_singleton.mpr rfl),
    readDigits_two (by omega : time.hour < 100), readDigits_two (by omega : time.minute < 100),
    readDigits_two (by omega : time.second < 100), hfraction]
  rcases readFraction_fractionText hnanos hdigit with ⟨hzero, hempty⟩ | ⟨digits, hpoint, hread⟩
  · rw [hempty, List.nil_append]
    split
    · cases hrest '.' rfl
    · simp only [hchecks, hsixty, if_false, hclock, hzero]
  · rw [hpoint]
    simp only [List.cons_append, hread, Option.bind_some, hchecks, hsixty, if_false, hclock]

/-! ## Offsets -/

variable {offset : Int}

/-- What an instant is written with behind its time. -/
def zoneSuffix (offset : Int) : List Char :=
  if offset = 0 then ['Z'] else offsetText offset

/-- An offset of whole minutes, less than a day, is read back. -/
theorem readOffset_offsetText (hminutes : offset % 60 = 0) (hday : offset.natAbs < secondsPerDay) :
    readOffset (offsetText offset ++ rest) = some (offset, rest) := by
  generalize hsize : (offset.natAbs + 30) / 60 = minutes
  have hexact : offset.natAbs = minutes * 60 := by omega
  have hhours : minutes / 60 < 24 := by
    unfold secondsPerDay at hday
    omega
  have hchecks : ¬ (23 < minutes / 60 ∨ 59 < minutes % 60) := by omega
  have hnumber : ((minutes / 60 : Nat) : Int) * 3600 + ((minutes % 60 : Nat) : Int) * 60 =
      offset.natAbs := by omega
  have hclock {sign : Char} {negative : Bool} (hzulu : sign ∉ ['Z', 'z'])
      (hsign : ∀ text, readSign (sign :: text) = some (negative, text)) :
      readOffset (sign :: padded 2 (minutes / 60) ++ ':' :: padded 2 (minutes % 60) ++ rest) =
        some (if negative then -(offset.natAbs : Int) else offset.natAbs, rest) := by
    have hnone (text : List Char) : readOneOf ['Z', 'z'] (sign :: text) = none := by
      simp only [readOneOf, List.contains_eq_mem, hzulu, decide_false, Bool.false_eq_true, if_false]
    simp only [readOffset, List.cons_append, List.append_assoc, hnone, hsign, Option.bind_eq_bind,
      Option.bind_some, readDigits_two (by omega : minutes / 60 < 100),
      readOneOf_cons (List.mem_singleton.mpr rfl), readDigits_two (by omega : minutes % 60 < 100),
      hchecks, if_false, hnumber]
  rw [offsetText, hsize]
  by_cases hnegative : offset < 0
  · rw [if_pos hnegative, hclock (by decide) (fun _ => rfl), if_pos rfl]
    congr 2
    omega
  · rw [if_neg hnegative, hclock (by decide) (fun _ => rfl), if_neg Bool.false_ne_true]
    congr 2
    omega

theorem readOffset_zoneSuffix (hminutes : offset % 60 = 0) (hday : offset.natAbs < secondsPerDay) :
    readOffset (zoneSuffix offset) = some (offset, []) := by
  by_cases hzero : offset = 0
  · subst hzero
    rfl
  · rw [zoneSuffix, if_neg hzero, ← List.append_nil (offsetText offset)]
    exact readOffset_offsetText hminutes hday

/-- A zone does not go on where a time ends. -/
theorem breaks_zoneSuffix : Text.Breaks continuesSecond (zoneSuffix offset) := by
  unfold zoneSuffix offsetText
  split
  · exact Text.breaks_cons rfl
  · split
    · exact Text.breaks_cons rfl
    · exact Text.breaks_cons rfl

/-- A zone ends with a letter or a digit. -/
theorem exists_zoneSuffix_end :
    ∃ front last, zoneSuffix offset = front ++ [last] ∧ (last = 'Z' ∨ last.isDigit = true) := by
  by_cases hzero : offset = 0
  · exact ⟨[], 'Z', if_pos hzero, .inl rfl⟩
  · let digits := padded 2 ((offset.natAbs + 30) / 60 % 60)
    have hless : (offset.natAbs + 30) / 60 % 60 < 100 := by omega
    have hdigits : digits ≠ [] := by
      apply List.ne_nil_of_length_pos
      rw [length_padded (by decide) hless]
      decide
    refine ⟨(if offset < 0 then '-' else '+') :: padded 2 ((offset.natAbs + 30) / 60 / 60) ++
      ':' :: digits.dropLast, digits.getLast hdigits, ?_, .inr ?_⟩
    · rw [zoneSuffix, if_neg hzero, offsetText, List.append_assoc, List.cons_append (a := ':'),
        List.dropLast_concat_getLast hdigits]
    · exact isDigit_padded _ (List.getLast_mem hdigits)

/-! ## Instants -/

/-- A time is the sum of its day and its second of the day. -/
theorem ofDate_date (time : LocalTime) :
    LocalTime.ofDate time.date time.secondOfDay time.nanos = time := by
  obtain ⟨-, -, -, hnumber⟩ := CivilDate.ofDayNumber_spec time.day
  have hseconds : time.date.dayNumber * secondsPerDay + time.secondOfDay = time.seconds := by
    rw [LocalTime.date, hnumber]
    change time.seconds / 86400 * 86400 + ((time.seconds % 86400).toNat : Int) = time.seconds
    omega
  rw [LocalTime.ofDate, hseconds]

/-- An instant is the one at which clocks show its time. -/
theorem toInstant?_toLocal (instant : Instant) (offset : Int) :
    (instant.toLocal offset).toInstant? offset = some instant := by
  simp [LocalTime.toInstant?, Instant.toLocal, Instant.make?, instant.nanos_lt,
    instant.seconds_ge, instant.seconds_le]

theorem toList_textIn (instant : Instant) (offset : Int) :
    (instant.textIn offset).toList = dateText (instant.toLocal offset).date ++
      'T' :: (timeText (instant.toLocal offset) ++ zoneSuffix offset) := by
  rw [Instant.textIn, String.toList_ofList, write, zoneSuffix]
  simp

/-- The text of an instant in a zone of whole minutes is read back, with its nanoseconds. -/
theorem read?_textIn {instant : Instant} (hleap : instant.isLeap = false)
    (hminutes : offset % 60 = 0) (hday : offset.natAbs < secondsPerDay)
    (hyear : 0 ≤ (instant.toLocal offset).date.year ∧
      (instant.toLocal offset).date.year ≤ 9999) :
    read? (instant.textIn offset).toList = some instant := by
  obtain ⟨hmonth, hdayOfMonth, hvalid, -⟩ :=
    CivilDate.ofDayNumber_spec (instant.toLocal offset).day
  have hnanos : (instant.toLocal offset).nanos < 1000000000 :=
    Nat.not_le.mp (of_decide_eq_false hleap)
  have hdate := @readDate_dateText ('T' :: (timeText (instant.toLocal offset) ++ zoneSuffix offset))
    (instant.toLocal offset).date hvalid hyear hmonth hdayOfMonth
  rw [toList_textIn, read?, hdate]
  simp only [Option.bind_eq_bind, Option.bind_some, readOneOf_cons (List.mem_cons_self),
    readTime_timeText hnanos breaks_zoneSuffix, readOffset_zoneSuffix hminutes hday,
    List.isEmpty_nil, if_true]
  rw [ofDate_date, toInstant?_toLocal]

end Rfc3339
end Formula

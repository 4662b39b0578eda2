-- SUMMARY: What a value is read as when its text, or the number of a time, is read back.
import Formula.Proofs.Calendar.Rfc3339
import Formula.Proofs.Decimal.Reading
import Formula.Proofs.Decimal.Value
import Formula.Proofs.Result
import Formula.Proofs.Value.Exchange
import Formula.Session

/-!
# Reading values back

The view of a text as a number, an instant or a condition undoes the canonical text of one, and the
view of a time as a number undoes the view of a whole number of milliseconds as that time. The text
of a number of at most 28 decimals keeps the value and the scale (`Value.reads_back`). A formula can
yield a number of more decimals, where more decimal places are asked for than are read, and the text
of that one does not keep its scale (`Value.reads_back_padded`).
-/

namespace Formula

/-! ## Blanks -/

namespace Text

variable {text : List Char}

theorem trimStart_of_breaks (h : Breaks isBlank text) : trimStart text = text := by
  cases text with
  | nil => rfl
  | cons c rest => exact List.dropWhile_cons_of_neg (by simp [h c rfl])

/-- A text with no blank at either end is not trimmed. -/
theorem trim_of_breaks (hstart : Breaks isBlank text) (hend : Breaks isBlank text.reverse) :
    trim text = text := by
  rw [trim, trimStart_of_breaks hstart, trimStart_of_breaks hend, List.reverse_reverse]

end Text

theorem Decimal.isBlank_of_isNumeric {c : Char} (h : Decimal.isNumeric c = true) :
    Text.isBlank c = false := by
  simp only [Decimal.isNumeric, Bool.or_eq_true, beq_iff_eq] at h
  rcases h with (hdigit | rfl) | rfl
  · exact Text.isBlank_of_isDigit hdigit
  · rfl
  · rfl

/-! ## Numbers -/

namespace Value

/-- The number that the text of a number is read as. -/
theorem toNumber_text (n : Decimal) :
    (text (toText (number n))).toNumber =
      (n.roundTo Decimal.maxScale .nearestAway).unsignedZero := by
  have hvisible : ∀ c ∈ n.text.toList, Text.isBlank c = false := fun c hc =>
    Decimal.isBlank_of_isNumeric (n.isNumeric_text c hc)
  have htrim : Text.trim n.text.toList = n.text.toList :=
    Text.trim_of_breaks (fun c hc => hvisible c (List.mem_of_mem_head? hc))
      (fun c hc => hvisible c (List.mem_reverse.mp (List.mem_of_mem_head? hc)))
  simp only [toNumber, toText, htrim, Decimal.read_text, Option.getD_some]

/-- The text of a number of no more decimals than are read is read as that number. -/
theorem toNumber_text_of_scale {n : Decimal} (h : n.scale ≤ Decimal.maxScale) :
    (text (toText (number n))).toNumber = n.unsignedZero := by
  rw [toNumber_text, Decimal.roundTo, dif_neg (Nat.not_lt.mpr h)]

/-! ## Instants and conditions -/

/-- The text of an instant begins with a digit of the year and ends with a letter or a digit of the
    zone. -/
theorem trim_textIn {instant : Instant} {offset : ℤ}
    (hyear : 0 ≤ (instant.toLocal offset).date.year ∧ (instant.toLocal offset).date.year ≤ 9999) :
    Text.trim (instant.textIn offset).toList = (instant.textIn offset).toList := by
  have hyearText : Rfc3339.yearText (instant.toLocal offset).date.year =
      Rfc3339.padded 4 (instant.toLocal offset).date.year.toNat := if_pos hyear
  have hless : (instant.toLocal offset).date.year.toNat < 10000 := by omega
  have hlength : 0 < (Rfc3339.padded 4 (instant.toLocal offset).date.year.toNat).length := by
    rw [Rfc3339.length_padded (by decide) hless]
    decide
  obtain ⟨digit, rest, hpadded⟩ := List.exists_cons_of_ne_nil (List.ne_nil_of_length_pos hlength)
  have hdigit : digit.isDigit = true := by
    refine @Rfc3339.isDigit_padded 4 (instant.toLocal offset).date.year.toNat digit ?_
    rw [hpadded]
    exact List.mem_cons_self
  obtain ⟨front, last, hsuffix, hlast⟩ := @Rfc3339.exists_zoneSuffix_end offset
  have hvisible : Text.isBlank last = false := by
    rcases hlast with rfl | hlast
    · rfl
    · exact Text.isBlank_of_isDigit hlast
  rw [Rfc3339.toList_textIn, Rfc3339.dateText, hyearText, hpadded, hsuffix]
  refine Text.trim_of_breaks (Text.breaks_cons (Text.isBlank_of_isDigit hdigit)) ?_
  rw [List.reverse_append, List.reverse_cons, List.reverse_append, List.reverse_append]
  exact Text.breaks_cons hvisible

theorem toInstant_text {instant : Instant} (hleap : instant.isLeap = false)
    (hyear : 0 ≤ (instant.toLocal 0).date.year ∧ (instant.toLocal 0).date.year ≤ 9999) :
    (text (toText (.instant instant))).toInstant = instant := by
  have hread : Rfc3339.read? (instant.textIn 0).toList = some instant :=
    Rfc3339.read?_textIn hleap rfl (by decide) hyear
  simp only [toInstant, toText, Instant.text, trim_textIn hyear, hread, Option.getD_some]

theorem toBool_text (b : Bool) : (text (toText (boolean b))).toBool = b := by
  cases b <;> decide

/-! ## Times as numbers -/

end Value

theorem Instant.toMillis_of_ofMillis? {m : ℤ} {instant : Instant}
    (h : Instant.ofMillis? m = some instant) : instant.toMillis = m ∧ IsInt64 m := by
  unfold Instant.ofMillis? Instant.make? at h
  split at h
  · split at h
    · rename_i hseconds
      cases h
      have hword : (twoTo 63 : ℤ) = 9223372036854775808 := rfl
      unfold Instant.toMillis IsInt64
      simp only [Nat.mul_div_cancel _ (by decide : 0 < 1000000)]
      omega
    · cases h
  · cases h

theorem Span.toMillis_of_ofMillis? {m : ℤ} {span : Span} (h : Span.ofMillis? m = some span) :
    span.toMillis = m ∧ IsInt64 m := by
  unfold Span.ofMillis? Span.ofUnits? Span.make? at h
  split at h
  · rename_i hnanos
    cases h
    have hword : (twoTo 63 : ℤ) = 9223372036854775808 := rfl
    refine ⟨Int.mul_tdiv_cancel m (by decide), ?_⟩
    unfold IsInt64
    omega
  · cases h

namespace Value

section Millis

variable {n : Decimal} {m : ℤ}

theorem value_millisNumber (h : IsInt64 m) : (millisNumber m).value = m := by
  obtain ⟨d, hd, hvalue⟩ := Decimal.ofInt?_eq h.natAbs_lt
  rw [millisNumber, hd, Option.getD_some, hvalue]

/-- A whole number of milliseconds that is an instant is the number of that instant. -/
theorem toNumber_toInstant (hvalue : n.value = m) (hvalid : (Instant.ofMillis? m).isSome = true) :
    (instant (number n).toInstant).toNumber.value = m := by
  obtain ⟨time, htime⟩ := Option.isSome_iff_exists.mp hvalid
  obtain ⟨hmillis, hbounds⟩ := Instant.toMillis_of_ofMillis? htime
  have hview : (number n).toInstant = time := by
    rw [toInstant, Decimal.toInt64?_of_value hvalue hbounds, Option.bind_some, htime,
      Option.getD_some]
  rw [hview, toNumber, hmillis, value_millisNumber hbounds]

/-- A whole number of milliseconds that is a span is the number of that span. -/
theorem toNumber_toSpan (hvalue : n.value = m) (hvalid : (Span.ofMillis? m).isSome = true) :
    (span (number n).toSpan).toNumber.value = m := by
  obtain ⟨time, htime⟩ := Option.isSome_iff_exists.mp hvalid
  obtain ⟨hmillis, hbounds⟩ := Span.toMillis_of_ofMillis? htime
  have hview : (number n).toSpan = time := by
    rw [toSpan, Decimal.toInt64?_of_value hvalue hbounds, Option.bind_some, htime,
      Option.getD_some]
  rw [hview, toNumber, hmillis, value_millisNumber hbounds]

end Millis

/-! ## All views -/

/-- The text of a number is read as that number and with its scale, if it has no more decimals than
    are read. The texts of instants and of conditions are read as those, and so are whole numbers of
    milliseconds that are times. -/
theorem reads_back (n : Decimal) (time : Instant) (b : Bool) (m : ℤ) :
    (n.scale ≤ Decimal.maxScale →
      (text (toText (number n))).toNumber.value = n.value ∧
      (text (toText (number n))).toNumber.scale = n.scale) ∧
    (time.isLeap = false → 0 ≤ (time.toLocal 0).date.year ∧ (time.toLocal 0).date.year ≤ 9999 →
      (text (toText (instant time))).toInstant = time) ∧
    (text (toText (boolean b))).toBool = b ∧
    (n.value = m →
      ((Instant.ofMillis? m).isSome = true →
        (instant (number n).toInstant).toNumber.value = m) ∧
      ((Span.ofMillis? m).isSome = true →
        (span (number n).toSpan).toNumber.value = m)) := by
  refine ⟨fun hfew => ?_, toInstant_text, toBool_text b,
    fun hvalue => ⟨toNumber_toInstant hvalue, toNumber_toSpan hvalue⟩⟩
  rw [toNumber_text_of_scale hfew, ← Decimal.same_iff, Decimal.same, Decimal.units_unsignedZero]
  exact ⟨beq_self_eq_true _, rfl⟩

/-- Results with 29 decimals, zeros kept. -/
def paddingConfiguration : Configuration :=
  Configuration.standard.withSettings
    { Settings.standard with
      decimalPlaces := some 29
      stripTrailingZeros := false }

/-- `-12.50`, the last half of the second before 1970, and a second and a half before 1970 in
    milliseconds. A literal of 28 decimals, padded to 29, is not read back. -/
theorem reads_back_padded :
    let n : Decimal := ⟨true, 1250, 2, by decide, by decide⟩
    let time : Instant := ⟨-1, 500000000, by decide, by decide, by decide⟩
    let millis : Decimal := ⟨true, 1500, 0, by decide, by decide⟩
    let padded : Decimal := ⟨false, 12345678901234567890123456780, 29, by decide, by decide⟩
    (n.scale ≤ Decimal.maxScale ∧
      (text (toText (number n))).toNumber.value = n.value ∧
      (text (toText (number n))).toNumber.scale = n.scale) ∧
    (text (toText (instant time))).toInstant = time ∧
    (text (toText (boolean true))).toBool = true ∧
    (Instant.ofMillis? (-1500)).isSome = true ∧
    (instant (number millis).toInstant).toNumber.value = (-1500 : ℤ) ∧
    (Session.start "0.1234567890123456789012345678" paddingConfiguration).evaluate
      ⟨.epoch, fun _ => 0⟩ = .ok (number padded) ∧
    padded.text = "0.12345678901234567890123456780" ∧ padded.scale = 29 ∧
    (text (toText (number padded))).toNumber.scale = 28 := by
  intro n time millis padded
  obtain ⟨hnumber, htime, hbool, _⟩ := reads_back n time true (-1500)
  obtain ⟨_, _, _, hmillis⟩ := reads_back millis time true (-1500)
  have hvalue : millis.value = (-1500 : ℤ) := by simp [millis, Decimal.value, Decimal.signed]
  have hrun : ((Session.start "0.1234567890123456789012345678" paddingConfiguration).evaluate
      ⟨.epoch, fun _ => 0⟩).toOption.any (fun result =>
        result.type == .number && decide (result.toNumber = padded)) = true := by
    decide +kernel
  refine ⟨⟨by decide, hnumber (by decide)⟩, htime (by decide) (by decide +kernel), hbool,
    by decide, (hmillis hvalue).1 (by decide), ?_, by decide +kernel, rfl, ?_⟩
  · obtain ⟨result, hevaluate, hresult⟩ := ok_of_any hrun
    cases result with
    | number result =>
      have hpadded : result = padded := of_decide_eq_true hresult
      rw [hevaluate, hpadded]
    | _ => cases hresult
  · rw [toNumber_text]
    decide +kernel

end Value
end Formula

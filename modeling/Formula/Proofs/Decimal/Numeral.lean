-- SUMMARY: The digits that a decimal is written with, and reading them back.
import Formula.Decimal.Reader

/-!
# Numerals

A decimal without its sign is written in digits, with a point before the decimals if there are any
(`Numeral`). Reading is a fold over the characters. As long as the coefficient and the decimals have
room, a digit appends itself to the coefficient (`Reading.foldlM_digits`), so the digits that a
decimal is written with are read as its coefficient and its scale, trailing zeros included
(`read_digits`). Without reading, too, a text belongs to one decimal only (`text_injective`).
-/

namespace Formula

/-- Digits before a point and digits after it. The point is written if there are any after it. -/
structure Numeral where
  whole : List Char
  decimals : List Char
  isDigit : ∀ c ∈ whole ++ decimals, c.isDigit = true
  whole_ne_nil : whole ≠ []

namespace Numeral

def text (numeral : Numeral) : List Char :=
  numeral.whole ++ if numeral.decimals.isEmpty then [] else '.' :: numeral.decimals

/-- The number that all of the digits are. -/
def coefficient (numeral : Numeral) : Nat :=
  Nat.ofDigitChars 10 (numeral.whole ++ numeral.decimals) 0

def scale (numeral : Numeral) : Nat := numeral.decimals.length

theorem isDigit_whole (numeral : Numeral) : ∀ c ∈ numeral.whole, c.isDigit = true :=
  (List.forall_mem_append.mp numeral.isDigit).1

theorem isDigit_decimals (numeral : Numeral) : ∀ c ∈ numeral.decimals, c.isDigit = true :=
  (List.forall_mem_append.mp numeral.isDigit).2

theorem isDigit_or_point {numeral : Numeral} {c : Char} (h : c ∈ numeral.text) :
    c.isDigit = true ∨ c = '.' := by
  rcases List.mem_append.mp h with hwhole | hdecimals
  · exact .inl (numeral.isDigit_whole c hwhole)
  · split at hdecimals
    · cases hdecimals
    · rcases List.mem_cons.mp hdecimals with rfl | hdecimals
      · exact .inr rfl
      · exact .inl (numeral.isDigit_decimals c hdecimals)

/-- A numeral begins with a digit. -/
theorem text_eq_cons (numeral : Numeral) :
    ∃ c rest, numeral.text = c :: rest ∧ c.isDigit = true := by
  obtain ⟨c, rest, hwhole⟩ := List.exists_cons_of_ne_nil numeral.whole_ne_nil
  refine ⟨c, rest ++ if numeral.decimals.isEmpty then [] else '.' :: numeral.decimals, ?_, ?_⟩
  · rw [text, hwhole, List.cons_append]
  · exact numeral.isDigit_whole c (by simp [hwhole])

/-! ## The numeral of a coefficient and a scale -/

/-- Zeros in front of digits are digits. -/
theorem isDigit_zeros {count n : Nat} :
    ∀ c ∈ List.replicate count '0' ++ Nat.toDigits 10 n, c.isDigit = true := by
  intro c hc
  rcases List.mem_append.mp hc with hzero | hdigit
  · rw [List.eq_of_mem_replicate hzero]
    decide
  · exact Nat.isDigit_of_mem_toDigits (by decide) (by decide) hdigit

/-- Zeros at the beginning do not count. -/
theorem ofDigitChars_zeros (count n : Nat) :
    Nat.ofDigitChars 10 (List.replicate count '0' ++ Nat.toDigits 10 n) 0 = n := by
  rw [Nat.ofDigitChars_append, Nat.ofDigitChars_replicate_zero, Nat.mul_zero,
    Nat.ofDigitChars_toDigits (by decide) (by decide)]

/-- The digits of a coefficient, with zeros before them so that one is left before the point. -/
def padded (coefficient scale : Nat) : List Char :=
  List.replicate (scale + 1 - (Nat.toDigits 10 coefficient).length) '0' ++
    Nat.toDigits 10 coefficient

theorem length_padded (coefficient scale : Nat) : scale < (padded coefficient scale).length := by
  rw [padded, List.length_append, List.length_replicate]
  omega

def ofParts (coefficient scale : Nat) : Numeral where
  whole := (padded coefficient scale).take ((padded coefficient scale).length - scale)
  decimals := (padded coefficient scale).drop ((padded coefficient scale).length - scale)
  isDigit c hc := by
    rw [List.take_append_drop] at hc
    exact isDigit_zeros c hc
  whole_ne_nil := by
    have hlength := length_padded coefficient scale
    rw [ne_eq, List.take_eq_nil_iff, not_or]
    exact ⟨by omega, List.ne_nil_of_length_pos (by omega)⟩

theorem scale_ofParts (coefficient scale : Nat) : (ofParts coefficient scale).scale = scale := by
  have hlength := length_padded coefficient scale
  simp only [Numeral.scale, ofParts, List.length_drop]
  omega

theorem coefficient_ofParts (coefficient scale : Nat) :
    (ofParts coefficient scale).coefficient = coefficient := by
  rw [Numeral.coefficient, ofParts, List.take_append_drop, padded, ofDigitChars_zeros]

/-- The digits of a decimal are a numeral. -/
theorem text_ofParts (coefficient scale : Nat) :
    (ofParts coefficient scale).text = Decimal.digits coefficient scale := by
  have hscale : (ofParts coefficient scale).decimals.length = scale :=
    scale_ofParts coefficient scale
  cases scale with
  | zero =>
    have hpositive : 0 < (Nat.toDigits 10 coefficient).length := Nat.length_toDigits_pos
    have hpadded : padded coefficient 0 = Nat.toDigits 10 coefficient := by
      rw [padded, Nat.sub_eq_zero_of_le (by omega), List.replicate_zero, List.nil_append]
    have hwhole : (ofParts coefficient 0).whole = Nat.toDigits 10 coefficient := by
      simp only [ofParts, hpadded, Nat.sub_zero, List.take_length]
    rw [text, List.length_eq_zero_iff.mp hscale, hwhole]
    exact List.append_nil _
  | succ scale =>
    have hdecimals : (ofParts coefficient (scale + 1)).decimals.isEmpty = false := by
      rw [List.isEmpty_eq_false_iff]
      exact List.ne_nil_of_length_eq_add_one hscale
    rw [text, if_neg (by simp [hdecimals]), Decimal.digits, if_neg (Nat.succ_ne_zero scale)]
    rfl

end Numeral

/-! ## Reading -/

namespace Decimal

theorem digitValue?_of_isDigit {c : Char} (h : c.isDigit = true) :
    digitValue? c = some (c.toNat - '0'.toNat) :=
  if_pos h

theorem le_ofDigitChars (digits : List Char) (n : Nat) : n ≤ Nat.ofDigitChars 10 digits n := by
  rw [Nat.ofDigitChars_eq_ofDigitChars_zero]
  have hpower : n ≤ 10 ^ digits.length * n := Nat.le_mul_of_pos_left n (Nat.pow_pos (by decide))
  exact Nat.le_add_right_of_le hpower

namespace Reading

theorem step_point {r : Reading} (h : r.hasPoint = false) :
    r.step '.' = some { r with hasPoint := true } := by
  have hvalue : digitValue? '.' = none := by decide
  simp [step, hvalue, h]

/-- Digits for which there is room append themselves to the coefficient, and behind the point each
    of them is one more decimal. -/
theorem foldlM_digits {digits : List Char} (hdigits : ∀ c ∈ digits, c.isDigit = true) (r : Reading)
    (hfull : r.isFull = false) (hroom : Nat.ofDigitChars 10 digits r.coefficient < limit)
    (hscale : r.scale + (if r.hasPoint then digits.length else 1) ≤ maxScale) :
    digits.foldlM step r = some
      ⟨Nat.ofDigitChars 10 digits r.coefficient,
        r.scale + if r.hasPoint then digits.length else 0,
        r.hasDigit || !digits.isEmpty, r.hasPoint, false⟩ := by
  induction digits generalizing r with
  | nil =>
    obtain ⟨coefficient, scale, hasDigit, hasPoint, isFull⟩ := r
    cases hfull
    simp
  | cons c digits ih =>
    obtain ⟨hfirst, hrest⟩ := List.forall_mem_cons.mp hdigits
    rw [Nat.ofDigitChars_cons, Nat.mul_comm] at hroom
    -- The coefficient only grows, so there is room on the way if there is room at the end.
    have hlimit : r.coefficient * 10 + (c.toNat - '0'.toNat) < limit :=
      Nat.lt_of_le_of_lt (le_ofDigitChars digits _) hroom
    have hplace : r.scale < maxScale := by
      split at hscale
      · rw [List.length_cons] at hscale
        omega
      · omega
    rw [List.foldlM_cons, step, digitValue?_of_isDigit hfirst]
    simp only [digit, hfull, hlimit, hplace, and_self, if_true, Bool.false_eq_true, if_false]
    refine (ih hrest _ rfl hroom ?_).trans ?_
    · cases hpoint : r.hasPoint with
      | true =>
        simp only [hpoint, if_true, List.length_cons] at hscale ⊢
        omega
      | false => simpa [hpoint] using hscale
    · rw [Nat.ofDigitChars_cons, Nat.mul_comm]
      cases r.hasPoint with
      | true => simp [Nat.add_comm, Nat.add_left_comm]
      | false => simp

/-- A numeral for which there is room is read as what it is. -/
theorem foldlM_numeral {numeral : Numeral} (hroom : numeral.coefficient < limit)
    (hscale : numeral.scale ≤ maxScale) :
    numeral.text.foldlM step start = some
      ⟨numeral.coefficient, numeral.scale, true, !numeral.decimals.isEmpty, false⟩ := by
  have hnonempty : numeral.whole.isEmpty = false := by simpa using numeral.whole_ne_nil
  rw [Numeral.coefficient, Nat.ofDigitChars_append] at hroom
  -- Before the point no decimal is counted, and behind it each digit is one.
  have hbefore : numeral.whole.foldlM step start =
      some ⟨Nat.ofDigitChars 10 numeral.whole 0, 0, true, false, false⟩ := by
    have hplace : 0 + 1 ≤ maxScale := by decide
    rw [foldlM_digits numeral.isDigit_whole start rfl
      (Nat.lt_of_le_of_lt (le_ofDigitChars _ _) hroom) hplace]
    simp [start, hnonempty]
  rw [Numeral.text, List.foldlM_append, hbefore, Numeral.coefficient, Nat.ofDigitChars_append]
  cases hempty : numeral.decimals.isEmpty with
  | true =>
    have hnil : numeral.decimals = [] := List.isEmpty_iff.mp hempty
    simp [Numeral.scale, hnil]
  | false =>
    simp only [Option.bind_eq_bind, Option.bind_some, if_neg Bool.false_ne_true, List.foldlM_cons]
    rw [step_point rfl]
    refine (foldlM_digits numeral.isDigit_decimals _ rfl hroom ?_).trans ?_
    · simpa [Numeral.scale] using hscale
    · simp [Numeral.scale]

end Reading

theorem readUnsigned_numeral {numeral : Numeral} (negative : Bool)
    (hroom : numeral.coefficient < limit) (hscale : numeral.scale ≤ maxScale) :
    readUnsigned negative numeral.text =
      make? (negative && numeral.coefficient != 0) numeral.coefficient numeral.scale := by
  simp only [readUnsigned, Reading.foldlM_numeral hroom hscale, if_true]

theorem readPlain_signed (numeral : Numeral) (negative : Bool) :
    readPlain ((if negative then ['-'] else []) ++ numeral.text) =
      readUnsigned negative numeral.text := by
  cases negative with
  | true => rfl
  | false =>
    obtain ⟨c, rest, htext, hdigit⟩ := numeral.text_eq_cons
    rw [htext, if_neg Bool.false_ne_true, List.nil_append]
    unfold readPlain
    split
    · rename_i h
      cases h
      cases hdigit
    · rename_i h
      cases h
      cases hdigit
    · rfl

/-- A numeral is plain text, behind a minus sign or without one. -/
theorem read_sign (numeral : Numeral) (negative : Bool) :
    read ((if negative then ['-'] else []) ++ numeral.text) =
      readUnsigned negative numeral.text := by
  have hmark : ((if negative then ['-'] else []) ++ numeral.text).any isExponentMark = false := by
    rw [List.any_append, Bool.or_eq_false_iff]
    refine ⟨by cases negative <;> decide, List.any_eq_false.mpr fun c hc hexponent => ?_⟩
    rcases Numeral.isDigit_or_point hc with hdigit | rfl
    · rcases Bool.or_eq_true_iff.mp hexponent with h | h
      · rw [eq_of_beq h] at hdigit
        cases hdigit
      · rw [eq_of_beq h] at hdigit
        cases hdigit
    · cases hexponent
  rw [read, hmark, if_neg Bool.false_ne_true, readPlain_signed]

/-- A numeral for which there is room is read as what it is, behind a minus sign or without one. -/
theorem read_signed {numeral : Numeral} (negative : Bool) (hroom : numeral.coefficient < limit)
    (hscale : numeral.scale ≤ maxScale) :
    read ((if negative then ['-'] else []) ++ numeral.text) =
      make? (negative && numeral.coefficient != 0) numeral.coefficient numeral.scale := by
  rw [read_sign, readUnsigned_numeral negative hroom hscale]

/-- The digits of a decimal are read as its magnitude, at the same scale. -/
theorem read_digits (d : Decimal) (hscale : d.scale ≤ maxScale) :
    read (digits d.coefficient d.scale) = some d.abs := by
  have hcoefficient := Numeral.coefficient_ofParts d.coefficient d.scale
  have hplaces := Numeral.scale_ofParts d.coefficient d.scale
  have hread := @read_signed (.ofParts d.coefficient d.scale) false
    (by rw [hcoefficient]; exact d.coefficient_lt) (by rwa [hplaces])
  rw [if_neg Bool.false_ne_true, List.nil_append, Numeral.text_ofParts, hcoefficient, hplaces,
    make?, dif_pos d.coefficient_lt, dif_pos d.scale_le] at hread
  exact hread

end Decimal

/-! ## Telling numerals apart -/

namespace Text

variable {p : Char → Bool} {run other rest rest' : List Char}

/-- The text does not begin with such a character. -/
def Breaks (p : Char → Bool) (text : List Char) : Prop := ∀ c, text.head? = some c → p c = false

theorem breaks_nil : Breaks p [] := by
  intro c hc
  cases hc

theorem breaks_cons {c : Char} (h : p c = false) : Breaks p (c :: rest) := by
  intro d hd
  cases hd
  exact h

/-- Fewer characters are broken by the same text. -/
theorem Breaks.imp {q : Char → Bool} (hrest : Breaks q rest) (h : ∀ c, p c = true → q c = true) :
    Breaks p rest := by
  intro c hc
  cases hp : p c with
  | false => rfl
  | true => exact (h c hp).symm.trans (hrest c hc)

theorem takeWhile_append (hrun : ∀ c ∈ run, p c = true) (hrest : Breaks p rest) :
    (run ++ rest).takeWhile p = run := by
  rw [List.takeWhile_append_of_pos hrun]
  cases rest with
  | nil => exact List.append_nil run
  | cons c rest =>
    rw [List.takeWhile_cons_of_neg (by simp [hrest c rfl]), List.append_nil]

/-- Runs of characters end where the first other character stands. -/
theorem append_eq_append (hrun : ∀ c ∈ run, p c = true) (hother : ∀ c ∈ other, p c = true)
    (hrest : Breaks p rest) (hrest' : Breaks p rest') :
    run ++ rest = other ++ rest' ↔ run = other ∧ rest = rest' := by
  constructor
  · intro h
    have hsame : run = other := by
      rw [← takeWhile_append hrun hrest, h, takeWhile_append hother hrest']
    subst hsame
    exact ⟨rfl, List.append_cancel_left h⟩
  · rintro ⟨rfl, rfl⟩
    rfl

end Text

theorem Numeral.parts_of_text {a b : Numeral} (h : a.text = b.text) :
    a.whole = b.whole ∧ a.decimals = b.decimals := by
  have hpoint (numeral : Numeral) : Text.Breaks Char.isDigit
      (if numeral.decimals.isEmpty then [] else '.' :: numeral.decimals) := by
    split
    · exact Text.breaks_nil
    · exact Text.breaks_cons rfl
  obtain ⟨hwhole, hdecimals⟩ :=
    (Text.append_eq_append a.isDigit_whole b.isDigit_whole (hpoint a) (hpoint b)).mp h
  refine ⟨hwhole, ?_⟩
  cases ha : a.decimals <;> cases hb : b.decimals <;> simp_all

namespace Decimal

/-- The characters of numbers. -/
def isNumeric (c : Char) : Bool := c.isDigit || c == '.' || c == '-'

theorem toList_text (d : Decimal) :
    d.text.toList = (if d.negative then ['-'] else []) ++
      (Numeral.ofParts d.coefficient d.scale).text := by
  rw [text, String.toList_ofList, Numeral.text_ofParts]

theorem isNumeric_of_isDigit {c : Char} (h : c.isDigit = true) : isNumeric c = true := by
  simp [isNumeric, h]

theorem isNumeric_text (d : Decimal) : ∀ c ∈ d.text.toList, isNumeric c = true := by
  intro c hc
  rw [toList_text] at hc
  rcases List.mem_append.mp hc with hsign | hnumeral
  · split at hsign
    · rw [List.mem_singleton.mp hsign]
      rfl
    · cases hsign
  · rcases Numeral.isDigit_or_point hnumeral with hdigit | rfl
    · exact isNumeric_of_isDigit hdigit
    · rfl

/-- The sign, the coefficient and the scale can be told from the text. -/
theorem text_injective : Function.Injective text := by
  intro a b h
  have hsign (d : Decimal) : d.text.toList.head? = some '-' ↔ d.negative = true := by
    obtain ⟨c, rest, htext, hdigit⟩ := Numeral.text_eq_cons (.ofParts d.coefficient d.scale)
    rw [toList_text, htext]
    cases d.negative with
    | true => simp
    | false =>
      have hminus : c ≠ '-' := by
        rintro rfl
        cases hdigit
      simpa using hminus
  have hnegative : a.negative = b.negative := by
    rw [Bool.eq_iff_iff, ← hsign, ← hsign, h]
  have hnumeral : (Numeral.ofParts a.coefficient a.scale).text =
      (Numeral.ofParts b.coefficient b.scale).text := by
    have htext := congrArg String.toList h
    rw [toList_text, toList_text, hnegative] at htext
    exact List.append_cancel_left htext
  obtain ⟨hwhole, hdecimals⟩ := Numeral.parts_of_text hnumeral
  have hscale : a.scale = b.scale := by
    rw [← Numeral.scale_ofParts a.coefficient a.scale, Numeral.scale, hdecimals,
      ← Numeral.scale, Numeral.scale_ofParts]
  have hcoefficient : a.coefficient = b.coefficient := by
    rw [← Numeral.coefficient_ofParts a.coefficient a.scale, Numeral.coefficient, hwhole, hdecimals,
      ← Numeral.coefficient, Numeral.coefficient_ofParts]
  obtain ⟨_, _, _, _, _⟩ := a
  obtain ⟨_, _, _, _, _⟩ := b
  simp only at hnegative hscale hcoefficient
  subst hnegative hscale hcoefficient
  rfl

end Decimal
end Formula

-- SUMMARY: Writing the small letters of ASCII as capitals changes neither the class of a character nor the upper case of a text nor the value of a number.
import Formula.Text.Case
import Formula.Token.Scanner

/-!
# Capitals

`Text.capitals` writes every small letter of ASCII as a capital. Texts that differ in the case of
such letters only have the same capitals, so what does not change when a text is written in capitals
does not depend on the case of ASCII letters.

For a function of characters it is enough to look at the 26 small letters
(`Text.toUpper_invariant`).
-/

namespace Formula

/-! ## Characters -/

namespace Text

/-- The codes of the small letters of ASCII. -/
def smallLetters : List Nat := List.range' 97 26

theorem toUpper_cases (c : Char) : c.toUpper = c ∨ ∃ code ∈ smallLetters, Char.ofNat code = c := by
  unfold Char.toUpper
  split
  · rename_i h
    right
    exact ⟨c.toNat, List.mem_range'_1.mpr ⟨h.1, Nat.lt_succ_of_le h.2⟩, c.ofNat_toNat⟩
  · exact .inl rfl

/-- A function that makes the same of a small letter and its capital makes the same of every
    character and its upper case in ASCII. -/
theorem toUpper_invariant {α : Type} {f : Char → α}
    (h : ∀ code ∈ smallLetters, f (Char.ofNat code).toUpper = f (Char.ofNat code)) (c : Char) :
    f c.toUpper = f c := by
  rcases toUpper_cases c with hsame | ⟨code, hsmall, rfl⟩
  · rw [hsame]
  · exact h code hsmall

variable (c : Char)

@[simp] theorem toUpper_toUpper : c.toUpper.toUpper = c.toUpper :=
  @toUpper_invariant Char Char.toUpper (by decide) c

@[simp] theorem isDigit_toUpper : c.toUpper.isDigit = c.isDigit :=
  toUpper_invariant (by decide) c

@[simp] theorem isBlank_toUpper : isBlank c.toUpper = isBlank c :=
  toUpper_invariant (by decide) c

@[simp] theorem isAlphabetic_toUpper : isAlphabetic c.toUpper = isAlphabetic c :=
  toUpper_invariant (by decide) c

@[simp] theorem isAlphanumeric_toUpper : isAlphanumeric c.toUpper = isAlphanumeric c :=
  toUpper_invariant (by decide) c

@[simp] theorem upperChar_toUpper : upperChar c.toUpper = upperChar c :=
  toUpper_invariant (by decide) c

theorem isAlpha_smallLetters : ∀ code ∈ smallLetters,
    (Char.ofNat code).isAlpha = true ∧ (Char.ofNat code).toUpper.isAlpha = true := by
  decide

/-- A character that is no letter is not the capital of another one. -/
@[simp] theorem toUpper_eq_iff {c d : Char} (h : d.isAlpha = false) : c.toUpper = d ↔ c = d := by
  rcases toUpper_cases c with hsame | ⟨code, hsmall, rfl⟩
  · rw [hsame]
  · obtain ⟨hletter, hcapital⟩ := isAlpha_smallLetters code hsmall
    constructor
    · rintro rfl
      simp [hcapital] at h
    · rintro rfl
      simp [hletter] at h

theorem toUpper_beq {c d : Char} (h : d.isAlpha = false) : (c.toUpper == d) = (c == d) := by
  rw [Bool.eq_iff_iff, beq_iff_eq, beq_iff_eq, toUpper_eq_iff h]

/-! ## Texts -/

/-- The text with the small letters of ASCII written as capitals. -/
def capitals (s : String) : String := String.ofList (s.toList.map Char.toUpper)

@[simp] theorem capitals_ofList (cs : List Char) :
    capitals (String.ofList cs) = String.ofList (cs.map Char.toUpper) := by
  rw [capitals, String.toList_ofList]

@[simp] theorem toList_capitals (s : String) : (capitals s).toList = s.toList.map Char.toUpper := by
  rw [capitals, String.toList_ofList]

@[simp] theorem length_capitals (s : String) : (capitals s).length = s.length := by
  rw [← String.length_toList, toList_capitals, List.length_map, String.length_toList]

@[simp] theorem capitals_capitals (s : String) : capitals (capitals s) = capitals s := by
  rw [capitals, toList_capitals, List.map_map]
  simp only [Function.comp_def, toUpper_toUpper, capitals]

@[simp] theorem upper_capitals (s : String) : upper (capitals s) = upper s := by
  simp only [upper, toList_capitals, List.flatMap_map, upperChar_toUpper]

end Text

/-! ## Numbers -/

namespace Decimal

@[simp] theorem digitValue?_toUpper (c : Char) : digitValue? c.toUpper = digitValue? c :=
  Text.toUpper_invariant (by decide) c

@[simp] theorem hexValue?_toUpper (c : Char) : hexValue? c.toUpper = hexValue? c :=
  Text.toUpper_invariant (by decide) c

@[simp] theorem isExponentMark_toUpper (c : Char) : isExponentMark c.toUpper = isExponentMark c :=
  Text.toUpper_invariant (by decide) c

variable (text : List Char)

theorem step_toUpper (r : Reading) (c : Char) : r.step c.toUpper = r.step c := by
  simp [Reading.step]

theorem readUnsigned_toUpper (negative : Bool) :
    readUnsigned negative (text.map Char.toUpper) = readUnsigned negative text := by
  simp only [readUnsigned, List.foldlM_map, step_toUpper]

/-- What comes behind a mark, if the text begins with it. -/
def behind? (mark : Char) : List Char → Option (List Char)
  | [] => none
  | c :: rest => if c = mark then some rest else none

theorem behind?_none {mark : Char} {text : List Char} (h : ∀ rest, text = mark :: rest → False) :
    behind? mark text = none := by
  cases text with
  | nil => rfl
  | cons c rest =>
    refine if_neg ?_
    rintro rfl
    exact h rest rfl

/-- Where a mark that is no letter is written does not depend on the case of letters. -/
theorem behind?_toUpper {mark : Char} (h : mark.isAlpha = false) :
    behind? mark (text.map Char.toUpper) = (behind? mark text).map (·.map Char.toUpper) := by
  cases text with
  | nil => rfl
  | cons c rest =>
    simp only [List.map_cons, behind?, Text.toUpper_eq_iff h]
    split <;> rfl

theorem readPlain_eq : readPlain text =
    match behind? '-' text with
    | some rest => readUnsigned true rest
    | none => readUnsigned false ((behind? '+' text).getD text) := by
  unfold readPlain
  split
  · rfl
  · rfl
  · rename_i hminus hplus
    rw [behind?_none hminus, behind?_none hplus]
    rfl

theorem readPlain_toUpper : readPlain (text.map Char.toUpper) = readPlain text := by
  rw [readPlain_eq, readPlain_eq, behind?_toUpper text (by decide),
    behind?_toUpper text (by decide)]
  cases behind? '-' text with
  | some rest => exact readUnsigned_toUpper rest true
  | none => cases behind? '+' text <;> exact readUnsigned_toUpper _ false

/-- A number from digits, if there are any. -/
def ofDigits {α β : Type} (value? : Char → Option α) (number : List α → Option β)
    (digits : List Char) : Option β :=
  if digits.isEmpty then none
  else
    match digits.mapM value? with
    | some values => number values
    | none => none

/-- An optional plus sign and digits, whose values do not depend on the case of letters. -/
theorem ofDigits_toUpper {α β : Type} {value? : Char → Option α}
    (h : ∀ c, value? c.toUpper = value? c) (number : List α → Option β) :
    ofDigits value? number ((behind? '+' (text.map Char.toUpper)).getD (text.map Char.toUpper)) =
      ofDigits value? number ((behind? '+' text).getD text) := by
  have hdigits : ∀ digits : List Char,
      ofDigits value? number (digits.map Char.toUpper) = ofDigits value? number digits := by
    intro digits
    simp only [ofDigits, List.isEmpty_map, List.mapM_map, Function.comp_def, h]
  rw [behind?_toUpper text (by decide)]
  cases behind? '+' text <;> exact hdigits _

theorem readCount_eq : readCount text =
    ofDigits digitValue? (fun values =>
      let n := values.foldl (fun n d => 10 * n + d) 0
      if n < twoTo 32 then some n else none) ((behind? '+' text).getD text) := by
  unfold readCount
  split
  · rename_i rest
    change _ = ofDigits _ _ rest
    simp only [ofDigits]
    cases rest.mapM digitValue? <;> rfl
  · rename_i hplus
    simp only [behind?_none hplus, Option.getD_none, ofDigits]
    cases text.mapM digitValue? <;> rfl

theorem readCount_toUpper : readCount (text.map Char.toUpper) = readCount text := by
  rw [readCount_eq, readCount_eq, ofDigits_toUpper text digitValue?_toUpper]

theorem readHex_eq : readHex text =
    ofDigits hexValue? (fun values => ofNat? (values.foldl (fun n d => 16 * n + d) 0))
      ((behind? '+' text).getD text) := by
  unfold readHex
  split
  · rename_i rest
    change _ = ofDigits _ _ rest
    simp only [ofDigits]
    cases rest.mapM hexValue? <;> rfl
  · rename_i hplus
    simp only [behind?_none hplus, Option.getD_none, ofDigits]
    cases text.mapM hexValue? <;> rfl

theorem readHex_toUpper : readHex (text.map Char.toUpper) = readHex text := by
  rw [readHex_eq, readHex_eq, ofDigits_toUpper text hexValue?_toUpper]

theorem readScientific_eq : readScientific text =
    (readPlain (text.takeWhile (!isExponentMark ·)) >>= fun base =>
      let exponent := (text.dropWhile (!isExponentMark ·)).drop 1
      match behind? '-' exponent with
      | some rest => readCount rest >>= base.shiftDown?
      | none => readCount exponent >>= base.shiftUp?) := by
  unfold readScientific
  congr 1
  funext base
  simp only
  split
  · rename_i rest hexponent
    rw [hexponent]
    rfl
  · rename_i hminus
    rw [behind?_none hminus]

theorem readScientific_toUpper : readScientific (text.map Char.toUpper) = readScientific text := by
  rw [readScientific_eq, readScientific_eq]
  simp only [List.takeWhile_map, List.dropWhile_map, Function.comp_def, isExponentMark_toUpper,
    readPlain_toUpper, ← List.map_drop, behind?_toUpper _ (show '-'.isAlpha = false by decide)]
  congr 1
  funext base
  cases behind? '-' ((text.dropWhile fun c => !isExponentMark c).drop 1) with
  | some rest => simp only [Option.map_some, readCount_toUpper]
  | none => simp only [Option.map_none, readCount_toUpper]

theorem read_toUpper : read (text.map Char.toUpper) = read text := by
  simp only [read, List.any_map, Function.comp_def, isExponentMark_toUpper, readScientific_toUpper,
    readPlain_toUpper]

/-- The beginning of a hexadecimal number and that of a number without a whole part are looked at
    one character after the other. -/
theorem ofLiteral?_eq : ofLiteral? text =
    match (behind? '0' text).bind fun rest => (behind? 'x' rest).or (behind? 'X' rest) with
    | some digits => readHex digits
    | none => if (behind? '.' text).isSome then read ('0' :: text) else read text := by
  unfold ofLiteral?
  split
  · rfl
  · rfl
  · rfl
  · rename_i hsmall hcapital hpoint
    rw [behind?_none hpoint]
    cases text with
    | nil => rfl
    | cons c rest =>
      by_cases hzero : c = '0'
      · subst hzero
        have hmarks : (behind? 'x' rest).or (behind? 'X' rest) = none := by
          rw [behind?_none fun digits h => hsmall digits (by rw [h]),
            behind?_none fun digits h => hcapital digits (by rw [h])]
          rfl
        have hzero : behind? '0' ('0' :: rest) = some rest := rfl
        rw [hzero, Option.bind_some, hmarks]
        rfl
      · simp [behind?, hzero]

/-- One of the two marks of a hexadecimal number is the capital of the other. -/
theorem hexMark_toUpper :
    (behind? 'x' (text.map Char.toUpper)).or (behind? 'X' (text.map Char.toUpper)) =
      ((behind? 'x' text).or (behind? 'X' text)).map (·.map Char.toUpper) := by
  have hor : ∀ (c : Char) (rest : List Char),
      (behind? 'x' (c :: rest)).or (behind? 'X' (c :: rest)) =
        if c == 'x' || c == 'X' then some rest else none := by
    intro c rest
    by_cases hsmall : c = 'x' <;> by_cases hcapital : c = 'X' <;> simp [behind?, hsmall, hcapital]
  cases text with
  | nil => rfl
  | cons c rest =>
    have hmark : (c.toUpper == 'x' || c.toUpper == 'X') = (c == 'x' || c == 'X') :=
      @Text.toUpper_invariant Bool (fun c => c == 'x' || c == 'X') (by decide) c
    rw [List.map_cons, hor, hor, hmark]
    split <;> rfl

/-- The letters in a number, which are marks and hexadecimal digits, may be small or capitals. -/
theorem ofLiteral?_toUpper : ofLiteral? (text.map Char.toUpper) = ofLiteral? text := by
  have hwhole : read ('0' :: text.map Char.toUpper) = read ('0' :: text) :=
    read_toUpper ('0' :: text)
  have hmarks : ((behind? '0' (text.map Char.toUpper)).bind fun rest =>
        (behind? 'x' rest).or (behind? 'X' rest)) =
      ((behind? '0' text).bind fun rest => (behind? 'x' rest).or (behind? 'X' rest)).map
        (·.map Char.toUpper) := by
    rw [behind?_toUpper text (by decide)]
    cases behind? '0' text with
    | none => rfl
    | some rest => exact hexMark_toUpper rest
  rw [ofLiteral?_eq, ofLiteral?_eq, hmarks, behind?_toUpper text (by decide), Option.isSome_map,
    hwhole, read_toUpper]
  cases (behind? '0' text).bind fun rest => (behind? 'x' rest).or (behind? 'X' rest) with
  | none => rfl
  | some digits => exact readHex_toUpper digits

end Decimal
end Formula

-- SUMMARY: Blanks are no letters or digits, and ASCII digits are no letters.
import Formula.Text.Letter
import Mathlib.Algebra.Group.Nat.Defs

/-!
# Letters, blanks and digits

A blank is neither alphabetic nor numeric, and a digit is never alphabetic. There are few blanks, so
the categories of all of them are looked up. The look-up is a search that ends by a decreasing distance; `lastRunIn` counts the steps
instead and can be carried out in a proof.
-/

namespace Formula

/-- The search of `lastRun` in a list, with a bound on the number of steps. -/
def lastRunIn (runs : List Nat) (unit key : Nat) : Nat → Nat → Nat → Nat
  | 0, low, _ => low
  | steps + 1, low, high =>
    if low + 1 < high then
      let middle := (low + high) / 2
      if runs.getD middle 0 / unit ≤ key then lastRunIn runs unit key steps middle high
      else lastRunIn runs unit key steps low middle
    else low

theorem lastRun_eq_lastRunIn {runs : Array Nat} {entries : List Nat} {unit key : Nat}
    (hentries : runs.toList = entries) {steps low high : Nat} (h : high ≤ low + 2 ^ steps) :
    lastRun runs unit key low high = lastRunIn entries unit key steps low high := by
  induction steps generalizing low high with
  | zero =>
    rw [lastRun, dif_neg (by simpa using h)]
    rfl
  | succ steps ih =>
    have hgetD : ∀ index, runs.getD index 0 = entries.getD index 0 := by
      intro index
      subst hentries
      simp
    rw [lastRun, lastRunIn]
    split
    · have hpow : 2 ^ (steps + 1) = 2 ^ steps + 2 ^ steps := by omega
      simp only [hgetD]
      rw [ih (by omega), ih (by omega)]
    · rfl

namespace Category

/-- All entries of the table of categories. -/
def entries : List Nat := lowRuns.toList ++ highRuns.toList

/-- The category whose entry is found in the list. -/
def search (code : Nat) : Category :=
  let entry := entries.getD (lastRunIn entries 32 code 12 0 entries.length) 0
  if entry % 32 = 30 then if (code - entry / 32) % 2 = 0 then lu else ll
  else all.getD (entry % 32) cn

theorem ofCode_eq_search (code : Nat) : ofCode code = search code := by
  have hentries : runs.toList = entries := Array.toList_append
  have hlength : entries.length ≤ 0 + 2 ^ 12 := by decide +kernel
  have hsize : runs.size = entries.length := by rw [← hentries, Array.length_toList]
  have hentry : runEntry runs 32 code =
      entries.getD (lastRunIn entries 32 code 12 0 entries.length) 0 := by
    unfold runEntry
    rw [hsize, lastRun_eq_lastRunIn hentries hlength, ← hentries]
    simp
  unfold ofCode search
  rw [hentry]

end Category

namespace CodeRanges

/-- The members of all ranges. -/
def codes (ranges : CodeRanges) : List Nat :=
  ranges.flatMap fun range => List.range' range.1 (range.2 + 1 - range.1)

theorem mem_codes_of_contains {ranges : CodeRanges} {code : Nat}
    (h : ranges.contains code = true) : code ∈ ranges.codes := by
  induction ranges with
  | nil => cases h
  | cons range rest ih =>
    simp only [contains] at h
    split at h
    · cases h
    · simp only [codes, List.flatMap_cons, List.mem_append, List.mem_range'_1]
      split at h
      · left
        omega
      · exact .inr (ih h)

end CodeRanges

namespace Text

/-- A blank is an ASCII character that is no letter, or a separator or control character. -/
theorem blank_codes : ∀ code ∈ whiteSpace.codes,
    code < 128 ∧ (Char.ofNat code).isAlpha = false ∨
    128 ≤ code ∧ Category.search code ∈ [.zs, .zl, .zp, .cc] ∧
      otherUppercase.contains code = false ∧ otherAlphabetic.contains code = false ∧
      otherLowercase.contains code = false := by
  decide +kernel

theorem isAlphabetic_of_isBlank {c : Char} (h : isBlank c = true) : isAlphabetic c = false := by
  rcases blank_codes c.toNat (CodeRanges.mem_codes_of_contains h) with
    ⟨hascii, halpha⟩ | ⟨hlarge, hcategory, hupper, hother, hlower⟩
  · rw [Char.ofNat_toNat] at halpha
    rw [isAlphabetic, if_pos hascii, halpha]
  · have hascii : ¬ c.toNat < 128 := by omega
    rw [← Category.ofCode_eq_search] at hcategory
    simp only [List.mem_cons, List.not_mem_nil, or_false] at hcategory
    rw [isAlphabetic, if_neg hascii]
    rcases hcategory with h | h | h | h <;> simp [h, hupper, hother, hlower]

theorem blank_codes_digit : ∀ code ∈ whiteSpace.codes, (Char.ofNat code).isDigit = false := by
  decide +kernel

theorem isNumeric_of_isBlank {c : Char} (h : isBlank c = true) : isNumeric c = false := by
  have hmem := CodeRanges.mem_codes_of_contains h
  have hdigit := blank_codes_digit c.toNat hmem
  rw [Char.ofNat_toNat] at hdigit
  rcases blank_codes c.toNat hmem with ⟨hascii, _⟩ | ⟨hlarge, hcategory, _⟩
  · rw [isNumeric, if_pos hascii, hdigit]
  · have hascii : ¬ c.toNat < 128 := by omega
    rw [← Category.ofCode_eq_search] at hcategory
    simp only [List.mem_cons, List.not_mem_nil, or_false] at hcategory
    rw [isNumeric, if_neg hascii]
    rcases hcategory with h | h | h | h <;> simp [h]

theorem isAlphanumeric_of_isBlank {c : Char} (h : isBlank c = true) :
    isAlphanumeric c = false := by
  rw [isAlphanumeric, isAlphabetic_of_isBlank h, isNumeric_of_isBlank h]
  rfl

theorem digit_codes : ∀ code ∈ List.range' 48 10, (Char.ofNat code).isAlpha = false := by
  decide

theorem toNat_of_isDigit {c : Char} (h : c.isDigit = true) : 48 ≤ c.toNat ∧ c.toNat ≤ 57 := by
  simp only [Char.isDigit, Bool.and_eq_true, decide_eq_true_eq, UInt32.le_iff_toNat_le] at h
  exact h

theorem isAlphabetic_of_isDigit {c : Char} (h : c.isDigit = true) : isAlphabetic c = false := by
  have hrange := toNat_of_isDigit h
  have hmem : c.toNat ∈ List.range' 48 10 := by
    rw [List.mem_range'_1]
    omega
  have halpha := digit_codes c.toNat hmem
  rw [Char.ofNat_toNat] at halpha
  rw [isAlphabetic, if_pos (by omega), halpha]

theorem isNumeric_of_isDigit {c : Char} (h : c.isDigit = true) : isNumeric c = true := by
  have hrange := toNat_of_isDigit h
  rw [isNumeric, if_pos (by omega), h]

theorem isBlank_of_isDigit {c : Char} (h : c.isDigit = true) : isBlank c = false := by
  cases hblank : isBlank c with
  | false => rfl
  | true =>
    have hnone := isNumeric_of_isBlank hblank
    rw [isNumeric_of_isDigit h] at hnone
    cases hnone

end Text
end Formula

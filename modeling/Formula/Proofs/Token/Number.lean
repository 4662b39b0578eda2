-- SUMMARY: A number goes as far as the grammar of numbers allows, and what may not follow it makes it malformed.
import Formula.Evaluation
import Formula.Proofs.Token.Capitals
import Formula.Proofs.Token.Layout

/-!
# Numbers in the text of a formula

The grammar of numbers is `Token.IsNumber`: digits, or a point with digits behind it and maybe
before it, and then an exponent or none. The scanner reads a number with two flags and a look at the
next two characters. What it has read is described by `Token.Read`, which every step keeps, so it
stops behind a number (`Token.scanDecimal_stops`). No number of the grammar can be longer, as the
scanner does not stop inside of one (`Token.IsNumber.prefix_scanDecimal`) and a number ends with a
digit.

`Token.scan_number` says what becomes of a text in which a number begins: the longest number is a
token unless its value cannot be read or the text goes on as if it were longer, and then the whole
text is rejected at the number's first character.
-/

namespace Formula
namespace Token

/-! ## The grammar -/

/-- Digits, at least one of them. -/
def IsDigits (text : List Char) : Prop := text ≠ [] ∧ ∀ c ∈ text, c.isDigit = true

/-- A number without its exponent. -/
inductive IsMantissa : List Char → Prop
  | whole {digits} (digits_form : IsDigits digits) : IsMantissa digits
  | fraction {whole decimals} (whole_form : ∀ c ∈ whole, c.isDigit = true)
      (decimals_form : IsDigits decimals) : IsMantissa (whole ++ '.' :: decimals)

/-- An exponent mark with a sign or without one. -/
inductive IsExponentHead : List Char → Prop
  | plain {mark} (mark_form : isExponentMark mark = true) : IsExponentHead [mark]
  | signed {mark sign} (mark_form : isExponentMark mark = true) (sign_form : isSign sign = true) :
    IsExponentHead [mark, sign]

/-- A decimal number. -/
inductive IsNumber : List Char → Prop
  | plain {mantissa} (mantissa_form : IsMantissa mantissa) : IsNumber mantissa
  | scientific {mantissa head digits} (mantissa_form : IsMantissa mantissa)
      (head_form : IsExponentHead head) (digits_form : IsDigits digits) :
    IsNumber (mantissa ++ (head ++ digits))

/-- The lexeme is the longest beginning of the text that has the form. -/
structure IsLongest (form : List Char → Prop) (text lexeme : List Char) : Prop where
  begins : lexeme <+: text
  hasForm : form lexeme
  longest : ∀ other, other <+: text → form other → other.length ≤ lexeme.length

/-- The text goes on as if a number before it did: with an exponent mark, or with a point and a
    digit. -/
def resumesNumber : List Char → Bool
  | c :: rest => isExponentMark c || (c == '.' && digitAhead rest)
  | [] => false

theorem IsDigits.append {a b : List Char} (ha : ∀ c ∈ a, c.isDigit = true) (hb : IsDigits b) :
    IsDigits (a ++ b) :=
  ⟨by simp [hb.1], List.forall_mem_append.mpr ⟨ha, hb.2⟩⟩

/-- Digits end with a digit, whatever stands before them. -/
theorem IsDigits.getLast? {digits : List Char} (h : IsDigits digits) (before : List Char) :
    ∃ last, (before ++ digits).getLast? = some last ∧ last.isDigit = true := by
  obtain ⟨hnonempty, hdigits⟩ := h
  refine ⟨digits.getLast hnonempty, ?_, hdigits _ (List.getLast_mem hnonempty)⟩
  rw [List.getLast?_append, List.getLast?_eq_some_getLast hnonempty, Option.some_or]

/-- A number ends with a digit. -/
theorem IsNumber.getLast? {number : List Char} (h : IsNumber number) :
    ∃ last, number.getLast? = some last ∧ last.isDigit = true := by
  cases h with
  | plain mantissa =>
    cases mantissa with
    | whole digits => exact digits.getLast? []
    | @fraction whole decimals _ hdecimals =>
      have hlast := hdecimals.getLast? (whole ++ ['.'])
      rwa [List.append_assoc, List.singleton_append] at hlast
  | @scientific mantissa head digits _ _ hdigits =>
    have hlast := hdigits.getLast? (mantissa ++ head)
    rwa [List.append_assoc] at hlast

/-! ## Steps of the scanner -/

theorem scanDecimal_digits {digits : List Char} (hdigits : ∀ c ∈ digits, c.isDigit = true)
    (seenPoint seenExponent : Bool) (rest : List Char) :
    scanDecimal seenPoint seenExponent (digits ++ rest) =
      ⟨digits ++ (scanDecimal seenPoint seenExponent rest).lexeme,
        (scanDecimal seenPoint seenExponent rest).fault⟩ := by
  induction digits with
  | nil => rfl
  | cons c digits ih =>
    obtain ⟨hfirst, hrest⟩ := List.forall_mem_cons.mp hdigits
    rw [List.cons_append, scanDecimal, if_pos hfirst, ih hrest]
    rfl

/-- The first point belongs to the number if a digit follows. -/
theorem scanDecimal_point {rest : List Char} (h : digitAhead rest = true) :
    scanDecimal false false ('.' :: rest) = (scanDecimal true false rest).after '.' := by
  rw [scanDecimal, if_neg (by decide), if_pos (by simp [h])]
  simp

theorem isDigit_of_isExponentMark {c : Char} (h : isExponentMark c = true) : c.isDigit = false := by
  rcases Bool.or_eq_true_iff.mp h with hc | hc <;> rw [eq_of_beq hc] <;> rfl

theorem ne_point_of_isExponentMark {c : Char} (h : isExponentMark c = true) : c ≠ '.' := by
  rintro rfl
  cases h

theorem isDigit_of_isSign {c : Char} (h : isSign c = true) : c.isDigit = false := by
  rcases Bool.or_eq_true_iff.mp h with hc | hc <;> rw [eq_of_beq hc] <;> rfl

theorem isSign_of_isDigit {c : Char} (h : c.isDigit = true) : isSign c = false := by
  cases hsign : isSign c with
  | false => rfl
  | true =>
    rw [isDigit_of_isSign hsign] at h
    cases h

theorem IsExponentHead.isDigit_eq_false {head : List Char} (h : IsExponentHead head) :
    ∀ c ∈ head, c.isDigit = false := by
  cases h with
  | plain hmark => simpa using isDigit_of_isExponentMark hmark
  | signed hmark hsign =>
    simpa using ⟨isDigit_of_isExponentMark hmark, isDigit_of_isSign hsign⟩

/-- What follows an exponent mark decides whether it begins an exponent. -/
theorem exponentHead_cases {mark : Char} (hmark : isExponentMark mark = true) (rest : List Char) :
    (∃ head behind, mark :: rest = head ++ behind ∧ IsExponentHead head ∧
      digitAhead behind = true ∧ exponentHead mark rest = (some head, behind)) ∨
    ∃ head, IsExponentHead head ∧ exponentHead mark rest = (none, head) := by
  cases rest with
  | nil => exact .inr ⟨[mark], .plain hmark, rfl⟩
  | cons c behind =>
    cases hsign : isSign c with
    | true =>
      have hhead : IsExponentHead [mark, c] := .signed hmark hsign
      cases hdigit : digitAhead behind with
      | true => exact .inl ⟨_, behind, rfl, hhead, hdigit, by simp [exponentHead, hsign, hdigit]⟩
      | false => exact .inr ⟨_, hhead, by simp [exponentHead, hsign, hdigit]⟩
    | false =>
      have hhead : IsExponentHead [mark] := .plain hmark
      cases hdigit : c.isDigit with
      | true =>
        exact .inl ⟨_, c :: behind, rfl, hhead, hdigit, by simp [exponentHead, hsign, hdigit]⟩
      | false => exact .inr ⟨_, hhead, by simp [exponentHead, hsign, hdigit]⟩

/-- An exponent belongs to the number if there has been none. -/
theorem scanDecimal_exponent {head : List Char} (hhead : IsExponentHead head) {rest : List Char}
    (h : digitAhead rest = true) (seenPoint : Bool) :
    scanDecimal seenPoint false (head ++ rest) =
      ⟨head ++ (scanDecimal seenPoint true rest).lexeme,
        (scanDecimal seenPoint true rest).fault⟩ := by
  obtain ⟨mark, tail, rfl, hmark⟩ :
      ∃ mark tail, head = mark :: tail ∧ isExponentMark mark = true := by
    cases hhead with
    | plain hmark => exact ⟨_, _, rfl, hmark⟩
    | signed hmark _ => exact ⟨_, _, rfl, hmark⟩
  have hsplit : exponentHead mark (tail ++ rest) = (some (mark :: tail), rest) := by
    cases rest with
    | nil => cases h
    | cons c rest =>
      have hdigit : c.isDigit = true := h
      cases hhead with
      | plain => simp [exponentHead, isSign_of_isDigit hdigit, hdigit]
      | signed _ hsign => simp [exponentHead, hsign, digitAhead, hdigit]
  rw [List.cons_append, scanDecimal, if_neg (by simp [isDigit_of_isExponentMark hmark]),
    if_neg (by simp [ne_point_of_isExponentMark hmark]), if_pos hmark,
    if_neg Bool.false_ne_true]
  split
  · rename_i heq
    rw [hsplit] at heq
    cases heq
    rfl
  · rename_i heq
    rw [hsplit] at heq
    cases heq

/-- The scanner does not stop inside of a number. -/
theorem IsNumber.prefix_scanDecimal {number : List Char} (h : IsNumber number) (rest : List Char) :
    number <+: (scanDecimal false false (number ++ rest)).lexeme := by
  have hahead : ∀ {digits}, IsDigits digits → ∀ rest, digitAhead (digits ++ rest) = true := by
    rintro (_ | ⟨c, digits⟩) ⟨hnonempty, hdigits⟩ rest
    · exact absurd rfl hnonempty
    · exact hdigits c List.mem_cons_self
  -- Behind the mantissa the scanner is in a state without an exponent.
  have hmantissa : ∀ {mantissa}, IsMantissa mantissa → ∃ seenPoint, ∀ rest,
      (scanDecimal false false (mantissa ++ rest)).lexeme =
        mantissa ++ (scanDecimal seenPoint false rest).lexeme := by
    intro mantissa hmantissa
    cases hmantissa with
    | whole hdigits => exact ⟨false, fun rest => by rw [scanDecimal_digits hdigits.2]⟩
    | @fraction whole decimals hwhole hdecimals =>
      refine ⟨true, fun rest => ?_⟩
      rw [List.append_assoc, List.cons_append, scanDecimal_digits hwhole,
        scanDecimal_point (hahead hdecimals rest), NumberScan.after,
        scanDecimal_digits hdecimals.2]
      simp
  cases h with
  | plain hform =>
    obtain ⟨seenPoint, hscan⟩ := hmantissa hform
    rw [hscan]
    exact List.prefix_append _ _
  | @scientific mantissa head digits hform hhead hdigits =>
    obtain ⟨seenPoint, hscan⟩ := hmantissa hform
    rw [List.append_assoc, hscan, List.append_assoc,
      scanDecimal_exponent hhead (hahead hdigits rest), scanDecimal_digits hdigits.2]
    simp

/-! ## What has been read -/

/-- What the scanner has read with its two flags: digits, a point and digits, or an exponent with
    maybe no digits yet. -/
inductive Read : Bool → Bool → List Char → Prop
  | whole {digits} (digits_form : ∀ c ∈ digits, c.isDigit = true) : Read false false digits
  | decimals {whole decimals} (whole_form : ∀ c ∈ whole, c.isDigit = true)
      (decimals_form : ∀ c ∈ decimals, c.isDigit = true) :
    Read true false (whole ++ '.' :: decimals)
  | exponent {seenPoint mantissa head digits} (mantissa_form : IsMantissa mantissa)
      (head_form : IsExponentHead head) (digits_form : ∀ c ∈ digits, c.isDigit = true) :
    Read seenPoint true (mantissa ++ (head ++ digits))

/-- With one more digit it is a number. -/
theorem Read.digit {seenPoint seenExponent : Bool} {read : List Char} {c : Char}
    (h : Read seenPoint seenExponent read) (hc : c.isDigit = true) :
    Read seenPoint seenExponent (read ++ [c]) ∧ IsNumber (read ++ [c]) := by
  have hlast : IsDigits [c] := ⟨by simp, by simpa using hc⟩
  cases h with
  | whole hdigits =>
    have hmore := IsDigits.append hdigits hlast
    exact ⟨.whole hmore.2, .plain (.whole hmore)⟩
  | decimals hwhole hdecimals =>
    have hmore := IsDigits.append hdecimals hlast
    rw [List.append_assoc, List.cons_append]
    exact ⟨.decimals hwhole hmore.2, .plain (.fraction hwhole hmore)⟩
  | exponent hmantissa hhead hdigits =>
    have hmore := IsDigits.append hdigits hlast
    rw [List.append_assoc, List.append_assoc]
    exact ⟨.exponent hmantissa hhead hmore.2, .scientific hmantissa hhead hmore⟩

/-- A number without an exponent is a mantissa. -/
theorem Read.mantissa {seenPoint : Bool} {read : List Char} (h : Read seenPoint false read)
    (hnumber : IsNumber read) : IsMantissa read := by
  obtain ⟨last, heq, hlast⟩ := hnumber.getLast?
  cases h with
  | whole hdigits =>
    refine .whole ⟨?_, hdigits⟩
    rintro rfl
    cases heq
  | @decimals whole decimals hwhole hdecimals =>
    refine .fraction hwhole ⟨?_, hdecimals⟩
    rintro rfl
    rw [List.getLast?_concat] at heq
    cases heq
    cases hlast

/-- How the scanner stops behind what it has read: at the end of a number, or at a fault, where what
    it takes of the number's continuation has no digits. -/
inductive Stops (read text : List Char) : NumberScan → Prop
  | done (more behind) (split : text = more ++ behind) (number : IsNumber (read ++ more))
      (ended : resumesNumber behind = false) : Stops read text ⟨more, none⟩
  | fault {bad fault} (more behind) (split : text = more ++ behind)
      (number : IsNumber (read ++ more)) (bad_form : ∀ c ∈ bad, c.isDigit = false)
      (resumes : resumesNumber behind = true) : Stops read text ⟨more ++ bad, some fault⟩

theorem Stops.behind {read head rest : List Char} {scan : NumberScan}
    (h : Stops (read ++ head) rest scan) :
    Stops read (head ++ rest) ⟨head ++ scan.lexeme, scan.fault⟩ := by
  cases h with
  | done more behind split number ended =>
    rw [List.append_assoc] at number
    exact .done _ behind (by rw [split, List.append_assoc]) number ended
  | @fault bad fault more behind split number bad_form resumes =>
    rw [List.append_assoc] at number
    rw [← List.append_assoc]
    exact .fault _ behind (by rw [split, List.append_assoc]) number bad_form resumes

/-- The scanner stops behind a number if it has read one, or if a digit comes next, or else a first
    point with a digit behind it. -/
theorem scanDecimal_stops {seenPoint seenExponent : Bool} {read text : List Char}
    (hread : Read seenPoint seenExponent read)
    (hready : IsNumber read ∨ digitAhead text = true ∨
      seenPoint = false ∧ seenExponent = false ∧ ∃ rest, text = '.' :: rest ∧ digitAhead rest = true) :
    Stops read text (scanDecimal seenPoint seenExponent text) := by
  have hnow : ∀ {read}, IsNumber read → IsNumber (read ++ []) := by
    intro read h
    rwa [List.append_nil]
  have hnumber_of_mark : ∀ {read rest : List Char} {c : Char} {seenPoint seenExponent : Bool},
      (IsNumber read ∨ digitAhead (c :: rest) = true ∨ seenPoint = false ∧ seenExponent = false ∧
        ∃ rest', c :: rest = '.' :: rest' ∧ digitAhead rest' = true) →
      ¬c.isDigit = true → isExponentMark c = true → IsNumber read := by
    rintro read rest c _ _ (hnumber | hdigit | ⟨_, _, _, heq, _⟩) hother hmark
    · exact hnumber
    · exact absurd hdigit hother
    · cases heq
      cases hmark
  fun_induction scanDecimal seenPoint seenExponent text generalizing read with
  | case1 seenPoint seenExponent =>
    have hnumber : IsNumber read := by simpa [digitAhead] using hready
    exact .done [] [] rfl (hnow hnumber) rfl
  | case2 seenPoint seenExponent c rest hdigit ih =>
    obtain ⟨hread, hnumber⟩ := hread.digit hdigit
    exact (ih hread (.inl hnumber)).behind
  | case3 seenPoint seenExponent c rest hdigit hpoint hseen =>
    obtain ⟨hc, hahead⟩ := Bool.and_eq_true_iff.mp hpoint
    have hnumber : IsNumber read := by
      rcases hready with hnumber | hdigit' | ⟨rfl, rfl, _⟩
      · exact hnumber
      · exact absurd hdigit' hdigit
      · cases hseen
    refine .fault [] _ rfl (hnow hnumber) ?_ ?_
    · simpa using hdigit
    · simp [resumesNumber, hahead, of_decide_eq_true hc]
  | case4 seenPoint seenExponent c rest hdigit hpoint hseen ih =>
    obtain ⟨hc, hahead⟩ := Bool.and_eq_true_iff.mp hpoint
    obtain rfl : c = '.' := of_decide_eq_true hc
    obtain ⟨rfl, rfl⟩ : seenPoint = false ∧ seenExponent = false := by
      simpa using hseen
    cases hread with
    | whole hdigits =>
      have hpoint := @Read.decimals read [] hdigits (by simp)
      exact (ih hpoint (.inr (.inl hahead))).behind
  | case5 seenPoint c rest hdigit hpoint hmark =>
    have hnumber : IsNumber read := by
      rcases hready with hnumber | hdigit' | ⟨_, h, _⟩
      · exact hnumber
      · exact absurd hdigit' hdigit
      · cases h
    refine .fault [] _ rfl (hnow hnumber) ?_ ?_
    · simpa using hdigit
    · simp [resumesNumber, hmark]
  | case6 seenPoint seenExponent c rest hdigit hpoint hmark hseen head behind hhead =>
    rename_i ih
    obtain rfl : seenExponent = false := by simpa using hseen
    have hnumber := hnumber_of_mark hready hdigit hmark
    rcases exponentHead_cases hmark rest with ⟨_, _, hsplit, hform, hahead, heq⟩ | ⟨_, _, heq⟩
    · rw [hhead] at heq
      cases heq
      rw [hsplit]
      have hexponent := @Read.exponent seenPoint _ _ [] (hread.mantissa hnumber) hform (by simp)
      rw [List.append_nil] at hexponent
      exact (ih hexponent (.inr (.inl hahead))).behind
    · rw [hhead] at heq
      cases heq
  | case7 seenPoint seenExponent c rest hdigit hpoint hmark hseen lexeme hhead =>
    have hnumber := hnumber_of_mark hready hdigit hmark
    rcases exponentHead_cases hmark rest with ⟨_, _, _, _, _, heq⟩ | ⟨_, hform, heq⟩
    · rw [hhead] at heq
      cases heq
    · rw [hhead] at heq
      cases heq
      refine .fault [] _ rfl (hnow hnumber) hform.isDigit_eq_false ?_
      simp [resumesNumber, hmark]
  | case8 seenPoint seenExponent c rest hdigit hpoint hmark =>
    have hnumber : IsNumber read := by
      rcases hready with hnumber | hdigit' | ⟨_, _, _, heq, hahead⟩
      · exact hnumber
      · exact absurd hdigit' hdigit
      · cases heq
        exact absurd (by simp [hahead]) hpoint
    refine .done [] _ rfl (hnow hnumber) ?_
    simpa [resumesNumber, hmark] using hpoint

/-! ## The longest number -/

/-- A number is no longer than what the scanner takes up to a fault, and that ends without a digit
    behind its number. -/
theorem IsNumber.length_le {other number bad : List Char} (hother : IsNumber other)
    (hbegins : other <+: number ++ bad) (hbad : ∀ c ∈ bad, c.isDigit = false) :
    other.length ≤ number.length := by
  refine Nat.le_of_not_lt fun hlonger => ?_
  obtain ⟨more, rfl⟩ := List.prefix_of_prefix_length_le (List.prefix_append number bad) hbegins
    (Nat.le_of_lt hlonger)
  have hmore : more <+: bad := (List.prefix_append_right_inj number).mp hbegins
  obtain ⟨last, hends, hlast⟩ := hother.getLast?
  rw [List.getLast?_append] at hends
  -- What the other number has more is not empty, so its last digit is there.
  cases hcases : more.getLast? with
  | none =>
    rw [List.getLast?_eq_none_iff.mp hcases] at hlonger
    simp at hlonger
  | some c =>
    rw [hcases, Option.some_or, Option.some.injEq] at hends
    have hdigit := hbad c (hmore.subset (List.mem_of_getLast? hcases))
    rw [hends, hlast] at hdigit
    cases hdigit

/-- The scanner finds the longest number that begins a text, and a fault in it exactly if the text
    goes on as if the number did. -/
theorem scanDecimal_longest {c : Char} {rest : List Char}
    (hbegins : c.isDigit = true ∨ c = '.' ∧ digitAhead rest = true) :
    ∃ number behind, c :: rest = number ++ behind ∧ IsLongest IsNumber (c :: rest) number ∧
      (resumesNumber behind = false ∧ scanDecimal false false (c :: rest) = ⟨number, none⟩ ∨
        resumesNumber behind = true ∧
          ∃ fault, (scanDecimal false false (c :: rest)).fault = some fault) := by
  have hstops : Stops [] (c :: rest) (scanDecimal false false (c :: rest)) := by
    refine scanDecimal_stops (.whole (by simp)) (.inr ?_)
    rcases hbegins with hdigit | ⟨rfl, hahead⟩
    · exact .inl hdigit
    · exact .inr ⟨rfl, rfl, rest, rfl, hahead⟩
  have hlongest : ∀ other, other <+: c :: rest → IsNumber other →
      other <+: (scanDecimal false false (c :: rest)).lexeme := by
    rintro other ⟨tail, htail⟩ hother
    rw [← htail]
    exact hother.prefix_scanDecimal tail
  generalize hscan : scanDecimal false false (c :: rest) = scan at hstops hlongest
  cases hstops with
  | done number behind split number_form ended =>
    refine ⟨number, behind, split, ⟨⟨behind, split.symm⟩, number_form, ?_⟩, .inl ⟨ended, rfl⟩⟩
    exact fun other hbegins hother => (hlongest other hbegins hother).length_le
  | @fault bad fault number behind split number_form bad_form resumes =>
    refine ⟨number, behind, split, ⟨⟨behind, split.symm⟩, number_form, ?_⟩,
      .inr ⟨resumes, fault, rfl⟩⟩
    exact fun other hbegins hother => hother.length_le (hlongest other hbegins hother) bad_form

end Token

/-! ## Hexadecimal numbers -/

namespace Decimal

/-- The number that hexadecimal digits are. -/
def hexNumber (digits : List Char) : Nat :=
  digits.foldl (fun n c => 16 * n + (hexValue? c).getD 0) 0

theorem mapM_hexValue? {digits : List Char} (h : ∀ c ∈ digits, (hexValue? c).isSome = true) :
    digits.mapM hexValue? = some (digits.map fun c => (hexValue? c).getD 0) := by
  induction digits with
  | nil => rfl
  | cons c digits ih =>
    obtain ⟨hfirst, hrest⟩ := List.forall_mem_cons.mp h
    obtain ⟨value, hvalue⟩ := Option.isSome_iff_exists.mp hfirst
    rw [List.mapM_cons, ih hrest, hvalue, List.map_cons, hvalue]
    rfl

/-- Hexadecimal digits are read as the number that they are, if a decimal can hold it. -/
theorem readHex_digits {digits : List Char} (hnonempty : digits ≠ [])
    (h : ∀ c ∈ digits, (hexValue? c).isSome = true) :
    readHex digits = ofNat? (hexNumber digits) := by
  have hplus : ∀ rest, digits ≠ '+' :: rest := by
    rintro rest rfl
    exact absurd (h '+' List.mem_cons_self) (by decide)
  unfold readHex
  split
  · rename_i rest
    exact absurd rfl (hplus rest)
  · simp only [List.isEmpty_eq_false_iff.mpr hnonempty, Bool.false_eq_true, if_false,
      mapM_hexValue? h, hexNumber, List.foldl_map]

theorem isSome_ofNat? {n : Nat} : (ofNat? n).isSome = true ↔ n < twoTo 96 := by
  unfold ofNat? make?
  split <;> simp_all

end Decimal

namespace Token

/-! ## The lexeme of a number -/

/-- The lexeme of a number that begins a text, and what makes it a token. A hexadecimal number takes
    all hexadecimal digits that follow its mark; there has to be one, and a decimal has to have room
    for the number. A decimal number is the longest one, the text must not go on as if it did, and it
    has to have a value. -/
inductive NumberLexeme (text : List Char) : List Char → Prop → Prop
  | hexadecimal {mark rest} (mark_form : mark = 'x' ∨ mark = 'X')
      (split : text = '0' :: mark :: rest) :
    NumberLexeme text ('0' :: mark :: rest.takeWhile isHexDigit)
      (rest.takeWhile isHexDigit ≠ [] ∧ Decimal.hexNumber (rest.takeWhile isHexDigit) < twoTo 96)
  | decimal {number behind}
      (noMark : ∀ mark rest, text = '0' :: mark :: rest → mark ≠ 'x' ∧ mark ≠ 'X')
      (split : text = number ++ behind) (longest : IsLongest IsNumber text number) :
    NumberLexeme text number
      (resumesNumber behind = false ∧ (Decimal.ofLiteral? number).isSome = true)

/-- The number is a token with this lexeme, which has a value, or else it is malformed. -/
structure NumberDecided (place : Place) (result : Except ParseError Scanned) (lexeme : List Char)
    (valid : Prop) : Prop where
  taken : valid → result = .ok (place.run .number lexeme)
  value : valid → (Decimal.ofLiteral? lexeme).isSome = true
  malformed : ¬valid → ∃ fault found, result = .error (place.error (.malformedNumber fault) found)

theorem numberToken_hex {place : Place} {mark : Char} (hmark : mark = 'x' ∨ mark = 'X')
    (rest : List Char) :
    NumberDecided place (numberToken place ('0' :: mark :: rest))
      ('0' :: mark :: rest.takeWhile isHexDigit)
      (rest.takeWhile isHexDigit ≠ [] ∧
        Decimal.hexNumber (rest.takeWhile isHexDigit) < twoTo 96) := by
  have hscan : scanNumber ('0' :: mark :: rest) = scanHex ['0', mark] rest := by
    rcases hmark with rfl | rfl <;> rfl
  have hliteral : ∀ digits,
      Decimal.ofLiteral? ('0' :: mark :: digits) = Decimal.readHex digits := by
    intro digits
    rcases hmark with rfl | rfl <;> rfl
  have hdigits : ∀ c ∈ rest.takeWhile isHexDigit, (Decimal.hexValue? c).isSome = true :=
    List.all_eq_true.mp List.all_takeWhile
  simp only [numberToken, hscan, scanHex]
  generalize rest.takeWhile isHexDigit = digits at hdigits
  by_cases hempty : digits = []
  · subst hempty
    exact ⟨fun h => absurd rfl h.1, fun h => absurd rfl h.1, fun _ => ⟨_, _, rfl⟩⟩
  · have hread : Decimal.ofLiteral? ('0' :: mark :: digits) =
        Decimal.ofNat? (Decimal.hexNumber digits) := by
      rw [hliteral, Decimal.readHex_digits hempty hdigits]
    simp only [List.isEmpty_eq_false_iff.mpr hempty, Bool.false_eq_true, if_false,
      List.cons_append, List.nil_append, hread]
    constructor
    case taken =>
      rintro ⟨_, hroom⟩
      obtain ⟨value, hvalue⟩ := Option.isSome_iff_exists.mp (Decimal.isSome_ofNat?.mpr hroom)
      rw [hvalue]
    case value =>
      rintro ⟨_, hroom⟩
      rw [hread]
      exact Decimal.isSome_ofNat?.mpr hroom
    case malformed =>
      intro h
      have hnone : Decimal.ofNat? (Decimal.hexNumber digits) = none := by
        rw [← Option.not_isSome_iff_eq_none, Decimal.isSome_ofNat?]
        exact fun hroom => h ⟨hempty, hroom⟩
      exact ⟨_, _, by rw [hnone]⟩

theorem numberToken_decimal {place : Place} {c : Char} {rest : List Char}
    (hbegins : c.isDigit = true ∨ c = '.' ∧ digitAhead rest = true)
    (hmark : ∀ mark tail, c :: rest = '0' :: mark :: tail → mark ≠ 'x' ∧ mark ≠ 'X') :
    ∃ number behind, c :: rest = number ++ behind ∧ IsLongest IsNumber (c :: rest) number ∧
      NumberDecided place (numberToken place (c :: rest)) number
        (resumesNumber behind = false ∧ (Decimal.ofLiteral? number).isSome = true) := by
  have hscan : scanNumber (c :: rest) = scanDecimal false false (c :: rest) :=
    scanNumber_decimal (fun tail h => (hmark 'x' tail h).1 rfl) fun tail h =>
      (hmark 'X' tail h).2 rfl
  obtain ⟨number, behind, hsplit, hlongest, houtcome⟩ := scanDecimal_longest hbegins
  refine ⟨number, behind, hsplit, hlongest, ?_⟩
  simp only [numberToken, hscan]
  rcases houtcome with ⟨hover, hdone⟩ | ⟨hresumes, fault, hfault⟩
  · rw [hdone]
    constructor
    case taken =>
      rintro ⟨_, hvalue⟩
      obtain ⟨value, hvalue⟩ := Option.isSome_iff_exists.mp hvalue
      simp only [hvalue]
    case value => exact fun h => h.2
    case malformed =>
      intro h
      have hnone : Decimal.ofLiteral? number = none := by
        rw [← Option.not_isSome_iff_eq_none]
        exact fun hvalue => h ⟨hover, hvalue⟩
      exact ⟨.outOfRange, number, by simp only [hnone]⟩
  · have hinvalid :
        ¬(resumesNumber behind = false ∧ (Decimal.ofLiteral? number).isSome = true) := by
      rw [hresumes]
      exact fun h => Bool.noConfusion h.1
    exact ⟨fun h => absurd h hinvalid, fun h => absurd h hinvalid, fun _ => ⟨_, _, by rw [hfault]⟩⟩

theorem scanToken_eq_numberToken {place : Place} {c : Char} {rest : List Char}
    (hbegins : c.isDigit = true ∨ c = '.' ∧ digitAhead rest = true) :
    scanToken place c rest = numberToken place (c :: rest) := by
  rcases hbegins with hdigit | ⟨rfl, hahead⟩
  · have hne : ∀ mark : Char, mark.isDigit = false → c ≠ mark := by
      rintro mark hmark rfl
      rw [hmark] at hdigit
      cases hdigit
    unfold scanToken
    rw [if_neg (hne '(' rfl), if_neg (hne ')' rfl), if_neg (hne ',' rfl), if_neg (hne '[' rfl),
      if_neg (hne ']' rfl), if_neg (hne '"' rfl), if_neg (by simp [hne '\'' rfl]),
      if_neg (hne '.' rfl), if_pos hdigit]
  · simp [scanToken, hahead]

/-- Every number has one lexeme, which is a token or malformed. -/
theorem scanToken_number {place : Place} {c : Char} {rest : List Char}
    (hbegins : c.isDigit = true ∨ c = '.' ∧ digitAhead rest = true) :
    ∃ lexeme valid, NumberLexeme (c :: rest) lexeme valid ∧
      NumberDecided place (scanToken place c rest) lexeme valid := by
  rw [scanToken_eq_numberToken hbegins]
  by_cases hhex : ∃ mark tail, c :: rest = '0' :: mark :: tail ∧ (mark = 'x' ∨ mark = 'X')
  · obtain ⟨mark, tail, htext, hmark⟩ := hhex
    rw [htext]
    exact ⟨_, _, .hexadecimal hmark rfl, numberToken_hex hmark tail⟩
  · have hmark : ∀ mark tail, c :: rest = '0' :: mark :: tail → mark ≠ 'x' ∧ mark ≠ 'X' := by
      intro mark tail htext
      rw [← not_or]
      exact fun h => hhex ⟨mark, tail, htext, h⟩
    obtain ⟨number, behind, hsplit, hlongest, hdecided⟩ := numberToken_decimal hbegins hmark
    exact ⟨number, _, .decimal hmark hsplit hlongest, hdecided⟩

theorem NumberLexeme.length_pos {text lexeme : List Char} {valid : Prop}
    (h : NumberLexeme text lexeme valid) : 0 < lexeme.length := by
  cases h with
  | hexadecimal => simp
  | decimal _ _ longest =>
    obtain ⟨last, hlast, _⟩ := longest.hasForm.getLast?
    exact List.length_pos_of_mem (List.mem_of_getLast? hlast)

/-! ## Places in a text -/

/-- From a text that begins behind a token of some kind at a position, the scanner takes tokens and
    comes to a place and the rest of the text there. -/
inductive ScansTo (place : Place) (rest : List Char) :
    Option TokenKind → Nat → List Char → List Token → Prop
  | here : ScansTo place rest place.previous place.position rest []
  | blank {previous position c text tokens} (blank : Text.isBlank c = true)
      (later : ScansTo place rest previous (position + 1) text tokens) :
    ScansTo place rest previous position (c :: text) tokens
  | token {previous position c text scanned tokens} (visible : Text.isBlank c = false)
      (found : scanToken ⟨place.language, previous, position⟩ c text = .ok scanned)
      (later : ScansTo place rest (some scanned.token.kind) (position + 1 + scanned.extra)
        (text.drop scanned.extra) tokens) :
    ScansTo place rest previous position (c :: text) (scanned.token :: tokens)

namespace ScansTo

variable {place : Place} {rest text : List Char} {previous : Option TokenKind} {position : Nat}
  {tokens : List Token}

/-- The tokens of the text are those up to the place and those behind it. -/
theorem scanFrom_eq (h : ScansTo place rest previous position text tokens) :
    scanFrom place.language previous position text =
      (scanFrom place.language place.previous place.position rest).map (tokens ++ ·) := by
  induction h with
  | here =>
    cases scanFrom place.language place.previous place.position rest <;> rfl
  | blank blank _ ih => rw [scanFrom, if_pos blank, ih]
  | token visible found _ ih =>
    rw [scanFrom, visible, if_neg Bool.false_ne_true, found]
    simp only [ih]
    cases scanFrom place.language place.previous place.position rest <;> rfl

/-- Positions count the characters that are passed. -/
theorem exists_before (h : ScansTo place rest previous position text tokens) :
    ∃ before, text = before ++ rest ∧ place.position = position + before.length := by
  induction h with
  | here => exact ⟨[], rfl, rfl⟩
  | @blank previous position c text tokens _ _ ih =>
    obtain ⟨before, rfl, hposition⟩ := ih
    exact ⟨c :: before, rfl, by rw [hposition, List.length_cons]; omega⟩
  | @token previous position c text scanned tokens visible found _ ih =>
    obtain ⟨before, hdrop, hposition⟩ := ih
    have hinside := (scanToken_placed visible found).inside
    rw [List.length_cons] at hinside
    refine ⟨c :: (text.take scanned.extra ++ before), ?_, ?_⟩
    · rw [List.cons_append, List.append_assoc, ← hdrop, List.take_append_drop]
    · rw [hposition, List.length_cons, List.length_append,
        List.length_take_of_le (Nat.le_of_lt_succ hinside)]
      omega

end ScansTo

end Token

/-- A number is evaluated to the value that its lexeme is read as. -/
theorem Scope.evaluateWithin_number {scope : Scope} {levels : Nat} {number : Token}
    {value : Decimal} (hkind : number.kind = .number)
    (h : Decimal.ofLiteral? number.lexeme.toList = some value) (children : List Tree) :
    scope.evaluateWithin (levels + 1) (.node number children) =
      .ok (.number (scope.settings.finishNumber value)) := by
  simp only [evaluateWithin, step, Tree.token, hkind, numberValue, h]
  rfl

namespace Token

/-- Where a number begins behind the tokens that are taken, its lexeme is the next token, whose nodes
    evaluate to the value that it is read as; or else the text is rejected there, as its number is
    malformed. -/
theorem scan_number {text : String} {tokens : List Token} {place : Place} {c : Char}
    {rest : List Char} (hscans : ScansTo place (c :: rest) none 0 text.toList tokens)
    (hbegins : c.isDigit = true ∨ c = '.' ∧ digitAhead rest = true) :
    (∃ before, text.toList = before ++ c :: rest ∧ place.position = before.length) ∧
    ∃ lexeme valid, NumberLexeme (c :: rest) lexeme valid ∧
      (valid → scan place.language text =
        (scanFrom place.language (some .number) (place.position + lexeme.length)
          ((c :: rest).drop lexeme.length)).map (tokens ++ place.token .number lexeme :: ·) ∧
        ∃ value, Decimal.ofLiteral? lexeme = some value ∧
          ∀ (scope : Scope) (levels : Nat) (children : List Tree),
            scope.evaluateWithin (levels + 1) (.node (place.token .number lexeme) children) =
              .ok (.number (scope.settings.finishNumber value))) ∧
      (¬valid → ∃ fault found,
        scan place.language text = .error (place.error (.malformedNumber fault) found)) := by
  have hblank : Text.isBlank c = false := by
    refine isBlank_of_isNumberChar ?_
    rcases hbegins with hdigit | ⟨rfl, _⟩
    · simp [isNumberChar, hdigit]
    · rfl
  obtain ⟨before, htext, hposition⟩ := hscans.exists_before
  refine ⟨⟨before, htext, by omega⟩, ?_⟩
  obtain ⟨lexeme, valid, hlexeme, hdecided⟩ := @scanToken_number place c rest hbegins
  have hscan : scan place.language text =
      (scanFrom place.language place.previous place.position (c :: rest)).map (tokens ++ ·) :=
    hscans.scanFrom_eq
  rw [scanFrom, hblank, if_neg Bool.false_ne_true] at hscan
  refine ⟨lexeme, valid, hlexeme, fun hvalid => ⟨?_, ?_⟩, fun hinvalid => ?_⟩
  · obtain ⟨length, hlength⟩ : ∃ length, lexeme.length = length + 1 :=
      ⟨lexeme.length - 1, by have := hlexeme.length_pos; omega⟩
    have hkind : (place.token .number lexeme).kind = .number := rfl
    have hnext : place.position + 1 + (lexeme.length - 1) = place.position + lexeme.length := by
      omega
    have hdrop : rest.drop (lexeme.length - 1) = (c :: rest).drop lexeme.length := by
      rw [hlength, List.drop_succ_cons, Nat.add_sub_cancel]
    rw [hscan, hdecided.taken hvalid]
    simp only [Place.run, hkind, hnext, hdrop]
    cases scanFrom place.language (some .number) (place.position + lexeme.length)
      ((c :: rest).drop lexeme.length) <;> rfl
  · obtain ⟨value, hvalue⟩ := Option.isSome_iff_exists.mp (hdecided.value hvalid)
    refine ⟨value, hvalue, fun scope levels children => ?_⟩
    exact Scope.evaluateWithin_number rfl (by simpa [Place.token] using hvalue) children
  · obtain ⟨fault, found, herror⟩ := hdecided.malformed hinvalid
    exact ⟨fault, found, by rw [hscan, herror]; rfl⟩

/-- A number with a point and an exponent, behind a parenthesis and a blank. -/
theorem scan_number_scientific :
    let place : Place := ⟨Configuration.standard.toLanguage, some .parenOpen, 2⟩
    let rest := ".50E+2 )".toList
    ScansTo place ('0' :: rest) none 0 "( 0.50E+2 )".toList [⟨.parenOpen, "(", 0, none⟩] ∧
    '0'.isDigit = true ∧
    ∃ lexeme valid, NumberLexeme ('0' :: rest) lexeme valid ∧
      (valid → ∃ value, Decimal.ofLiteral? lexeme = some value) ∧
      (¬valid → ∃ fault found, scan place.language "( 0.50E+2 )" =
        .error (place.error (.malformedNumber fault) found)) := by
  intro place rest
  have hparen : Text.isBlank '(' = false := by decide +kernel
  have hspace : Text.isBlank ' ' = true := by decide +kernel
  have hfound : scanToken ⟨place.language, none, 0⟩ '(' (" 0.50E+2 )".toList) =
      .ok ⟨⟨.parenOpen, "(", 0, none⟩, 0⟩ := rfl
  have hscans : ScansTo place ('0' :: rest) none 0 "( 0.50E+2 )".toList
      [⟨.parenOpen, "(", 0, none⟩] :=
    .token hparen hfound (.blank hspace .here)
  have hdigit : '0'.isDigit = true := rfl
  obtain ⟨_, lexeme, valid, hlexeme, htaken, hmalformed⟩ := scan_number hscans (.inl hdigit)
  refine ⟨hscans, hdigit, lexeme, valid, hlexeme, fun hvalid => ?_, hmalformed⟩
  obtain ⟨value, hvalue, _⟩ := (htaken hvalid).2
  exact ⟨value, hvalue⟩

end Token
end Formula

-- SUMMARY: A text that is written in capitals is split into the same tokens, in capitals, or has the same fault.
import Formula.Proofs.Result
import Formula.Proofs.Text.Capitals
import Formula.Proofs.Token.Layout

/-!
# Letter case in the text of a formula

The scanner finds the same tokens in a text that is written in capitals, with their lexemes in
capitals, or the same fault in the same place (`Token.scan_capitals`).
-/

namespace Formula

def ParseError.capitals (error : ParseError) : ParseError :=
  { error with lexeme := Text.capitals error.lexeme }

namespace Token

/-- The token with its lexeme in capitals. -/
def capitals (token : Token) : Token := { token with lexeme := Text.capitals token.lexeme }

def NumberScan.capitals (scan : NumberScan) : NumberScan :=
  { scan with lexeme := scan.lexeme.map Char.toUpper }

def Scanned.capitals (scanned : Scanned) : Scanned :=
  { scanned with token := scanned.token.capitals }

/-! ## Characters -/

section Characters

variable (c : Char)

@[simp] theorem startsName_toUpper : startsName c.toUpper = startsName c := by
  simp (disch := decide) only [startsName, Text.isAlphabetic_toUpper, Text.toUpper_beq]

@[simp] theorem continuesName_toUpper : continuesName c.toUpper = continuesName c := by
  simp (disch := decide) only [continuesName, Text.isAlphanumeric_toUpper, Text.toUpper_beq]

@[simp] theorem isOperatorChar_toUpper : isOperatorChar c.toUpper = isOperatorChar c := by
  simp (disch := decide) only [isOperatorChar, Text.isAlphanumeric_toUpper, Text.isBlank_toUpper,
    List.contains_cons, List.contains_nil, Text.toUpper_beq]

@[simp] theorem isHexDigit_toUpper : isHexDigit c.toUpper = isHexDigit c := by
  rw [isHexDigit, Decimal.hexValue?_toUpper, isHexDigit]

@[simp] theorem isSign_toUpper : isSign c.toUpper = isSign c := by
  simp (disch := decide) only [isSign, Text.toUpper_beq]

@[simp] theorem isExponentMark_toUpper : isExponentMark c.toUpper = isExponentMark c :=
  Text.toUpper_invariant (by decide) c

@[simp] theorem digitAhead_toUpper (text : List Char) :
    digitAhead (text.map Char.toUpper) = digitAhead text := by
  cases text with
  | nil => rfl
  | cons c rest => exact Text.isDigit_toUpper c

end Characters

/-! ## Numbers -/

theorem exponentHead_toUpper (mark : Char) (rest : List Char) :
    exponentHead mark.toUpper (rest.map Char.toUpper) =
      ((exponentHead mark rest).1.map (·.map Char.toUpper),
        (exponentHead mark rest).2.map Char.toUpper) := by
  unfold exponentHead
  cases rest with
  | nil => rfl
  | cons c after =>
    simp only [List.map_cons, isSign_toUpper, digitAhead_toUpper, Text.isDigit_toUpper]
    split
    · split <;> rfl
    · split <;> rfl

/-- Whether a point is followed by a digit. -/
theorem point_toUpper (c : Char) (rest : List Char) :
    (decide (c.toUpper = '.') && digitAhead (rest.map Char.toUpper)) =
      (decide (c = '.') && digitAhead rest) := by
  simp

theorem scanDecimal_toUpper (seenPoint seenExponent : Bool) (text : List Char) :
    scanDecimal seenPoint seenExponent (text.map Char.toUpper) =
      (scanDecimal seenPoint seenExponent text).capitals := by
  fun_induction scanDecimal seenPoint seenExponent text with
  | case1 =>
    rw [List.map_nil, scanDecimal]
    rfl
  | case2 _ _ c rest hdigit ih =>
    rw [List.map_cons, scanDecimal, if_pos (by rwa [Text.isDigit_toUpper]), ih]
    rfl
  | case3 _ _ c rest hdigit hpoint hseen =>
    rw [List.map_cons, scanDecimal, if_neg (by rwa [Text.isDigit_toUpper]),
      if_pos (by rwa [point_toUpper]), if_pos hseen]
    rfl
  | case4 _ _ c rest hdigit hpoint hseen ih =>
    rw [List.map_cons, scanDecimal, if_neg (by rwa [Text.isDigit_toUpper]),
      if_pos (by rwa [point_toUpper]), if_neg hseen, ih]
    rfl
  | case5 _ c rest hdigit hpoint hmark =>
    rw [List.map_cons, scanDecimal, if_neg (by rwa [Text.isDigit_toUpper]),
      if_neg (by rwa [point_toUpper]), if_pos (by rwa [isExponentMark_toUpper]), if_pos rfl]
    rfl
  | case6 _ _ c rest hdigit hpoint hmark hseen head behind hhead _ _ ih =>
    have hhead' := exponentHead_toUpper c rest
    rw [hhead] at hhead'
    rw [List.map_cons, scanDecimal, if_neg (by rwa [Text.isDigit_toUpper]),
      if_neg (by rwa [point_toUpper]), if_pos (by rwa [isExponentMark_toUpper]), if_neg hseen]
    split
    · rename_i h
      rw [hhead'] at h
      cases h
      simp only [ih, NumberScan.capitals, List.map_append]
      rfl
    · rename_i h
      rw [hhead'] at h
      cases h
  | case7 _ _ c rest hdigit hpoint hmark hseen lexeme hhead =>
    have hhead' := exponentHead_toUpper c rest
    rw [hhead] at hhead'
    rw [List.map_cons, scanDecimal, if_neg (by rwa [Text.isDigit_toUpper]),
      if_neg (by rwa [point_toUpper]), if_pos (by rwa [isExponentMark_toUpper]), if_neg hseen]
    split
    · rename_i h
      rw [hhead'] at h
      cases h
    · rename_i h
      rw [hhead'] at h
      cases h
      rfl
  | case8 _ _ c rest hdigit hpoint hmark =>
    rw [List.map_cons, scanDecimal, if_neg (by rwa [Text.isDigit_toUpper]),
      if_neg (by rwa [point_toUpper]), if_neg (by rwa [isExponentMark_toUpper])]
    rfl

theorem scanHex_toUpper (mark rest : List Char) :
    scanHex (mark.map Char.toUpper) (rest.map Char.toUpper) = (scanHex mark rest).capitals := by
  simp [scanHex, NumberScan.capitals, List.takeWhile_map, Function.comp_def]

theorem toUpper_ne_x (c : Char) : c.toUpper ≠ 'x' := by
  rcases Text.toUpper_cases c with hsame | ⟨code, hsmall, rfl⟩
  · intro h
    rw [hsame] at h
    rw [h] at hsame
    exact absurd hsame (by decide)
  · have hcapitals : ∀ code ∈ Text.smallLetters, (Char.ofNat code).toUpper ≠ 'x' := by
      decide
    exact hcapitals code hsmall

theorem eq_of_toUpper_eq_x {c : Char} (h : c.toUpper = 'X') : c = 'x' ∨ c = 'X' := by
  rcases Text.toUpper_cases c with hsame | ⟨code, hsmall, rfl⟩
  · exact .inr (hsame.symm.trans h)
  · have hcapitals : ∀ code ∈ Text.smallLetters, (Char.ofNat code).toUpper = 'X' →
        Char.ofNat code = 'x' := by
      decide
    exact .inl (hcapitals code hsmall h)

theorem scanNumber_decimal {text : List Char} (hsmall : ∀ rest, text ≠ '0' :: 'x' :: rest)
    (hcapital : ∀ rest, text ≠ '0' :: 'X' :: rest) :
    scanNumber text = scanDecimal false false text := by
  unfold scanNumber
  split
  · exact absurd rfl (hsmall _)
  · exact absurd rfl (hcapital _)
  · rfl

theorem scanNumber_toUpper (text : List Char) :
    scanNumber (text.map Char.toUpper) = (scanNumber text).capitals := by
  by_cases hsmall : ∃ rest, text = '0' :: 'x' :: rest
  · obtain ⟨rest, rfl⟩ := hsmall
    exact scanHex_toUpper ['0', 'x'] rest
  by_cases hcapital : ∃ rest, text = '0' :: 'X' :: rest
  · obtain ⟨rest, rfl⟩ := hcapital
    exact scanHex_toUpper ['0', 'X'] rest
  rw [not_exists] at hsmall hcapital
  rw [scanNumber_decimal hsmall hcapital, scanNumber_decimal, scanDecimal_toUpper]
  · intro rest h
    obtain ⟨_, _, rfl, _, h⟩ := List.map_eq_cons_iff.mp h
    obtain ⟨c, _, rfl, hc, _⟩ := List.map_eq_cons_iff.mp h
    exact toUpper_ne_x c hc
  · intro rest h
    obtain ⟨zero, _, rfl, hzero, h⟩ := List.map_eq_cons_iff.mp h
    obtain ⟨c, _, rfl, hc, _⟩ := List.map_eq_cons_iff.mp h
    rw [Text.toUpper_eq_iff (by decide)] at hzero
    rcases eq_of_toUpper_eq_x hc with rfl | rfl
    · exact hsmall _ (by rw [hzero])
    · exact hcapital _ (by rw [hzero])

/-! ## Names -/

section Names

variable (operators : OperatorTable) (name : List Char)

@[simp] theorem upper_toUpper : Text.upper (String.ofList (name.map Char.toUpper)) =
    Text.upper (String.ofList name) := by
  rw [← Text.capitals_ofList, Text.upper_capitals]

@[simp] theorem hasOperator_toUpper (fixity : Fixity) :
    operators.has fixity (String.ofList (name.map Char.toUpper)) =
      operators.has fixity (String.ofList name) := by
  simp only [OperatorTable.has, OperatorTable.find?, upper_toUpper]

@[simp] theorem hasFunction_toUpper (functions : FunctionTable) :
    functions.has (String.ofList (name.map Char.toUpper)) =
      functions.has (String.ofList name) := by
  simp only [FunctionTable.has, FunctionTable.find?, upper_toUpper]

@[simp] theorem operatorFixity?_toUpper (afterValue : Bool) :
    operatorFixity? operators afterValue (String.ofList (name.map Char.toUpper)) =
      operatorFixity? operators afterValue (String.ofList name) := by
  simp only [operatorFixity?, hasOperator_toUpper]

theorem longestOperator?_toUpper (afterValue : Bool) (run : List Char) (length : Nat) :
    longestOperator? operators afterValue (run.map Char.toUpper) length =
      (longestOperator? operators afterValue run length).map fun found =>
        (found.1.map Char.toUpper, found.2) := by
  induction length with
  | zero => rfl
  | succ length ih =>
    simp only [longestOperator?, ← List.map_take, operatorFixity?_toUpper, ih]
    split <;> rfl

end Names

/-! ## Tokens -/

variable {place : Place}

/-- The token in capitals, or the error with its lexeme in capitals. -/
abbrev inCapitals (result : Except ParseError Scanned) : Except ParseError Scanned :=
  mapBoth ParseError.capitals Scanned.capitals result

@[simp] theorem run_toUpper (kind : TokenKind) (lexeme : List Char) :
    place.run kind (lexeme.map Char.toUpper) = (place.run kind lexeme).capitals := by
  simp [Place.run, Place.token, Scanned.capitals, capitals]

@[simp] theorem single_toUpper (kind : TokenKind) (c : Char) :
    place.single kind c.toUpper = (place.single kind c).capitals := by
  simp only [Place.single, Place.token, Scanned.capitals, capitals, Text.capitals_ofList,
    List.map_cons, List.map_nil]

@[simp] theorem error_toUpper (fault : ParseFault) (lexeme : List Char) :
    place.error fault (lexeme.map Char.toUpper) = (place.error fault lexeme).capitals := by
  simp [Place.error, ParseError.capitals]

theorem numberToken_toUpper (text : List Char) :
    numberToken place (text.map Char.toUpper) = inCapitals (numberToken place text) := by
  simp only [numberToken, scanNumber_toUpper, NumberScan.capitals, Decimal.ofLiteral?_toUpper,
    error_toUpper, run_toUpper]
  split
  · rfl
  · split <;> rfl

theorem scanQuoted_toUpper {quote : Char} (hquote : quote.isAlpha = false) (rest : List Char) :
    scanQuoted quote (rest.map Char.toUpper) =
      (scanQuoted quote rest).map (·.map Char.toUpper) := by
  induction rest with
  | nil => rfl
  | cons c rest ih =>
    simp only [List.map_cons, scanQuoted, Text.toUpper_eq_iff hquote, ih]
    split
    · rfl
    · cases scanQuoted quote rest <;> rfl

theorem quotedToken_toUpper {quote : Char} (hquote : quote.isAlpha = false) (rest : List Char) :
    quotedToken place quote.toUpper (rest.map Char.toUpper) =
      inCapitals (quotedToken place quote rest) := by
  have hself : quote.toUpper = quote := (Text.toUpper_eq_iff hquote).mpr rfl
  have htext : quote :: rest.map Char.toUpper = (quote :: rest).map Char.toUpper := by
    rw [List.map_cons, hself]
  unfold quotedToken
  rw [hself, scanQuoted_toUpper hquote]
  cases scanQuoted quote rest with
  | none => simp only [Option.map_none, htext, error_toUpper, inCapitals, mapBoth]
  | some content => simp [Place.token, mapBoth, Scanned.capitals, capitals]

theorem arrayToken_toUpper (kind : TokenKind) (c : Char) :
    arrayToken place kind c.toUpper = inCapitals (arrayToken place kind c) := by
  have hone : [c.toUpper] = [c].map Char.toUpper := rfl
  unfold arrayToken
  rw [hone, error_toUpper, error_toUpper, single_toUpper]
  split
  · rfl
  · split <;> rfl

theorem separatorToken_toUpper (rest : List Char) :
    separatorToken place (rest.map Char.toUpper) = inCapitals (separatorToken place rest) := by
  have hpoint : ∀ fault, place.error fault ['.'] = (place.error fault ['.']).capitals :=
    fun fault => error_toUpper fault ['.']
  have hsingle : place.single .separator '.' = (place.single .separator '.').capitals :=
    single_toUpper .separator '.'
  unfold separatorToken
  cases rest with
  | nil =>
    simp only [List.map_nil, Bool.not_false, Bool.or_true, if_true]
    split <;> exact congrArg Except.error (hpoint _)
  | cons c rest =>
    simp only [List.map_cons, startsName_toUpper]
    split
    · exact congrArg Except.error (hpoint _)
    · split
      · exact congrArg Except.error (hpoint _)
      · exact congrArg Except.ok hsingle

theorem head?_trimStart_toUpper (text : List Char) :
    ((Text.trimStart (text.map Char.toUpper)).head? == some '(') =
      ((Text.trimStart text).head? == some '(') := by
  have htrim : Text.trimStart (text.map Char.toUpper) = (Text.trimStart text).map Char.toUpper := by
    simp [Text.trimStart, List.dropWhile_map, Function.comp_def]
  rw [htrim]
  cases Text.trimStart text with
  | nil => rfl
  | cons c rest =>
    simp only [List.map_cons, List.head?_cons, Option.some_beq_some]
    exact Text.toUpper_beq (by decide)

theorem nameToken_toUpper (text : List Char) :
    nameToken place (text.map Char.toUpper) = inCapitals (nameToken place text) := by
  have hname : (text.map Char.toUpper).takeWhile continuesName =
      (text.takeWhile continuesName).map Char.toUpper := by
    simp [List.takeWhile_map, Function.comp_def]
  simp only [nameToken, hname, List.length_map, ← List.map_drop, head?_trimStart_toUpper,
    run_toUpper, error_toUpper, hasFunction_toUpper, operatorFixity?_toUpper]
  split
  · rfl
  · split
    · rfl
    · split
      · rfl
      · split <;> rfl

@[simp] theorem hasAny_toUpper (operators : OperatorTable) (name : List Char) :
    operators.hasAny (String.ofList (name.map Char.toUpper)) =
      operators.hasAny (String.ofList name) := by
  simp only [OperatorTable.hasAny, hasOperator_toUpper]

theorem operatorToken_toUpper (c : Char) (text : List Char) :
    operatorToken place c.toUpper (text.map Char.toUpper) =
      inCapitals (operatorToken place c text) := by
  have hrun : (text.map Char.toUpper).takeWhile isOperatorChar =
      (text.takeWhile isOperatorChar).map Char.toUpper := by
    simp [List.takeWhile_map, Function.comp_def]
  have hone : [c.toUpper] = [c].map Char.toUpper := rfl
  simp only [operatorToken, hrun, ← List.map_take, List.isEmpty_map, List.length_map, hone,
    error_toUpper, longestOperator?_toUpper, hasAny_toUpper]
  generalize (text.takeWhile isOperatorChar).take (max place.language.operators.longestName 1) =
    run
  split
  · rfl
  · cases longestOperator? place.language.operators place.afterValue run run.length with
    | none => simp only [Option.map_none]; split <;> rfl
    | some found => simp only [Option.map_some, run_toUpper]; rfl

/-- The same token begins with a character and with its capital. -/
theorem scanToken_toUpper (c : Char) (rest : List Char) :
    scanToken place c.toUpper (rest.map Char.toUpper) = inCapitals (scanToken place c rest) := by
  have hmark : ∀ d : Char, d.isAlpha = false → (c.toUpper = d ↔ c = d) :=
    fun d h => Text.toUpper_eq_iff h
  have htext : c.toUpper :: rest.map Char.toUpper = (c :: rest).map Char.toUpper := rfl
  simp only [scanToken, htext, hmark _ (show '('.isAlpha = false by decide),
    hmark _ (show ')'.isAlpha = false by decide), hmark _ (show ','.isAlpha = false by decide),
    hmark _ (show '['.isAlpha = false by decide), hmark _ (show ']'.isAlpha = false by decide),
    hmark _ (show '"'.isAlpha = false by decide), hmark _ (show '\''.isAlpha = false by decide),
    hmark _ (show '.'.isAlpha = false by decide), digitAhead_toUpper, Text.isDigit_toUpper,
    startsName_toUpper, single_toUpper, arrayToken_toUpper, numberToken_toUpper,
    separatorToken_toUpper, nameToken_toUpper, operatorToken_toUpper]
  simp only [apply_ite inCapitals]
  -- Quotes are the only characters that become part of what is looked for.
  have hquoted : c.isAlpha = false → quotedToken place c.toUpper (rest.map Char.toUpper) =
      inCapitals (quotedToken place c rest) := fun h => quotedToken_toUpper h rest
  refine ite_congr rfl (fun _ => rfl) fun _ => ite_congr rfl (fun _ => rfl) fun _ =>
    ite_congr rfl (fun _ => rfl) fun _ => ite_congr rfl (fun _ => rfl) fun _ =>
    ite_congr rfl (fun _ => rfl) fun _ => ite_congr rfl ?double fun _ =>
    ite_congr rfl ?single fun _ => rfl
  case double =>
    rintro rfl
    exact hquoted (by decide)
  case single =>
    intro h
    have hc : c = '\'' := of_decide_eq_true (Bool.and_eq_true_iff.mp h).1
    exact hquoted (by rw [hc]; decide)

/-! ## All tokens -/

variable {L : Language}

theorem scanFrom_toUpper (previous : Option TokenKind) (position : Nat) (text : List Char) :
    scanFrom L previous position (text.map Char.toUpper) =
      mapBoth ParseError.capitals (List.map capitals) (scanFrom L previous position text) := by
  fun_induction scanFrom L previous position text with
  | case1 =>
    rw [List.map_nil, scanFrom]
    rfl
  | case2 previous position c rest hblank ih =>
    rw [List.map_cons, scanFrom, if_pos (by rwa [Text.isBlank_toUpper]), ih]
  | case3 previous position c rest hblank error herror =>
    rw [List.map_cons, scanFrom, if_neg (by rwa [Text.isBlank_toUpper]), scanToken_toUpper, herror]
    rfl
  | case4 previous position c rest hblank scanned hscanned error herror ih =>
    rw [List.map_cons, scanFrom, if_neg (by rwa [Text.isBlank_toUpper]), scanToken_toUpper,
      hscanned]
    simp only [inCapitals, mapBoth, Scanned.capitals, capitals, ← List.map_drop, ih, herror]
  | case5 previous position c rest hblank scanned hscanned tokens htokens ih =>
    rw [List.map_cons, scanFrom, if_neg (by rwa [Text.isBlank_toUpper]), scanToken_toUpper,
      hscanned]
    simp only [inCapitals, mapBoth, Scanned.capitals, capitals, ← List.map_drop, ih, htokens]
    rfl

/-- A text in capitals is split into the same tokens, in capitals, or has the same fault. -/
theorem scan_capitals (text : String) : scan L (Text.capitals text) =
    mapBoth ParseError.capitals (List.map capitals) (scan L text) := by
  rw [scan, Text.toList_capitals]
  exact scanFrom_toUpper none 0 text.toList

end Token
end Formula

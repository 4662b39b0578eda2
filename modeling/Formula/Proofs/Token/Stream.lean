-- SUMMARY: What the scanner promises of a list of tokens: which kinds follow each other, and which names are known.
import Formula.Proofs.Text.Letter
import Formula.Token.Scanner

/-!
# Streams of tokens

The kind of the token before decides what a character begins, so not every list of tokens comes out
of the scanner. `Token.Stream` is what the parser may rely on: what continues an operand stands
behind one, a parenthesis comes after a function and a name after a separator, and the language
knows every operator and function.
-/

namespace Formula
namespace Token

variable {L : Language}

/-! ## Streams -/

/-- What the scanner promises of a token behind one of the given kind. -/
structure Fits (L : Language) (previous : Option TokenKind) (token : Token) : Prop where
  /-- What continues an operand stands behind one. -/
  behindValue : token.kind = .infixOperator ∨ token.kind = .postfixOperator ∨
    token.kind = .arrayOpen ∨ token.kind = .separator →
    ∃ kind, previous = some kind ∧ kind.endsValue = true
  /-- An operator before its operand stands behind none. -/
  beforeValue : token.kind = .prefixOperator →
    ∀ kind, previous = some kind → kind.endsValue = false
  afterFunction : previous = some .function → token.kind = .parenOpen
  afterSeparator : previous = some .separator → token.kind = .name
  knownOperator : ∀ fixity : Fixity, token.kind = fixity.tokenKind →
    (L.operators.find? fixity token.lexeme).isSome = true
  knownFunction : token.kind = .function → (L.functions.find? token.lexeme).isSome = true
  notIndex : token.kind ≠ .arrayIndex

/-- A list of tokens each of which fits behind the one before. The last one needs no other. -/
inductive Stream (L : Language) : Option TokenKind → List Token → Prop where
  | nil {previous} : previous ≠ some .function → previous ≠ some .separator → Stream L previous []
  | cons {previous token rest} : Fits L previous token → Stream L (some token.kind) rest →
    Stream L previous (token :: rest)

/-- What the text goes on with after a token of the given kind. -/
structure Ahead (previous : Option TokenKind) (text : List Char) : Prop where
  call : previous = some .function → (Text.trimStart text).head? = some '('
  field : previous = some .separator → ∃ c rest, text = c :: rest ∧ startsName c = true

/-- What is promised of the token that begins with a character, and of the text behind it. -/
structure Scanned.Sound (place : Place) (rest : List Char) (scanned : Scanned) : Prop where
  position : scanned.token.position = place.position
  fits : Fits place.language place.previous scanned.token
  ahead : Ahead (some scanned.token.kind) (rest.drop scanned.extra)

/-! ## Characters -/

theorem isBlank_of_startsName {c : Char} (h : startsName c = true) : Text.isBlank c = false := by
  cases hblank : Text.isBlank c with
  | false => rfl
  | true =>
    rcases Bool.or_eq_true_iff.mp h with halpha | hline
    · rw [Text.isAlphabetic_of_isBlank hblank] at halpha
      cases halpha
    · rw [eq_of_beq hline] at hblank
      revert hblank
      decide

theorem isDigit_of_startsName {c : Char} (h : startsName c = true) : c.isDigit = false := by
  cases hdigit : c.isDigit with
  | false => rfl
  | true =>
    rcases Bool.or_eq_true_iff.mp h with halpha | hline
    · rw [Text.isAlphabetic_of_isDigit hdigit] at halpha
      cases halpha
    · rw [eq_of_beq hline] at hdigit
      cases hdigit

theorem continuesName_of_startsName {c : Char} (h : startsName c = true) :
    continuesName c = true := by
  simp only [startsName, continuesName, Text.isAlphanumeric, Bool.or_eq_true] at h ⊢
  rcases h with h | h
  · exact .inl (.inl h)
  · exact .inr h

/-! ## Single tokens -/

/-- A token that no operator, function, separator or opening bracket is. -/
theorem Fits.of_operand {previous : Option TokenKind} {token : Token}
    (hkind : token.kind = .number ∨ token.kind = .text ∨ token.kind = .name ∨
      token.kind = .parenOpen ∨ token.kind = .parenClose ∨ token.kind = .comma ∨
      token.kind = .arrayClose)
    (hfunction : previous = some .function → token.kind = .parenOpen)
    (hseparator : previous = some .separator → token.kind = .name) : Fits L previous token := by
  have hoperator : ∀ fixity : Fixity, token.kind ≠ fixity.tokenKind := by
    intro fixity
    rcases hkind with h | h | h | h | h | h | h <;> rw [h] <;> cases fixity <;> decide
  constructor
  case behindValue =>
    intro h
    rcases hkind with h' | h' | h' | h' | h' | h' | h' <;> simp [h'] at h
  case beforeValue =>
    intro h
    exact absurd h (hoperator .before)
  case afterFunction => exact hfunction
  case afterSeparator => exact hseparator
  case knownOperator =>
    intro fixity h
    exact absurd h (hoperator fixity)
  case knownFunction =>
    intro h
    rcases hkind with h' | h' | h' | h' | h' | h' | h' <;> simp [h'] at h
  case notIndex =>
    intro h
    rcases hkind with h' | h' | h' | h' | h' | h' | h' <;> simp [h'] at h

theorem Ahead.of_ne {kind : TokenKind} {text : List Char} (hfunction : kind ≠ .function)
    (hseparator : kind ≠ .separator) : Ahead (some kind) text :=
  ⟨fun h => absurd (Option.some.inj h) hfunction, fun h => absurd (Option.some.inj h) hseparator⟩

theorem has_of_operatorFixity? {operators : OperatorTable} {afterValue : Bool} {name : String}
    {fixity : Fixity} (h : operatorFixity? operators afterValue name = some fixity) :
    operators.has fixity name = true ∧ (fixity = .before ↔ afterValue = false) := by
  unfold operatorFixity? at h
  split at h
  · rename_i hafter
    split at h
    · cases h
      exact ⟨‹_›, by simp [hafter]⟩
    · split at h
      · cases h
        exact ⟨‹_›, by simp [hafter]⟩
      · cases h
  · rename_i hafter
    split at h
    · cases h
      exact ⟨‹_›, by simpa using hafter⟩
    · cases h

theorem operatorFixity?_of_longest {operators : OperatorTable} {afterValue : Bool}
    {run lexeme : List Char} {length : Nat} {fixity : Fixity}
    (h : longestOperator? operators afterValue run length = some (lexeme, fixity)) :
    operatorFixity? operators afterValue (String.ofList lexeme) = some fixity := by
  induction length with
  | zero => cases h
  | succ length ih =>
    simp only [longestOperator?] at h
    split at h
    · cases h
      assumption
    · exact ih h

/-- An operator that the scanner finds is known, and stands where it may. -/
theorem sound_of_operator {place : Place} {rest lexeme : List Char} {fixity : Fixity}
    (hfunction : place.previous ≠ some .function) (hseparator : place.previous ≠ some .separator)
    (h : operatorFixity? place.language.operators place.afterValue (String.ofList lexeme) =
      some fixity) : (place.run fixity.tokenKind lexeme).Sound place rest := by
  obtain ⟨hhas, hbefore⟩ := has_of_operatorFixity? h
  refine ⟨rfl, ⟨?_, ?_, fun h => absurd h hfunction, fun h => absurd h hseparator, ?_, ?_, ?_⟩, ?_⟩
  · intro hkind
    have hafter : place.afterValue = true := by
      cases fixity with
      | before => simp [Place.run, Place.token, Fixity.tokenKind] at hkind
      | after => simpa using hbefore
      | between => simpa using hbefore
    unfold Place.afterValue at hafter
    split at hafter
    · exact ⟨_, by assumption, hafter⟩
    · cases hafter
  · intro hkind kind hprevious
    have hafter : place.afterValue = false := by
      cases fixity with
      | before => exact hbefore.mp rfl
      | after => cases hkind
      | between => cases hkind
    simpa [Place.afterValue, hprevious] using hafter
  · intro other hother
    have : other = fixity := by
      have h : fixity.tokenKind.fixity? = other.tokenKind.fixity? := congrArg _ hother
      simpa [Fixity.fixity?_tokenKind] using h.symm
    subst this
    exact hhas
  · intro hkind
    cases fixity <;> cases hkind
  · intro hkind
    cases fixity <;> cases hkind
  · cases fixity <;> exact .of_ne TokenKind.noConfusion TokenKind.noConfusion

theorem sound_of_operand {place : Place} {rest : List Char} {scanned : Scanned}
    (hposition : scanned.token.position = place.position)
    (hkind : scanned.token.kind = .number ∨ scanned.token.kind = .text ∨
      scanned.token.kind = .name ∨ scanned.token.kind = .parenOpen ∨
      scanned.token.kind = .parenClose ∨ scanned.token.kind = .comma ∨
      scanned.token.kind = .arrayClose)
    (hfunction : place.previous = some .function → scanned.token.kind = .parenOpen)
    (hseparator : place.previous = some .separator → scanned.token.kind = .name) :
    scanned.Sound place rest := by
  refine ⟨hposition, .of_operand hkind hfunction hseparator, .of_ne ?_ ?_⟩ <;>
    rcases hkind with h | h | h | h | h | h | h <;> rw [h] <;> decide

theorem numberToken_sound {place : Place} {text rest : List Char} {scanned : Scanned}
    (hfunction : place.previous ≠ some .function) (hseparator : place.previous ≠ some .separator)
    (h : numberToken place text = .ok scanned) : scanned.Sound place rest := by
  simp only [numberToken] at h
  split at h
  · cases h
  · split at h
    · cases h
    · cases h
      exact sound_of_operand rfl (.inl rfl) (fun h => absurd h hfunction)
        (fun h => absurd h hseparator)

theorem quotedToken_sound {place : Place} {quote : Char} {text rest : List Char} {scanned : Scanned}
    (hfunction : place.previous ≠ some .function) (hseparator : place.previous ≠ some .separator)
    (h : quotedToken place quote text = .ok scanned) : scanned.Sound place rest := by
  unfold quotedToken at h
  split at h
  · cases h
  · cases h
    exact sound_of_operand rfl (.inr (.inl rfl)) (fun h => absurd h hfunction)
      (fun h => absurd h hseparator)

theorem afterValue_eq_true {place : Place} (h : place.afterValue = true) :
    ∃ kind, place.previous = some kind ∧ kind.endsValue = true := by
  unfold Place.afterValue at h
  split at h
  · exact ⟨_, by assumption, h⟩
  · cases h

/-- What continues an operand and is no operator. -/
theorem sound_of_continuation {place : Place} {kind : TokenKind} {c : Char} {rest : List Char}
    (hkind : kind = .arrayOpen ∨ kind = .separator) (hvalue : place.afterValue = true)
    (hahead : Ahead (some kind) rest) : (place.single kind c).Sound place rest := by
  obtain ⟨previous, hprevious, hends⟩ := afterValue_eq_true hvalue
  refine ⟨rfl, ⟨fun _ => ⟨previous, hprevious, hends⟩, ?_, ?_, ?_, ?_, ?_, ?_⟩, hahead⟩
  · rcases hkind with rfl | rfl <;> rintro ⟨⟩
  · rw [hprevious]
    rintro ⟨⟩
    cases hends
  · rw [hprevious]
    rintro ⟨⟩
    cases hends
  · intro fixity
    rcases hkind with rfl | rfl <;> cases fixity <;> rintro ⟨⟩
  · rcases hkind with rfl | rfl <;> rintro ⟨⟩
  · rcases hkind with rfl | rfl <;> rintro ⟨⟩

theorem arrayToken_sound {place : Place} {kind : TokenKind} {c : Char} {rest : List Char}
    {scanned : Scanned} (hkind : kind = .arrayOpen ∨ kind = .arrayClose)
    (hfunction : place.previous ≠ some .function) (hseparator : place.previous ≠ some .separator)
    (h : arrayToken place kind c = .ok scanned) : scanned.Sound place rest := by
  unfold arrayToken at h
  split at h
  · cases h
  · split at h
    · cases h
    · rename_i hplace
      cases h
      rcases hkind with rfl | rfl
      · have hvalue : place.afterValue = true := by simpa using hplace
        exact sound_of_continuation (.inl rfl) hvalue (.of_ne (by decide) (by decide))
      · exact sound_of_operand rfl (by simp [Place.single, Place.token])
          (fun h => absurd h hfunction) (fun h => absurd h hseparator)

theorem separatorToken_sound {place : Place} {rest : List Char} {scanned : Scanned}
    (h : separatorToken place rest = .ok scanned) : scanned.Sound place rest := by
  unfold separatorToken at h
  cases rest with
  | nil =>
    simp only [Bool.not_false, Bool.or_true, if_true] at h
    split at h <;> cases h
  | cons c rest =>
    simp only at h
    split at h
    · cases h
    · split at h
      · cases h
      · rename_i hplace
        cases h
        simp only [Bool.or_eq_true, Bool.not_eq_true', not_or, Bool.not_eq_false] at hplace
        exact sound_of_continuation (.inr rfl) hplace.1
          ⟨fun h => (nomatch h), fun _ => ⟨c, rest, rfl, hplace.2⟩⟩

theorem nameToken_sound {place : Place} {c : Char} {rest : List Char} {scanned : Scanned}
    (hstarts : startsName c = true) (hfunction : place.previous ≠ some .function)
    (h : nameToken place (c :: rest) = .ok scanned) : scanned.Sound place rest := by
  have hname : (c :: rest).takeWhile continuesName = c :: rest.takeWhile continuesName := by
    rw [List.takeWhile_cons_of_pos (continuesName_of_startsName hstarts)]
  simp only [nameToken, hname] at h
  generalize hlexeme : c :: rest.takeWhile continuesName = lexeme at h
  split at h
  · cases h
    exact sound_of_operand rfl (by simp [Place.run, Place.token]) (fun h => absurd h hfunction)
      (fun _ => rfl)
  · rename_i hseparator
    split at h
    · rename_i hcall
      obtain ⟨hparen, hknown⟩ := Bool.and_eq_true_iff.mp hcall
      cases h
      subst hlexeme
      refine ⟨rfl, ⟨?_, ?_, fun h => absurd h hfunction, fun h => absurd h hseparator, ?_,
        fun _ => hknown, ?_⟩, ⟨fun _ => eq_of_beq hparen, ?_⟩⟩
      · simp [Place.run, Place.token]
      · rintro ⟨⟩
      · intro fixity
        cases fixity <;> rintro ⟨⟩
      · rintro ⟨⟩
      · rintro ⟨⟩
    · split at h
      · cases h
        exact sound_of_operator hfunction hseparator (by assumption)
      · split at h
        · cases h
        · cases h
          exact sound_of_operand rfl (by simp [Place.run, Place.token])
            (fun h => absurd h hfunction) (fun _ => rfl)

theorem operatorToken_sound {place : Place} {c : Char} {text rest : List Char} {scanned : Scanned}
    (hfunction : place.previous ≠ some .function) (hseparator : place.previous ≠ some .separator)
    (h : operatorToken place c text = .ok scanned) : scanned.Sound place rest := by
  simp only [operatorToken] at h
  split at h
  · cases h
  · split at h
    · cases h
      exact sound_of_operator hfunction hseparator (operatorFixity?_of_longest (by assumption))
    · split at h <;> cases h

/-- The part of the scanner that finds the token at a character. -/
inductive Finds (place : Place) (rest : List Char) : Char → Scanned → Prop
  | parenOpen : Finds place rest '(' (place.single .parenOpen '(')
  | parenClose : Finds place rest ')' (place.single .parenClose ')')
  | comma : Finds place rest ',' (place.single .comma ',')
  | arrayOpen {scanned} (found : arrayToken place .arrayOpen '[' = .ok scanned) :
    Finds place rest '[' scanned
  | arrayClose {scanned} (found : arrayToken place .arrayClose ']' = .ok scanned) :
    Finds place rest ']' scanned
  | quoted {quote scanned}
      (mark : quote = '"' ∨ quote = '\'' ∧ place.language.settings.singleQuotes = true)
      (found : quotedToken place quote rest = .ok scanned) : Finds place rest quote scanned
  | number {c scanned} (begins : c.isDigit = true ∨ c = '.' ∧ digitAhead rest = true)
      (found : numberToken place (c :: rest) = .ok scanned) : Finds place rest c scanned
  | separator {scanned} (found : separatorToken place rest = .ok scanned) :
    Finds place rest '.' scanned
  | name {c scanned} (starts : startsName c = true)
      (found : nameToken place (c :: rest) = .ok scanned) : Finds place rest c scanned
  | operator {c scanned} (noParen : c ≠ '(') (noName : startsName c = false)
      (found : operatorToken place c (c :: rest) = .ok scanned) : Finds place rest c scanned

theorem finds_of_scanToken {place : Place} {c : Char} {rest : List Char} {scanned : Scanned}
    (h : scanToken place c rest = .ok scanned) : Finds place rest c scanned := by
  unfold scanToken at h
  by_cases hparen : c = '('
  · subst hparen
    cases h
    exact .parenOpen
  rw [if_neg hparen] at h
  by_cases hclose : c = ')'
  · subst hclose
    cases h
    exact .parenClose
  rw [if_neg hclose] at h
  by_cases hcomma : c = ','
  · subst hcomma
    cases h
    exact .comma
  rw [if_neg hcomma] at h
  by_cases hopen : c = '['
  · subst hopen
    exact .arrayOpen h
  rw [if_neg hopen] at h
  by_cases hend : c = ']'
  · subst hend
    exact .arrayClose h
  rw [if_neg hend] at h
  by_cases hdouble : c = '"'
  · rw [if_pos hdouble] at h
    exact .quoted (.inl hdouble) h
  rw [if_neg hdouble] at h
  by_cases hsingle : (c = '\'' && place.language.settings.singleQuotes) = true
  · rw [if_pos hsingle] at h
    obtain ⟨hquote, hallowed⟩ := Bool.and_eq_true_iff.mp hsingle
    exact .quoted (.inr ⟨of_decide_eq_true hquote, hallowed⟩) h
  rw [if_neg hsingle] at h
  by_cases hpoint : c = '.'
  · rw [if_pos hpoint] at h
    by_cases hahead : digitAhead rest = true
    · rw [if_pos hahead] at h
      exact .number (.inr ⟨hpoint, hahead⟩) h
    · rw [if_neg hahead] at h
      subst hpoint
      exact .separator h
  rw [if_neg hpoint] at h
  by_cases hdigit : c.isDigit = true
  · rw [if_pos hdigit] at h
    exact .number (.inl hdigit) h
  rw [if_neg hdigit] at h
  by_cases hname : startsName c = true
  · rw [if_pos hname] at h
    exact .name hname h
  · rw [if_neg hname] at h
    exact .operator hparen (by simpa using hname) h

/-- A number does not begin as a name does, or with a parenthesis. -/
theorem ne_of_beginsNumber {c : Char} {rest : List Char}
    (h : c.isDigit = true ∨ c = '.' ∧ digitAhead rest = true) :
    c ≠ '(' ∧ startsName c = false := by
  rcases h with hdigit | ⟨rfl, _⟩
  · refine ⟨?_, ?_⟩
    · rintro rfl
      cases hdigit
    · cases hstarts : startsName c with
      | false => rfl
      | true =>
        rw [isDigit_of_startsName hstarts] at hdigit
        cases hdigit
  · decide

/-- What the scanner promises of one token. -/
theorem scanToken_sound {place : Place} {c : Char} {rest : List Char} {scanned : Scanned}
    (hahead : Ahead place.previous (c :: rest)) (hblank : Text.isBlank c = false)
    (h : scanToken place c rest = .ok scanned) : scanned.Sound place rest := by
  have hfunction : c ≠ '(' → place.previous ≠ some .function := by
    intro hnot hprevious
    exact hnot (by simpa [Text.trimStart, hblank] using hahead.call hprevious)
  have hseparator : startsName c = false → place.previous ≠ some .separator := by
    intro hnot hprevious
    obtain ⟨_, _, htext, hstarts⟩ := hahead.field hprevious
    cases htext
    rw [hstarts] at hnot
    cases hnot
  cases finds_of_scanToken h with
  | parenOpen =>
    exact sound_of_operand rfl (by simp [Place.single, Place.token]) (fun _ => rfl)
      (fun h => absurd h (hseparator (by decide)))
  | parenClose | comma =>
    exact sound_of_operand rfl (by simp [Place.single, Place.token])
      (fun h => absurd h (hfunction (by decide))) (fun h => absurd h (hseparator (by decide)))
  | arrayOpen found =>
    exact arrayToken_sound (.inl rfl) (hfunction (by decide)) (hseparator (by decide)) found
  | arrayClose found =>
    exact arrayToken_sound (.inr rfl) (hfunction (by decide)) (hseparator (by decide)) found
  | quoted mark found =>
    have hquote : c ≠ '(' ∧ startsName c = false := by
      rcases mark with rfl | ⟨rfl, _⟩ <;> decide
    exact quotedToken_sound (hfunction hquote.1) (hseparator hquote.2) found
  | number begins found =>
    obtain ⟨hparen, hname⟩ := ne_of_beginsNumber begins
    exact numberToken_sound (hfunction hparen) (hseparator hname) found
  | separator found => exact separatorToken_sound found
  | name starts found =>
    have hparen : c ≠ '(' := by
      rintro rfl
      revert starts
      decide
    exact nameToken_sound starts (hfunction hparen) found
  | operator noParen noName found =>
    exact operatorToken_sound (hfunction noParen) (hseparator noName) found

/-! ## All tokens -/

theorem Ahead.of_blank {previous : Option TokenKind} {c : Char} {rest : List Char}
    (h : Ahead previous (c :: rest)) (hblank : Text.isBlank c = true) : Ahead previous rest := by
  refine ⟨fun hprevious => ?_, fun hprevious => ?_⟩
  · simpa [Text.trimStart, hblank] using h.call hprevious
  · obtain ⟨_, _, htext, hstarts⟩ := h.field hprevious
    cases htext
    rw [isBlank_of_startsName hstarts] at hblank
    cases hblank

/-- Each token fits behind the one before. -/
theorem scanFrom_stream {previous : Option TokenKind} {position : Nat} {text : List Char}
    {tokens : List Token} (hahead : Ahead previous text)
    (h : scanFrom L previous position text = .ok tokens) : Stream L previous tokens := by
  fun_induction scanFrom L previous position text generalizing tokens with
  | case1 previous position =>
    cases h
    refine .nil (fun h => ?_) (fun h => ?_)
    · cases hahead.call h
    · obtain ⟨_, _, htext, _⟩ := hahead.field h
      cases htext
  | case2 previous position c rest hblank ih =>
    exact ih (hahead.of_blank hblank) h
  | case3 => cases h
  | case4 => cases h
  | case5 previous position c rest hblank scanned hscanned ts hrest ih =>
    cases h
    have hsound := scanToken_sound hahead (by simpa using hblank) hscanned
    exact .cons hsound.fits (ih hsound.ahead hrest)

/-- Each token begins behind the one before. -/
theorem scanFrom_positions {previous : Option TokenKind} {position : Nat} {text : List Char}
    {tokens : List Token} (hahead : Ahead previous text)
    (h : scanFrom L previous position text = .ok tokens) :
    tokens.Pairwise (fun a b => a.position < b.position) ∧
      ∀ token ∈ tokens, position ≤ token.position := by
  fun_induction scanFrom L previous position text generalizing tokens with
  | case1 previous position =>
    cases h
    exact ⟨.nil, by simp⟩
  | case2 previous position c rest hblank ih =>
    obtain ⟨hpairs, hall⟩ := ih (hahead.of_blank hblank) h
    exact ⟨hpairs, fun token htoken => Nat.le_of_succ_le (hall token htoken)⟩
  | case3 => cases h
  | case4 => cases h
  | case5 previous position c rest hblank scanned hscanned ts hrest ih =>
    cases h
    have hsound := scanToken_sound hahead (by simpa using hblank) hscanned
    obtain ⟨hpairs, hall⟩ := ih hsound.ahead hrest
    have hposition : scanned.token.position = position := hsound.position
    refine ⟨.cons (fun token htoken => ?_) hpairs, fun token htoken => ?_⟩
    · have := hall token htoken
      omega
    · rcases List.mem_cons.mp htoken with rfl | htoken
      · exact Nat.le_of_eq hposition.symm
      · have := hall token htoken
        omega

theorem Ahead.start {text : List Char} : Ahead none text := ⟨nofun, nofun⟩

/-- What is promised of the tokens of a formula's text. -/
theorem scan_stream {text : String} {tokens : List Token} (h : scan L text = .ok tokens) :
    Stream L none tokens :=
  scanFrom_stream .start h

/-- The places of the tokens increase. -/
theorem scan_positions {text : String} {tokens : List Token} (h : scan L text = .ok tokens) :
    tokens.Pairwise fun a b => a.position < b.position :=
  (scanFrom_positions .start h).1

/-! ## Numbers -/

/-- A number is written so that it has a value. -/
def Readable (token : Token) : Prop :=
  token.kind = .number → (Decimal.ofLiteral? token.lexeme.toList).isSome = true

theorem Readable.of_ne {token : Token} (h : token.kind ≠ .number) : token.Readable :=
  fun hkind => absurd hkind h

theorem Readable.of_fixity {token : Token} {fixity : Fixity} (h : token.kind = fixity.tokenKind) :
    token.Readable :=
  .of_ne (by rw [h]; cases fixity <;> decide)

theorem scanToken_readable {place : Place} {c : Char} {rest : List Char} {scanned : Scanned}
    (h : scanToken place c rest = .ok scanned) : scanned.token.Readable := by
  cases finds_of_scanToken h with
  | parenOpen | parenClose | comma => exact .of_ne (by simp [Place.single, Place.token])
  | arrayOpen found | arrayClose found =>
    unfold arrayToken at found
    split at found
    · cases found
    · split at found
      · cases found
      · cases found
        exact .of_ne (by simp [Place.single, Place.token])
  | quoted mark found =>
    unfold quotedToken at found
    split at found
    · cases found
    · cases found
      exact .of_ne (by simp [Place.token])
  | number begins found =>
    simp only [numberToken] at found
    split at found
    · cases found
    · split at found
      · cases found
      · rename_i value hvalue
        cases found
        intro _
        simp [Place.run, Place.token, hvalue]
  | separator found =>
    unfold separatorToken at found
    cases rest with
    | nil =>
      simp only [Bool.not_false, Bool.or_true, if_true] at found
      split at found <;> cases found
    | cons c rest =>
      simp only at found
      split at found
      · cases found
      · split at found
        · cases found
        · cases found
          exact .of_ne (by simp [Place.single, Place.token])
  | name starts found =>
    simp only [nameToken] at found
    split at found
    · cases found
      exact .of_ne (by simp [Place.run, Place.token])
    · split at found
      · cases found
        exact .of_ne (by simp [Place.run, Place.token])
      · split at found
        · cases found
          exact .of_fixity rfl
        · split at found
          · cases found
          · cases found
            exact .of_ne (by simp [Place.run, Place.token])
  | operator noParen noName found =>
    simp only [operatorToken] at found
    split at found
    · cases found
    · split at found
      · cases found
        exact .of_fixity rfl
      · split at found <;> cases found

theorem scanFrom_readable {previous : Option TokenKind} {position : Nat} {text : List Char}
    {tokens : List Token} (h : scanFrom L previous position text = .ok tokens) :
    ∀ token ∈ tokens, token.Readable := by
  fun_induction scanFrom L previous position text generalizing tokens with
  | case1 previous position =>
    cases h
    simp
  | case2 previous position c rest hblank ih => exact ih h
  | case3 => cases h
  | case4 => cases h
  | case5 previous position c rest hblank scanned hscanned ts hrest ih =>
    cases h
    exact List.forall_mem_cons.mpr ⟨scanToken_readable hscanned, ih hrest⟩

/-- Every number of a formula's text has a value. -/
theorem scan_readable {text : String} {tokens : List Token} (h : scan L text = .ok tokens) :
    ∀ token ∈ tokens, token.Readable :=
  scanFrom_readable h

end Token
end Formula

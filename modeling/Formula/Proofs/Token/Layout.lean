-- SUMMARY: Where the tokens of a text stand in it: each one takes up a piece of the text, and between the pieces are blanks.
import Formula.Configuration
import Formula.Proofs.Result
import Formula.Proofs.Token.Stream

/-!
# Tokens in their text

A token is written with the characters of its lexeme, and text in quotes with a quote at each end
(`Token.Spelled`). The scanner takes a text apart into such pieces and the blanks around them, so
nothing of the text is lost (`Token.Layout`). `scan_layout` says the same of single positions.
-/

namespace Formula
namespace Token

variable {L : Language}

/-! ## Pieces of a text -/

/-- The number of characters that a token takes up in its text. -/
def width (token : Token) : Nat := token.lexeme.length + if token.kind = .text then 2 else 0

/-- The position behind the last character of a token. -/
def stop (token : Token) : Nat := token.position + token.width

/-- The characters that a token is written with. Text stands between two quotes of one kind and
    does not contain this quote. -/
inductive Spelled (L : Language) (token : Token) : List Char → Prop where
  | plain (kind : token.kind ≠ .text) (nonempty : token.lexeme.toList ≠ [])
      (unbroken : ∀ c ∈ token.lexeme.toList, Text.isBlank c = false) :
      Spelled L token token.lexeme.toList
  | quoted {quote : Char} (kind : token.kind = .text)
      (mark : quote = '"' ∨ quote = '\'' ∧ L.settings.singleQuotes = true)
      (inside : quote ∉ token.lexeme.toList) :
      Spelled L token (quote :: (token.lexeme.toList ++ [quote]))

theorem Spelled.length_eq {token : Token} {piece : List Char} (h : Spelled L token piece) :
    piece.length = token.width := by
  cases h with
  | plain kind => simp [width, kind, String.length_toList]
  | quoted kind => simp [width, kind, String.length_toList]

theorem Spelled.width_pos {token : Token} {piece : List Char} (h : Spelled L token piece) :
    0 < token.width := by
  rw [← h.length_eq, List.length_pos_iff]
  cases h with
  | plain _ nonempty => exact nonempty
  | quoted => simp

/-- The tokens are spelled one after the other in a text that begins at a position, and all else is
    blank. -/
inductive Layout (L : Language) : Nat → List Char → List Token → Prop where
  | nil {position gap} (blank : ∀ c ∈ gap, Text.isBlank c = true) : Layout L position gap []
  | cons {position gap token piece rest tokens} (blank : ∀ c ∈ gap, Text.isBlank c = true)
      (place : token.position = position + gap.length) (spelled : Spelled L token piece)
      (others : Layout L token.stop rest tokens) :
      Layout L position (gap ++ (piece ++ rest)) (token :: tokens)

/-- A blank in front moves what follows. -/
theorem Layout.blank {position : Nat} {c : Char} {rest : List Char} {tokens : List Token}
    (hblank : Text.isBlank c = true) (h : Layout L (position + 1) rest tokens) :
    Layout L position (c :: rest) tokens := by
  cases h with
  | nil blank => exact .nil (List.forall_mem_cons.mpr ⟨hblank, blank⟩)
  | @cons _ gap token piece rest tokens blank place spelled others =>
    change Layout L position ((c :: gap) ++ (piece ++ rest)) (token :: tokens)
    refine .cons (List.forall_mem_cons.mpr ⟨hblank, blank⟩) ?_ spelled others
    simp only [List.length_cons]
    omega

/-! ## The characters of names, operators and numbers -/

theorem isBlank_of_continuesName {c : Char} (h : continuesName c = true) :
    Text.isBlank c = false := by
  cases hblank : Text.isBlank c with
  | false => rfl
  | true =>
    rcases Bool.or_eq_true_iff.mp h with hletter | hline
    · rw [Text.isAlphanumeric_of_isBlank hblank] at hletter
      cases hletter
    · rw [eq_of_beq hline] at hblank
      revert hblank
      decide

theorem isBlank_of_isOperatorChar {c : Char} (h : isOperatorChar c = true) :
    Text.isBlank c = false := by
  simp only [isOperatorChar, Bool.not_eq_true', Bool.or_eq_false_iff] at h
  exact h.1.2

/-- The characters that numbers are written with. -/
def isNumberChar (c : Char) : Bool :=
  c.isDigit || isHexDigit c || isSign c || isExponentMark c || c == '.' || c == 'x' || c == 'X'

theorem blank_codes_number : ∀ code ∈ Text.whiteSpace.codes,
    isNumberChar (Char.ofNat code) = false := by
  decide +kernel

theorem isBlank_of_isNumberChar {c : Char} (h : isNumberChar c = true) :
    Text.isBlank c = false := by
  cases hblank : Text.isBlank c with
  | false => rfl
  | true =>
    have hnone := blank_codes_number c.toNat (CodeRanges.mem_codes_of_contains hblank)
    rw [Char.ofNat_toNat, h] at hnone
    cases hnone

/-! ## Numbers -/

/-- The text begins with these characters, and numbers are written with them. -/
def BeginsNumber (text lexeme : List Char) : Prop :=
  lexeme <+: text ∧ ∀ c ∈ lexeme, isNumberChar c = true

theorem BeginsNumber.nil {text : List Char} : BeginsNumber text [] :=
  ⟨List.nil_prefix, by simp⟩

theorem BeginsNumber.cons {c : Char} {text lexeme : List Char} (hc : isNumberChar c = true)
    (h : BeginsNumber text lexeme) : BeginsNumber (c :: text) (c :: lexeme) :=
  ⟨List.cons_prefix_cons.mpr ⟨rfl, h.1⟩, List.forall_mem_cons.mpr ⟨hc, h.2⟩⟩

/-- An exponent mark with its sign, up to the digits that follow or are missing. -/
theorem exponentHead_begins {mark : Char} {rest : List Char} (hmark : isExponentMark mark = true) :
    match exponentHead mark rest with
    | (some head, behind) => ∀ lexeme, BeginsNumber behind lexeme →
      BeginsNumber (mark :: rest) (head ++ lexeme)
    | (none, lexeme) => BeginsNumber (mark :: rest) lexeme := by
  have hmark : isNumberChar mark = true := by simp [isNumberChar, hmark]
  cases rest with
  | nil => exact .cons hmark .nil
  | cons c behind =>
    cases hsign : isSign c with
    | true =>
      have hc : isNumberChar c = true := by simp [isNumberChar, hsign]
      cases hdigit : digitAhead behind with
      | true =>
        simp only [exponentHead, hsign, hdigit, if_true]
        exact fun lexeme h => .cons hmark (.cons hc h)
      | false =>
        simp only [exponentHead, hsign, hdigit, if_true, Bool.false_eq_true, if_false]
        exact .cons hmark (.cons hc .nil)
    | false =>
      cases hdigit : c.isDigit with
      | true =>
        simp only [exponentHead, hsign, hdigit, if_true, Bool.false_eq_true, if_false]
        exact fun lexeme h => .cons hmark h
      | false =>
        simp only [exponentHead, hsign, hdigit, Bool.false_eq_true, if_false]
        exact .cons hmark .nil

/-- The lexeme of a number begins the text, also if the number is at fault. -/
theorem scanDecimal_begins (seenPoint seenExponent : Bool) (text : List Char) :
    BeginsNumber text (scanDecimal seenPoint seenExponent text).lexeme := by
  fun_induction scanDecimal seenPoint seenExponent text with
  | case1 => exact .nil
  | case2 _ _ c rest hdigit ih => exact .cons (by simp [isNumberChar, hdigit]) ih
  | case3 _ _ c rest _ hpoint =>
    have hc : c = '.' := of_decide_eq_true (Bool.and_eq_true_iff.mp hpoint).1
    exact .cons (by rw [hc]; decide) .nil
  | case4 _ _ c rest _ hpoint _ ih =>
    have hc : c = '.' := of_decide_eq_true (Bool.and_eq_true_iff.mp hpoint).1
    exact .cons (by rw [hc]; decide) ih
  | case5 _ c rest _ _ hmark => exact .cons (by simp [isNumberChar, hmark]) .nil
  | case6 _ _ c rest _ _ hmark _ head behind hhead _ _ ih =>
    have hbegins := @exponentHead_begins c rest hmark
    rw [hhead] at hbegins
    exact hbegins _ ih
  | case7 _ _ c rest _ _ hmark _ lexeme hhead =>
    have hbegins := @exponentHead_begins c rest hmark
    rw [hhead] at hbegins
    exact hbegins
  | case8 => exact .nil

theorem scanHex_begins {mark : Char} (hmark : isNumberChar mark = true) (rest : List Char) :
    BeginsNumber ('0' :: mark :: rest) (scanHex ['0', mark] rest).lexeme := by
  have hdigits : BeginsNumber rest (rest.takeWhile isHexDigit) := by
    refine ⟨List.takeWhile_prefix _, ?_⟩
    intro c hc
    have hdigit := List.all_eq_true.mp List.all_takeWhile c hc
    simp [isNumberChar, hdigit]
  exact .cons (by decide) (.cons hmark hdigits)

theorem scanNumber_begins (text : List Char) : BeginsNumber text (scanNumber text).lexeme := by
  unfold scanNumber
  split
  · exact scanHex_begins (by decide) _
  · exact scanHex_begins (by decide) _
  · exact scanDecimal_begins false false text

/-- A number has at least the digit or the point that it begins with. -/
theorem scanNumber_nonempty {c : Char} {rest : List Char}
    (h : c.isDigit = true ∨ c = '.' ∧ digitAhead rest = true) :
    (scanNumber (c :: rest)).lexeme ≠ [] := by
  unfold scanNumber
  split
  · exact List.cons_ne_nil _ _
  · exact List.cons_ne_nil _ _
  · rw [scanDecimal]
    rcases h with hdigit | ⟨rfl, hdigit⟩
    · rw [if_pos hdigit]
      exact List.cons_ne_nil _ _
    · rw [if_neg (by decide), if_pos (by simpa using hdigit)]
      exact List.cons_ne_nil _ _

/-! ## Single tokens -/

/-- The token that the scanner finds at a character is spelled there. -/
structure Scanned.Placed (place : Place) (text : List Char) (scanned : Scanned) : Prop where
  position : scanned.token.position = place.position
  inside : scanned.extra < text.length
  spelled : Spelled place.language scanned.token (text.take (scanned.extra + 1))

/-- A token whose characters the text begins with. -/
theorem placed_run {place : Place} {kind : TokenKind} {lexeme text : List Char}
    (hkind : kind ≠ .text) (hbegins : lexeme <+: text) (hnonempty : lexeme ≠ [])
    (hunbroken : ∀ c ∈ lexeme, Text.isBlank c = false) :
    (place.run kind lexeme).Placed place text := by
  have hpositive : 0 < lexeme.length := List.length_pos_iff.mpr hnonempty
  have hlength : lexeme.length - 1 + 1 = lexeme.length := by omega
  have htake : text.take lexeme.length = lexeme := (List.prefix_iff_eq_take.mp hbegins).symm
  refine ⟨rfl, ?_, ?_⟩
  · have := hbegins.length_le
    simp only [Place.run]
    omega
  · simp only [Place.run, hlength, htake]
    have hspelled : Spelled place.language (place.token kind lexeme)
        (place.token kind lexeme).lexeme.toList :=
      .plain hkind (by simpa [Place.token] using hnonempty) (by simpa [Place.token] using hunbroken)
    simpa [Place.token] using hspelled

theorem placed_single {place : Place} {kind : TokenKind} {c : Char} {rest : List Char}
    (hkind : kind ≠ .text) (hblank : Text.isBlank c = false) :
    (place.single kind c).Placed place (c :: rest) :=
  placed_run hkind (by simp) (by simp) (by simpa using hblank)

theorem numberToken_placed {place : Place} {c : Char} {rest : List Char} {scanned : Scanned}
    (hdigit : c.isDigit = true ∨ c = '.' ∧ digitAhead rest = true)
    (h : numberToken place (c :: rest) = .ok scanned) : scanned.Placed place (c :: rest) := by
  simp only [numberToken] at h
  split at h
  · cases h
  · split at h
    · cases h
    · cases h
      obtain ⟨hbegins, hchars⟩ := scanNumber_begins (c :: rest)
      exact placed_run (by decide) hbegins (scanNumber_nonempty hdigit)
        (fun c hc => isBlank_of_isNumberChar (hchars c hc))

/-- The content of text in quotes goes up to the first quote. -/
theorem scanQuoted_some {quote : Char} {rest content : List Char}
    (h : scanQuoted quote rest = some content) :
    quote ∉ content ∧ content ++ [quote] <+: rest := by
  induction rest generalizing content with
  | nil => cases h
  | cons c rest ih =>
    simp only [scanQuoted] at h
    split at h
    · rename_i hquote
      cases h
      exact ⟨by simp, by simp [hquote]⟩
    · rename_i hquote
      obtain ⟨inner, hinner, rfl⟩ := Option.map_eq_some_iff.mp h
      obtain ⟨hinside, hbegins⟩ := ih hinner
      refine ⟨?_, List.cons_prefix_cons.mpr ⟨rfl, hbegins⟩⟩
      simp only [List.mem_cons, not_or]
      exact ⟨fun heq => hquote heq.symm, hinside⟩

theorem quotedToken_placed {place : Place} {quote : Char} {rest : List Char} {scanned : Scanned}
    (hmark : quote = '"' ∨ quote = '\'' ∧ place.language.settings.singleQuotes = true)
    (h : quotedToken place quote rest = .ok scanned) : scanned.Placed place (quote :: rest) := by
  unfold quotedToken at h
  split at h
  · cases h
  · rename_i content hcontent
    cases h
    obtain ⟨hinside, hbegins⟩ := scanQuoted_some hcontent
    have htake : rest.take (content.length + 1) = content ++ [quote] := by
      simpa using (List.prefix_iff_eq_take.mp hbegins).symm
    have hspelled : Spelled place.language (place.token .text content)
        (quote :: ((place.token .text content).lexeme.toList ++ [quote])) :=
      .quoted rfl hmark (by simpa [Place.token] using hinside)
    refine ⟨rfl, ?_, ?_⟩
    · have := hbegins.length_le
      simp only [List.length_append, List.length_cons] at this ⊢
      omega
    · rw [List.take_succ_cons, htake]
      simpa [Place.token] using hspelled

theorem arrayToken_placed {place : Place} {kind : TokenKind} {c : Char} {rest : List Char}
    {scanned : Scanned} (hkind : kind ≠ .text) (hblank : Text.isBlank c = false)
    (h : arrayToken place kind c = .ok scanned) : scanned.Placed place (c :: rest) := by
  unfold arrayToken at h
  split at h
  · cases h
  · split at h
    · cases h
    · cases h
      exact placed_single hkind hblank

theorem separatorToken_placed {place : Place} {rest : List Char} {scanned : Scanned}
    (h : separatorToken place rest = .ok scanned) : scanned.Placed place ('.' :: rest) := by
  cases rest with
  | nil =>
    simp only [separatorToken, Bool.not_false, Bool.or_true, if_true] at h
    split at h <;> cases h
  | cons c rest =>
    simp only [separatorToken] at h
    split at h
    · cases h
    · split at h
      · cases h
      · cases h
        exact placed_single (by decide) (by decide)

theorem tokenKind_ne_text (fixity : Fixity) : fixity.tokenKind ≠ .text := by
  cases fixity <;> decide

theorem nameToken_placed {place : Place} {c : Char} {rest : List Char} {scanned : Scanned}
    (hstarts : startsName c = true) (h : nameToken place (c :: rest) = .ok scanned) :
    scanned.Placed place (c :: rest) := by
  have hrun : ∀ kind : TokenKind, kind ≠ .text →
      (place.run kind ((c :: rest).takeWhile continuesName)).Placed place (c :: rest) := by
    intro kind hkind
    refine placed_run hkind (List.takeWhile_prefix _) ?_ ?_
    · rw [List.takeWhile_cons_of_pos (continuesName_of_startsName hstarts)]
      exact List.cons_ne_nil _ _
    · intro c hc
      exact isBlank_of_continuesName (List.all_eq_true.mp List.all_takeWhile c hc)
  simp only [nameToken] at h
  split at h
  · cases h
    exact hrun .name (by decide)
  · split at h
    · cases h
      exact hrun .function (by decide)
    · split at h
      · cases h
        exact hrun _ (tokenKind_ne_text _)
      · split at h
        · cases h
        · cases h
          exact hrun .name (by decide)

/-- The longest operator is a beginning of the run that is not empty. -/
theorem longestOperator?_prefix {operators : OperatorTable} {afterValue : Bool}
    {run lexeme : List Char} {length : Nat} {fixity : Fixity}
    (h : longestOperator? operators afterValue run length = some (lexeme, fixity)) :
    lexeme <+: run ∧ (run ≠ [] → lexeme ≠ []) := by
  induction length with
  | zero => cases h
  | succ length ih =>
    simp only [longestOperator?] at h
    split at h
    · cases h
      exact ⟨List.take_prefix _ _, by simp⟩
    · exact ih h

theorem operatorToken_placed {place : Place} {c : Char} {text : List Char} {scanned : Scanned}
    (h : operatorToken place c text = .ok scanned) : scanned.Placed place text := by
  simp only [operatorToken] at h
  split at h
  · cases h
  · rename_i hempty
    split at h
    · rename_i lexeme fixity hlongest
      cases h
      obtain ⟨hbegins, hnonempty⟩ := longestOperator?_prefix hlongest
      have hrun := hbegins.trans (List.take_prefix _ _)
      refine placed_run (tokenKind_ne_text _) (hrun.trans (List.takeWhile_prefix _))
        (hnonempty (by simpa using hempty)) ?_
      intro c hc
      have hchar := List.all_eq_true.mp List.all_takeWhile c (hrun.subset hc)
      exact isBlank_of_isOperatorChar hchar
    · split at h <;> cases h

/-- The token that begins with a character is spelled in the text from there on. -/
theorem scanToken_placed {place : Place} {c : Char} {rest : List Char} {scanned : Scanned}
    (hblank : Text.isBlank c = false) (h : scanToken place c rest = .ok scanned) :
    scanned.Placed place (c :: rest) := by
  cases finds_of_scanToken h with
  | parenOpen | parenClose | comma => exact placed_single (by decide) hblank
  | arrayOpen found | arrayClose found => exact arrayToken_placed (by decide) hblank found
  | quoted mark found => exact quotedToken_placed mark found
  | number begins found => exact numberToken_placed begins found
  | separator found => exact separatorToken_placed found
  | name starts found => exact nameToken_placed starts found
  | operator _ _ found => exact operatorToken_placed found

/-! ## All tokens -/

/-- The scanner takes a text apart into the tokens and the blanks around them. -/
theorem scanFrom_layout {previous : Option TokenKind} {position : Nat} {text : List Char}
    {tokens : List Token} (h : scanFrom L previous position text = .ok tokens) :
    Layout L position text tokens := by
  fun_induction scanFrom L previous position text generalizing tokens with
  | case1 previous position =>
    cases h
    exact .nil (by simp)
  | case2 previous position c rest hblank ih => exact (ih h).blank hblank
  | case3 => cases h
  | case4 => cases h
  | case5 previous position c rest hblank scanned hscanned others hothers ih =>
    cases h
    obtain ⟨hposition, hinside, hspelled⟩ := scanToken_placed (by simpa using hblank) hscanned
    have hposition : scanned.token.position = position := hposition
    have hstop : scanned.token.stop = position + 1 + scanned.extra := by
      have hlength := hspelled.length_eq
      rw [List.length_take_of_le hinside] at hlength
      rw [stop, ← hlength, hposition]
      omega
    have hlayout : Layout L position ([] ++ ((c :: rest).take (scanned.extra + 1) ++
        (c :: rest).drop (scanned.extra + 1))) (scanned.token :: others) := by
      refine .cons (by simp) (by simpa using hposition) hspelled ?_
      rw [hstop]
      exact ih hothers
    rwa [List.nil_append, List.take_append_drop] at hlayout

/-- Each token begins where the one before has ended, or behind. -/
theorem Layout.pairwise {position : Nat} {text : List Char} {tokens : List Token}
    (h : Layout L position text tokens) :
    tokens.Pairwise (fun a b => a.stop ≤ b.position) ∧
      ∀ token ∈ tokens, position ≤ token.position := by
  induction h with
  | nil => exact ⟨.nil, by simp⟩
  | @cons position gap token piece rest tokens _ place _ _ ih =>
    obtain ⟨hpairs, hbehind⟩ := ih
    have hposition : position ≤ token.position := by omega
    refine ⟨.cons hbehind hpairs, List.forall_mem_cons.mpr ⟨hposition, ?_⟩⟩
    intro other hother
    have hle : token.position ≤ token.stop := Nat.le_add_right _ _
    exact Nat.le_trans hposition (Nat.le_trans hle (hbehind other hother))

/-- Each token is spelled in its place. -/
theorem Layout.spelled {position : Nat} {text : List Char} {tokens : List Token}
    (h : Layout L position text tokens) : ∀ token ∈ tokens, ∃ before piece behind,
      text = before ++ (piece ++ behind) ∧ token.position = position + before.length ∧
        Spelled L token piece := by
  induction h with
  | nil => simp
  | @cons position gap token piece rest tokens _ place spelled _ ih =>
    refine List.forall_mem_cons.mpr ⟨⟨gap, piece, rest, rfl, place, spelled⟩, ?_⟩
    intro other hother
    obtain ⟨before, piece', behind, rfl, hplace, hspelled⟩ := ih other hother
    refine ⟨gap ++ (piece ++ before), piece', behind, by simp, ?_, hspelled⟩
    have hlength := spelled.length_eq
    simp only [List.length_append, stop] at hplace ⊢
    omega

/-- What belongs to no token is blank. -/
theorem Layout.blank_outside {position : Nat} {text : List Char} {tokens : List Token}
    (h : Layout L position text tokens) : ∀ {index : Nat} {c : Char}, text[index]? = some c →
      (∀ token ∈ tokens, position + index < token.position ∨ token.stop ≤ position + index) →
      Text.isBlank c = true := by
  induction h with
  | nil blank =>
    intro index c hc _
    exact blank c (List.mem_of_getElem? hc)
  | @cons position gap token piece rest tokens blank place spelled _ ih =>
    intro index c hc houtside
    obtain ⟨htoken, hothers⟩ := List.forall_mem_cons.mp houtside
    have hlength := spelled.length_eq
    rw [stop] at htoken
    by_cases hgap : index < gap.length
    · rw [List.getElem?_append_left hgap] at hc
      exact blank c (List.mem_of_getElem? hc)
    · rw [List.getElem?_append_right (by omega), List.getElem?_append_right (by omega)] at hc
      refine ih hc ?_
      have hindex : token.stop + (index - gap.length - piece.length) = position + index := by
        rw [stop]
        omega
      rwa [hindex]

/-- The tokens of a text take up separate pieces of it, in their order. Each of them is spelled in
    its piece, and every character outside all pieces is blank. -/
theorem scan_layout {text : String} {tokens : List Token} (h : scan L text = .ok tokens) :
    tokens.Pairwise (fun a b => a.stop ≤ b.position) ∧
    (∀ token ∈ tokens, token.position < token.stop ∧ token.stop ≤ text.length ∧
      Spelled L token ((text.toList.drop token.position).take token.width)) ∧
    (∀ index c, text.toList[index]? = some c →
      (∀ token ∈ tokens, index < token.position ∨ token.stop ≤ index) →
      Text.isBlank c = true) := by
  have hlayout : Layout L 0 text.toList tokens := scanFrom_layout h
  refine ⟨hlayout.pairwise.1, fun token htoken => ?_, fun index c hc houtside => ?_⟩
  · obtain ⟨before, piece, behind, htext, hplace, hspelled⟩ := hlayout.spelled token htoken
    have hlength := hspelled.length_eq
    have hposition : token.position = before.length := by omega
    refine ⟨Nat.lt_add_of_pos_right hspelled.width_pos, ?_, ?_⟩
    · rw [← String.length_toList, htext, stop]
      simp only [List.length_append]
      omega
    · rw [htext, hposition, List.drop_left, ← hlength, List.take_left]
      exact hspelled
  · exact hlayout.blank_outside hc (by simpa using houtside)

theorem scan_layout_standard : ∃ tokens,
    scan Configuration.standard.toLanguage " x1 >= \"a b\" " = .ok tokens ∧
    tokens.map (fun token => (token.position, token.stop)) = [(1, 3), (4, 6), (7, 12)] ∧
    tokens.Pairwise (fun a b => a.stop ≤ b.position) ∧
    ∀ token ∈ tokens, Spelled Configuration.standard.toLanguage token
      ((" x1 >= \"a b\" ".toList.drop token.position).take token.width) := by
  have hrun : ((scan Configuration.standard.toLanguage " x1 >= \"a b\" ").toOption.any fun tokens =>
      tokens.map (fun token => (token.position, token.stop)) == [(1, 3), (4, 6), (7, 12)]) =
        true := by
    decide +kernel
  obtain ⟨tokens, hscan, hplaces⟩ := ok_of_any hrun
  obtain ⟨hpairs, hspelled, _⟩ := scan_layout hscan
  exact ⟨tokens, hscan, eq_of_beq hplaces, hpairs, fun token htoken => (hspelled token htoken).2.2⟩

end Token
end Formula

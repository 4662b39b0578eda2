-- SUMMARY: Blanks that are put in between the tokens of a text change nothing of the tokens but their positions.
import Formula.Proofs.Token.Operators

/-!
# Blanks between tokens

Blanks can be put in wherever no token stands, but not right behind a separator, which needs the
name of its field there (`Token.IsBoundary`). A token is decided by its own characters and by what
stands behind them. The scanner looks there for the end of a run, for a digit or an exponent mark,
or for a parenthesis behind blanks; it finds the same with more blanks, or finds the end earlier
(`Token.Spaced`). So each token is found as before (`Token.Finds.spaced`), and a scan of the whole
text as well (`Token.scan_widen`).
-/

namespace Formula
namespace Token

variable {L : Language}

/-! ## Texts with more blanks -/

/-- The second text is the first one with blanks put in. -/
inductive Spaced : List Char → List Char → Prop
  | nil : Spaced [] []
  | keep {c text wide} (others : Spaced text wide) : Spaced (c :: text) (c :: wide)
  | blank {c text wide} (blank : Text.isBlank c = true) (others : Spaced text wide) :
    Spaced text (c :: wide)

namespace Spaced

variable {text wide : List Char} {p : Char → Bool}

theorem append (h : Spaced text wide) (more : List Char) :
    Spaced (more ++ text) (more ++ wide) := by
  induction more with
  | nil => exact h
  | cons c more ih => exact .keep ih

theorem blanks {gap : List Char} (hgap : ∀ c ∈ gap, Text.isBlank c = true) (h : Spaced text wide) :
    Spaced text (gap ++ wide) := by
  induction gap with
  | nil => exact h
  | cons c gap ih =>
    obtain ⟨hc, hgap⟩ := List.forall_mem_cons.mp hgap
    exact .blank hc (ih hgap)

/-- A character in front that is no blank was there before. -/
theorem of_visible {c : Char} (hc : Text.isBlank c = false) (h : Spaced text (c :: wide)) :
    ∃ rest, text = c :: rest ∧ Spaced rest wide := by
  cases h with
  | keep others => exact ⟨_, rfl, others⟩
  | blank blank =>
    rw [hc] at blank
    cases blank

/-- A run of characters that are no blanks can only get shorter. -/
theorem takeWhile_shorter (hp : ∀ c, p c = true → Text.isBlank c = false) (h : Spaced text wide) :
    wide.takeWhile p <+: text.takeWhile p := by
  induction h with
  | nil => exact List.prefix_rfl
  | @keep c text wide _ ih =>
    cases hc : p c with
    | true =>
      rw [List.takeWhile_cons_of_pos hc, List.takeWhile_cons_of_pos hc]
      exact List.cons_prefix_cons.mpr ⟨rfl, ih⟩
    | false => simp [hc]
  | @blank c text wide hblank _ _ =>
    have hc : ¬p c = true := by
      intro hc
      rw [hp c hc] at hblank
      cases hblank
    rw [List.takeWhile_cons_of_neg hc]
    exact List.nil_prefix

/-- A run that ends where the blanks begin stays as it is. -/
theorem takeWhile_append (hp : ∀ c, p c = true → Text.isBlank c = false) (h : Spaced text wide)
    {piece : List Char} (hpiece : (piece ++ text).takeWhile p = piece) :
    (piece ++ wide).takeWhile p = piece := by
  have hall : ∀ c ∈ piece, p c = true := by
    rw [← hpiece]
    exact List.all_eq_true.mp List.all_takeWhile
  have hbegins := (h.append piece).takeWhile_shorter hp
  rw [hpiece, List.takeWhile_append_of_pos hall] at hbegins
  rw [List.takeWhile_append_of_pos hall]
  exact (hbegins.eq_of_length_le (by simp)).trans rfl

/-- The first character that is no blank is the same. -/
theorem head?_trimStart (h : Spaced text wide) :
    (Text.trimStart wide).head? = (Text.trimStart text).head? := by
  induction h with
  | nil => rfl
  | @keep c text wide _ ih =>
    cases hc : Text.isBlank c with
    | true => simpa [Text.trimStart, hc] using ih
    | false => simp [Text.trimStart, hc]
  | blank hblank _ ih => simpa [Text.trimStart, hblank] using ih

theorem digitAhead_of_wide (h : Spaced text wide) (hahead : digitAhead wide = true) :
    digitAhead text = true := by
  cases wide with
  | nil => cases hahead
  | cons c wide =>
    obtain ⟨rest, rfl, _⟩ := h.of_visible (Text.isBlank_of_isDigit hahead)
    exact hahead

theorem resumesNumber_of_wide (h : Spaced text wide) (hresumes : resumesNumber wide = true) :
    resumesNumber text = true := by
  cases wide with
  | nil => cases hresumes
  | cons c wide =>
    have hvisible : Text.isBlank c = false := by
      rcases Bool.or_eq_true_iff.mp hresumes with hmark | hpoint
      · exact isBlank_of_isNumberChar (by simp [isNumberChar, hmark])
      · rw [eq_of_beq (Bool.and_eq_true_iff.mp hpoint).1]
        decide +kernel
    obtain ⟨rest, rfl, hrest⟩ := h.of_visible hvisible
    rcases Bool.or_eq_true_iff.mp hresumes with hmark | hpoint
    · simp [resumesNumber, hmark]
    · obtain ⟨hc, hahead⟩ := Bool.and_eq_true_iff.mp hpoint
      simp [resumesNumber, hc, hrest.digitAhead_of_wide hahead]

end Spaced

/-! ## Numbers with blanks behind them -/

theorem NumberScan.eq_of_after {c : Char} {scan : NumberScan} {lexeme : List Char}
    (h : scan.after c = ⟨lexeme, none⟩) : ∃ later, scan = ⟨later, none⟩ ∧ lexeme = c :: later := by
  obtain ⟨later, fault⟩ := scan
  simp only [after, NumberScan.mk.injEq] at h
  obtain ⟨rfl, rfl⟩ := h
  exact ⟨later, rfl, rfl⟩

/-- The scanner stops at once where no number goes on. -/
theorem scanDecimal_ended {text : List Char} (hdigit : digitAhead text = false)
    (hresumes : resumesNumber text = false) (seenPoint seenExponent : Bool) :
    scanDecimal seenPoint seenExponent text = ⟨[], none⟩ := by
  cases text with
  | nil => rw [scanDecimal]
  | cons c rest =>
    have hc : c.isDigit = false := hdigit
    simp only [resumesNumber, Bool.or_eq_false_iff] at hresumes
    rw [scanDecimal, hc, if_neg Bool.false_ne_true, if_neg (by simpa using hresumes.2), hresumes.1,
      if_neg Bool.false_ne_true]

/-- Where a digit comes next, the number that is read begins with it. -/
theorem scanDecimal_digitAhead {seenPoint seenExponent : Bool} {text lexeme : List Char}
    {fault : Option NumberFault} (hahead : digitAhead text = true)
    (hscan : scanDecimal seenPoint seenExponent text = ⟨lexeme, fault⟩) (rest : List Char) :
    digitAhead (lexeme ++ rest) = true := by
  cases text with
  | nil => cases hahead
  | cons c tail =>
    have hc : c.isDigit = true := hahead
    rw [scanDecimal, if_pos hc] at hscan
    obtain ⟨rfl, _⟩ : c :: (scanDecimal seenPoint seenExponent tail).lexeme = lexeme ∧ _ :=
      NumberScan.mk.inj hscan
    exact hc

/-- A number without a fault is read again if there are more blanks behind it. -/
theorem scanDecimal_spaced {seenPoint seenExponent : Bool} {text lexeme behind wide : List Char}
    (hscan : scanDecimal seenPoint seenExponent text = ⟨lexeme, none⟩)
    (hsplit : text = lexeme ++ behind) (hspaced : Spaced behind wide) :
    scanDecimal seenPoint seenExponent (lexeme ++ wide) = ⟨lexeme, none⟩ := by
  -- What ends the number in the text ends it with more blanks, too.
  have hended : digitAhead behind = false → resumesNumber behind = false →
      ∀ seenPoint seenExponent, scanDecimal seenPoint seenExponent wide = ⟨[], none⟩ := by
    intro hdigit hresumes
    refine scanDecimal_ended ?_ ?_
    · exact Bool.eq_false_iff.mpr fun h =>
        Bool.false_ne_true (hdigit.symm.trans (hspaced.digitAhead_of_wide h))
    · exact Bool.eq_false_iff.mpr fun h =>
        Bool.false_ne_true (hresumes.symm.trans (hspaced.resumesNumber_of_wide h))
  fun_induction scanDecimal seenPoint seenExponent text generalizing lexeme with
  | case1 seenPoint seenExponent =>
    cases hscan
    obtain rfl : behind = [] := hsplit.symm
    exact hended rfl rfl _ _
  | case2 seenPoint seenExponent c rest hdigit ih =>
    obtain ⟨later, hlater, rfl⟩ := NumberScan.eq_of_after hscan
    rw [List.cons_append, scanDecimal, if_pos hdigit,
      ih hlater (List.cons.inj hsplit).2]
    rfl
  | case3 => cases hscan
  | case4 seenPoint seenExponent c rest hdigit hpoint hseen ih =>
    obtain ⟨later, hlater, rfl⟩ := NumberScan.eq_of_after hscan
    obtain ⟨hc, hahead⟩ := Bool.and_eq_true_iff.mp hpoint
    have hagain : (decide (c = '.') && digitAhead (later ++ wide)) = true := by
      rw [hc, scanDecimal_digitAhead hahead hlater wide]
      rfl
    rw [List.cons_append, scanDecimal, if_neg hdigit, if_pos hagain, if_neg hseen,
      ih hlater (List.cons.inj hsplit).2]
    rfl
  | case5 => cases hscan
  | case6 seenPoint seenExponent c rest hdigit hpoint hmark hseen head after hhead =>
    rename_i scan ih
    obtain rfl : seenExponent = false := by simpa using hseen
    rcases exponentHead_cases hmark rest with ⟨_, _, hrest, hform, hahead, heq⟩ | ⟨_, _, heq⟩
    · rw [hhead] at heq
      cases heq
      obtain ⟨rfl, hfault⟩ := NumberScan.mk.inj hscan
      have hlater : scanDecimal seenPoint true after = ⟨scan.lexeme, none⟩ := by rw [← hfault]
      rw [hrest, List.append_assoc] at hsplit
      rw [List.append_assoc,
        scanDecimal_exponent hform (scanDecimal_digitAhead hahead hlater wide),
        ih hlater (List.append_cancel_left hsplit)]
    · rw [hhead] at heq
      cases heq
  | case7 => cases hscan
  | case8 seenPoint seenExponent c rest hdigit hpoint hmark =>
    cases hscan
    obtain rfl : c :: rest = behind := hsplit
    refine hended ?_ ?_ _ _
    · simpa [digitAhead] using hdigit
    · simpa [resumesNumber, hmark] using hpoint

theorem scanHex_spaced {mark rest lexeme behind wide : List Char}
    (hscan : scanHex mark rest = ⟨lexeme, none⟩) (hsplit : mark ++ rest = lexeme ++ behind)
    (hspaced : Spaced behind wide) :
    ∃ digits, lexeme = mark ++ digits ∧ scanHex mark (digits ++ wide) = ⟨lexeme, none⟩ := by
  have hvisible : ∀ c, isHexDigit c = true → Text.isBlank c = false := by
    intro c hc
    exact isBlank_of_isNumberChar (by simp [isNumberChar, hc])
  obtain ⟨rfl, hfault⟩ := NumberScan.mk.inj hscan
  rw [List.append_assoc] at hsplit
  have hdigits : (rest.takeWhile isHexDigit ++ behind).takeWhile isHexDigit =
      rest.takeWhile isHexDigit := by
    rw [← List.append_cancel_left hsplit]
  refine ⟨_, rfl, ?_⟩
  rw [scanHex, hspaced.takeWhile_append hvisible hdigits, hfault]

/-- A number without a fault stays as it is if there are more blanks behind it. -/
theorem scanNumber_spaced {lexeme behind wide : List Char}
    (hscan : scanNumber (lexeme ++ behind) = ⟨lexeme, none⟩) (hspaced : Spaced behind wide) :
    scanNumber (lexeme ++ wide) = ⟨lexeme, none⟩ := by
  generalize htext : lexeme ++ behind = text at hscan
  have hwide : Spaced text (lexeme ++ wide) := htext ▸ hspaced.append lexeme
  unfold scanNumber at hscan
  split at hscan
  · obtain ⟨digits, rfl, hagain⟩ := scanHex_spaced hscan htext.symm hspaced
    exact hagain
  · obtain ⟨digits, rfl, hagain⟩ := scanHex_spaced hscan htext.symm hspaced
    exact hagain
  · rename_i hlower hupper
    -- A mark of a hexadecimal number would have been there before.
    have hmark : ∀ mark tail, Text.isBlank mark = false → lexeme ++ wide = '0' :: mark :: tail →
        ∃ rest, text = '0' :: mark :: rest := by
      intro mark tail hvisible heq
      rw [heq] at hwide
      obtain ⟨rest, rfl, hrest⟩ := hwide.of_visible rfl
      obtain ⟨rest, rfl, _⟩ := hrest.of_visible hvisible
      exact ⟨rest, rfl⟩
    rw [scanNumber_decimal]
    · exact scanDecimal_spaced hscan htext.symm hspaced
    · intro tail heq
      obtain ⟨rest, hrest⟩ := hmark 'x' tail rfl heq
      exact hlower rest hrest
    · intro tail heq
      obtain ⟨rest, hrest⟩ := hmark 'X' tail rfl heq
      exact hupper rest hrest

/-! ## Single tokens at another position -/

/-- The place at another position. -/
def Place.moveTo (place : Place) (position : Nat) : Place := { place with position := position }

/-- What was found, at another position. -/
def Scanned.moveTo (scanned : Scanned) (position : Nat) : Scanned :=
  { scanned with token := { scanned.token with position := position } }

/-- What was found or is at fault, at another position. -/
def moveResult (position : Nat) : Except ParseError Scanned → Except ParseError Scanned :=
  mapBoth (fun error => { error with position := position }) (·.moveTo position)

section Position

variable (place : Place) (position : Nat)

theorem numberToken_moveTo (text : List Char) :
    numberToken (place.moveTo position) text = moveResult position (numberToken place text) := by
  simp only [numberToken]
  split
  · rfl
  · split <;> rfl

theorem quotedToken_moveTo (quote : Char) (rest : List Char) :
    quotedToken (place.moveTo position) quote rest =
      moveResult position (quotedToken place quote rest) := by
  simp only [quotedToken]
  split <;> rfl

theorem arrayToken_moveTo (kind : TokenKind) (c : Char) :
    arrayToken (place.moveTo position) kind c = moveResult position (arrayToken place kind c) := by
  simp only [arrayToken, apply_ite (moveResult position)]
  rfl

theorem separatorToken_moveTo (rest : List Char) :
    separatorToken (place.moveTo position) rest =
      moveResult position (separatorToken place rest) := by
  simp only [separatorToken, apply_ite (moveResult position)]
  rfl

theorem nameToken_moveTo (text : List Char) :
    nameToken (place.moveTo position) text = moveResult position (nameToken place text) := by
  obtain ⟨L, previous, _⟩ := place
  dsimp only [nameToken, Place.moveTo, Place.afterValue]
  split
  · rfl
  · split
    · rfl
    · split
      · rfl
      · split <;> rfl

theorem operatorToken_moveTo (c : Char) (text : List Char) :
    operatorToken (place.moveTo position) c text =
      moveResult position (operatorToken place c text) := by
  obtain ⟨L, previous, _⟩ := place
  dsimp only [operatorToken, Place.moveTo, Place.afterValue]
  split
  · rfl
  · split
    · rfl
    · split <;> rfl

/-- Of what is found only the position depends on the position of the place. -/
theorem scanToken_moveTo (c : Char) (rest : List Char) :
    scanToken (place.moveTo position) c rest = moveResult position (scanToken place c rest) := by
  simp only [scanToken, apply_ite (moveResult position), numberToken_moveTo, quotedToken_moveTo,
    arrayToken_moveTo, separatorToken_moveTo, nameToken_moveTo, operatorToken_moveTo]
  rfl

end Position

/-! ## Single tokens with blanks behind them -/

section Behind

variable {place : Place} {c : Char} {more behind wide : List Char} {scanned : Scanned}

/-- What begins a text is known by its length. -/
theorem eq_of_prefix {piece : List Char} (hbegins : piece <+: more ++ behind)
    (hlength : piece.length = more.length) : piece = more :=
  (List.prefix_of_prefix_length_le hbegins (List.prefix_append more behind)
    (Nat.le_of_eq hlength)).eq_of_length hlength

theorem numberToken_spaced
    (hbegins : c.isDigit = true ∨ c = '.' ∧ digitAhead (more ++ behind) = true)
    (h : numberToken place (c :: more ++ behind) = .ok scanned)
    (hextra : more.length = scanned.extra) (hspaced : Spaced behind wide) :
    (c.isDigit = true ∨ c = '.' ∧ digitAhead (more ++ wide) = true) ∧
      numberToken place (c :: more ++ wide) = .ok scanned := by
  simp only [numberToken] at h
  split at h
  · cases h
  · rename_i hfault
    split at h
    · cases h
    · rename_i value hvalue
      cases h
      have hlexeme : (scanNumber (c :: more ++ behind)).lexeme = c :: more := by
        have hpositive : 0 < (scanNumber (c :: more ++ behind)).lexeme.length :=
          List.length_pos_iff.mpr (scanNumber_nonempty hbegins)
        refine eq_of_prefix (scanNumber_begins _).1 ?_
        simp only [Place.run] at hextra
        rw [List.length_cons]
        omega
      have hscan : scanNumber (c :: more ++ behind) = ⟨c :: more, none⟩ := by
        generalize scanNumber (c :: more ++ behind) = scan at hlexeme hfault
        rw [← hlexeme, ← hfault]
      rw [hlexeme] at hvalue ⊢
      refine ⟨hbegins.imp id fun hpoint => ⟨hpoint.1, ?_⟩, ?_⟩
      · obtain ⟨rfl, hahead⟩ := hpoint
        have hrest := (scanDecimal_point hahead).symm.trans hscan
        obtain ⟨later, hlater, heq⟩ := NumberScan.eq_of_after hrest
        cases heq
        exact scanDecimal_digitAhead hahead hlater wide
      · simp only [numberToken, scanNumber_spaced hscan hspaced, hvalue]

theorem scanQuoted_closed {quote : Char} {content : List Char} (hinside : quote ∉ content)
    (rest : List Char) : scanQuoted quote (content ++ [quote] ++ rest) = some content := by
  induction content with
  | nil => simp [scanQuoted]
  | cons c content ih =>
    simp only [List.mem_cons, not_or] at hinside
    rw [List.cons_append, List.cons_append, scanQuoted, if_neg (Ne.symm hinside.1), ih hinside.2]
    rfl

theorem quotedToken_spaced {quote : Char}
    (h : quotedToken place quote (more ++ behind) = .ok scanned)
    (hextra : more.length = scanned.extra) :
    quotedToken place quote (more ++ wide) = .ok scanned := by
  unfold quotedToken at h
  split at h
  · cases h
  · rename_i content hcontent
    cases h
    obtain ⟨hinside, hbegins⟩ := scanQuoted_some hcontent
    have hmore : content ++ [quote] = more :=
      eq_of_prefix hbegins (by rw [List.length_append, hextra]; rfl)
    rw [quotedToken, ← hmore, scanQuoted_closed hinside]

/-- The name of the field has to be right behind the separator. -/
theorem separatorToken_spaced {rest : List Char} (h : separatorToken place rest = .ok scanned)
    (hfield : wide.head? = rest.head?) : separatorToken place wide = .ok scanned := by
  cases rest with
  | nil =>
    cases wide with
    | nil => exact h
    | cons => cases hfield
  | cons c rest =>
    cases wide with
    | nil => cases hfield
    | cons other wide =>
      cases hfield
      exact h

/-- The kind of a separator, and the name that begins behind it. -/
theorem separatorToken_ok {rest : List Char} (h : separatorToken place rest = .ok scanned) :
    scanned.token.kind = .separator ∧ digitAhead rest = false := by
  unfold separatorToken at h
  cases rest with
  | nil =>
    simp only [Bool.not_false, Bool.or_true, if_true] at h
    split at h <;> cases h
  | cons c rest =>
    simp only at h
    split at h
    · cases h
    · split at h
      · cases h
      · rename_i hplace
        cases h
        simp only [Bool.or_eq_true, Bool.not_eq_true', not_or, Bool.not_eq_false] at hplace
        exact ⟨rfl, isDigit_of_startsName hplace.2⟩

/-- A name is taken whole, whatever it stands for. -/
theorem nameToken_run {text : List Char} (h : nameToken place text = .ok scanned) :
    ∃ kind, scanned = place.run kind (text.takeWhile continuesName) := by
  simp only [nameToken] at h
  split at h
  · cases h
    exact ⟨_, rfl⟩
  · split at h
    · cases h
      exact ⟨_, rfl⟩
    · split at h
      · cases h
        exact ⟨_, rfl⟩
      · split at h
        · cases h
        · cases h
          exact ⟨_, rfl⟩

theorem nameToken_spaced (hstarts : startsName c = true)
    (h : nameToken place (c :: more ++ behind) = .ok scanned)
    (hextra : more.length = scanned.extra) (hspaced : Spaced behind wide) :
    nameToken place (c :: more ++ wide) = .ok scanned := by
  have hname : (c :: more ++ behind).takeWhile continuesName = c :: more := by
    obtain ⟨kind, rfl⟩ := nameToken_run h
    refine eq_of_prefix (List.takeWhile_prefix _) ?_
    rw [List.cons_append, List.takeWhile_cons_of_pos (continuesName_of_startsName hstarts)]
      at hextra ⊢
    simp only [Place.run, List.length_cons, Nat.add_sub_cancel] at hextra
    simp only [List.length_cons, hextra]
  have hagain : (c :: more ++ wide).takeWhile continuesName = c :: more :=
    hspaced.takeWhile_append (fun _ => isBlank_of_continuesName) hname
  rw [← h]
  simp only [nameToken, hname, hagain, List.drop_left, hspaced.head?_trimStart]

/-- The longest operator in a run is the longest one in a beginning of the run that it is in. -/
theorem longestOperator?_of_prefix {operators : OperatorTable} {afterValue : Bool}
    {run other lexeme : List Char} {fixity : Fixity}
    (h : longestOperator? operators afterValue run run.length = some (lexeme, fixity))
    (hother : other <+: run) (hlexeme : lexeme <+: other) :
    longestOperator? operators afterValue other other.length = some (lexeme, fixity) := by
  obtain ⟨hlongest, hplace⟩ := longestOperator?_eq_some_iff.mp h
  refine longestOperator?_eq_some_iff.mpr ⟨⟨hlexeme, hlongest.hasForm, ?_⟩, hplace⟩
  intro shorter hshorter hoperator
  exact hlongest.longest shorter (hshorter.trans hother) hoperator

theorem isOperatorChar_of_operatorToken {rest : List Char}
    (h : operatorToken place c (c :: rest) = .ok scanned) : isOperatorChar c = true := by
  obtain ⟨_, _, _, hlongest⟩ := operatorToken_ok_iff.mp h
  cases hc : isOperatorChar c with
  | true => rfl
  | false => simp [operatorRun, hc, longestOperator?] at hlongest

/-- With more blanks behind it, a run of operator characters ends earlier, but not within the
    operator. -/
theorem operatorRun_spaced {operators : OperatorTable} {piece : List Char}
    (hspaced : Spaced behind wide) (hpiece : piece <+: operatorRun operators (piece ++ behind)) :
    operatorRun operators (piece ++ wide) <+: operatorRun operators (piece ++ behind) ∧
      piece <+: operatorRun operators (piece ++ wide) := by
  have hchars : ∀ c ∈ piece, isOperatorChar c = true := by
    intro c hc
    exact List.all_eq_true.mp List.all_takeWhile c (List.mem_of_mem_take (hpiece.subset hc))
  have hroom : piece.length ≤ max operators.longestName 1 :=
    Nat.le_trans hpiece.length_le (List.length_take_le _ _)
  have hshorter := (hspaced.append piece).takeWhile_shorter (p := isOperatorChar)
    fun _ => isBlank_of_isOperatorChar
  constructor
  · exact List.prefix_take_iff.mpr
      ⟨(List.take_prefix _ _).trans hshorter, List.length_take_le _ _⟩
  · rw [operatorRun, List.takeWhile_append_of_pos hchars]
    exact List.prefix_take_iff.mpr ⟨List.prefix_append _ _, hroom⟩

theorem operatorToken_spaced (h : operatorToken place c (c :: more ++ behind) = .ok scanned)
    (hextra : more.length = scanned.extra) (hspaced : Spaced behind wide) :
    operatorToken place c (c :: more ++ wide) = .ok scanned := by
  obtain ⟨lexeme, fixity, rfl, hlongest⟩ := operatorToken_ok_iff.mp h
  obtain ⟨hrun, hoperator, -⟩ := (longestOperator?_eq_some_iff.mp hlongest).1
  have hlexeme : lexeme = c :: more := by
    have hpositive : 0 < lexeme.length := List.length_pos_iff.mpr hoperator.1
    refine eq_of_prefix ((hrun.trans (List.take_prefix _ _)).trans (List.takeWhile_prefix _)) ?_
    simp only [Place.run] at hextra
    rw [List.length_cons]
    omega
  subst hlexeme
  obtain ⟨hshorter, hinside⟩ := operatorRun_spaced hspaced hrun
  exact operatorToken_ok_iff.mpr
    ⟨_, _, rfl, longestOperator?_of_prefix hlongest hshorter hinside⟩

/-! ## Tokens of all kinds -/

/-- Characters of which each begins tokens of one kind, whatever stands behind it. -/
def marks : List Char := ['(', ')', ',', '[', ']', '"', '\'', '.']

theorem scanToken_of_not_mark {rest : List Char} (hmark : c ∉ marks) (hdigit : c.isDigit = false) :
    scanToken place c rest =
      if startsName c then nameToken place (c :: rest) else operatorToken place c (c :: rest) := by
  simp only [marks, List.mem_cons, List.not_mem_nil, or_false, not_or] at hmark
  simp [scanToken, hmark, hdigit]

/-- Marks neither begin names nor stand in operators. -/
theorem not_mem_marks (h : startsName c = true ∨ isOperatorChar c = true) : c ∉ marks := by
  have hnone : marks.all (fun mark => !startsName mark && !isOperatorChar mark) = true := by
    decide +kernel
  intro hmem
  have hmark := List.all_eq_true.mp hnone c hmem
  simp only [Bool.and_eq_true, Bool.not_eq_true'] at hmark
  rcases h with hname | hoperator
  · rw [hmark.1] at hname
    cases hname
  · rw [hmark.2] at hoperator
    cases hoperator

theorem scanToken_of_finds {rest : List Char} (h : Finds place rest c scanned) :
    scanToken place c rest = .ok scanned := by
  cases h with
  | parenOpen | parenClose | comma => rfl
  | arrayOpen found | arrayClose found => exact found
  | quoted mark found =>
    rcases mark with rfl | ⟨rfl, hallowed⟩
    · exact found
    · simpa [scanToken, hallowed] using found
  | number begins found => rw [scanToken_eq_numberToken begins, found]
  | separator found =>
    simpa [scanToken, (separatorToken_ok found).2] using found
  | name starts found =>
    rw [scanToken_of_not_mark (not_mem_marks (.inl starts)) (isDigit_of_startsName starts),
      if_pos starts, found]
  | operator noParen noName found =>
    have hchar := isOperatorChar_of_operatorToken found
    have hdigit : c.isDigit = false := by
      refine Bool.eq_false_iff.mpr fun hdigit => ?_
      simp [isOperatorChar, Text.isAlphanumeric, Text.isNumeric_of_isDigit hdigit] at hchar
    rw [scanToken_of_not_mark (not_mem_marks (.inr hchar)) hdigit, noName,
      if_neg Bool.false_ne_true, found]

/-- A token is found again if there are more blanks behind it, but right behind a separator. -/
theorem Finds.spaced (h : Finds place (more ++ behind) c scanned)
    (hextra : more.length = scanned.extra) (hspaced : Spaced behind wide)
    (hfield : scanned.token.kind = .separator → wide.head? = behind.head?) :
    Finds place (more ++ wide) c scanned := by
  cases h with
  | parenOpen => exact .parenOpen
  | parenClose => exact .parenClose
  | comma => exact .comma
  | arrayOpen found => exact .arrayOpen found
  | arrayClose found => exact .arrayClose found
  | quoted mark found => exact .quoted mark (quotedToken_spaced found hextra)
  | number begins found =>
    obtain ⟨hbegins, hfound⟩ := numberToken_spaced begins found hextra hspaced
    exact .number hbegins hfound
  | separator found =>
    have hhead : (more ++ wide).head? = (more ++ behind).head? := by
      rw [List.head?_append, List.head?_append, hfield (separatorToken_ok found).1]
    exact .separator (separatorToken_spaced found hhead)
  | name starts found => exact .name starts (nameToken_spaced starts found hextra hspaced)
  | operator noParen noName found =>
    exact .operator noParen noName (operatorToken_spaced found hextra hspaced)

end Behind

/-- The same token is found at another position if there are more blanks behind it. -/
theorem scanToken_spaced {place : Place} {c : Char} {rest wide : List Char} {scanned : Scanned}
    (h : scanToken place c rest = .ok scanned) (hinside : scanned.extra ≤ rest.length)
    (hspaced : Spaced (rest.drop scanned.extra) wide)
    (hfield : scanned.token.kind = .separator → wide.head? = (rest.drop scanned.extra).head?)
    (position : Nat) :
    scanToken (place.moveTo position) c (rest.take scanned.extra ++ wide) =
      .ok (scanned.moveTo position) := by
  have hfinds := finds_of_scanToken h
  rw [← List.take_append_drop scanned.extra rest] at hfinds
  have hagain := hfinds.spaced (List.length_take_of_le hinside) hspaced hfield
  rw [scanToken_moveTo, scanToken_of_finds hagain]
  rfl

/-! ## All tokens -/

theorem Scanned.Placed.stop_eq {place : Place} {c : Char} {rest : List Char} {scanned : Scanned}
    (h : scanned.Placed place (c :: rest)) :
    scanned.token.stop = place.position + 1 + scanned.extra := by
  have hlength := h.spelled.length_eq
  rw [List.length_take_of_le h.inside] at hlength
  rw [stop, ← hlength, h.position]
  omega

/-- The text from a position on with blanks put in: `gaps` says which ones in front of the character
    at each position, and at the end of the text. -/
def widen (gaps : Nat → List Char) : Nat → List Char → List Char
  | position, [] => gaps position
  | position, c :: rest => gaps position ++ c :: widen gaps (position + 1) rest

/-- How many blanks are put in in front of the positions before this one. -/
def inserted (gaps : Nat → List Char) : Nat → Nat
  | 0 => 0
  | position + 1 => inserted gaps position + (gaps position).length

/-- The token behind the blanks that are put in up to its first character. -/
def moved (gaps : Nat → List Char) (token : Token) : Token :=
  { token with position := token.position + inserted gaps (token.position + 1) }

/-- The position is not within a token and not right behind a separator. -/
def IsBoundary (tokens : List Token) (position : Nat) : Prop :=
  ∀ token ∈ tokens, (position ≤ token.position ∨ token.stop ≤ position) ∧
    (token.kind = .separator → position ≠ token.stop)

instance (tokens : List Token) (position : Nat) : Decidable (IsBoundary tokens position) :=
  inferInstanceAs (Decidable (∀ token ∈ tokens, _ ∧ _))

section Widen

variable {gaps : Nat → List Char} (hblank : ∀ position, ∀ c ∈ gaps position, Text.isBlank c = true)

include hblank in
theorem spaced_widen (position : Nat) (text : List Char) :
    Spaced text (widen gaps position text) := by
  induction text generalizing position with
  | nil =>
    rw [widen, ← List.append_nil (gaps position)]
    exact .blanks (hblank position) .nil
  | cons c rest ih => exact .blanks (hblank position) (.keep (ih (position + 1)))

/-- Where no blanks are put in, the text stays as it is. -/
theorem widen_append {position : Nat} {more : List Char} (rest : List Char)
    (hnone : ∀ offset, offset < more.length → gaps (position + offset) = []) :
    widen gaps position (more ++ rest) = more ++ widen gaps (position + more.length) rest := by
  induction more generalizing position with
  | nil => rfl
  | cons c more ih =>
    have hfirst : gaps position = [] := hnone 0 (Nat.succ_pos _)
    rw [List.cons_append, widen, hfirst, List.nil_append, ih, List.length_cons, List.cons_append,
      Nat.add_assoc, Nat.add_comm 1]
    intro offset hoffset
    rw [Nat.add_assoc, Nat.add_comm 1]
    exact hnone (offset + 1) (Nat.succ_lt_succ hoffset)

/-- Blanks in front of a text are passed over. -/
theorem scanFrom_blanks {gap : List Char} (hgap : ∀ c ∈ gap, Text.isBlank c = true)
    (previous : Option TokenKind) (position : Nat) (rest : List Char) :
    scanFrom L previous position (gap ++ rest) =
      scanFrom L previous (position + gap.length) rest := by
  induction gap generalizing position with
  | nil => rfl
  | cons c gap ih =>
    obtain ⟨hc, hgap⟩ := List.forall_mem_cons.mp hgap
    rw [List.cons_append, scanFrom, if_pos hc, ih hgap, List.length_cons, Nat.add_assoc,
      Nat.add_comm 1]

theorem inserted_add {position count : Nat}
    (hnone : ∀ offset, offset < count → gaps (position + offset) = []) :
    inserted gaps (position + count) = inserted gaps position := by
  induction count with
  | zero => rfl
  | succ count ih =>
    rw [← Nat.add_assoc, inserted, hnone count (Nat.lt_succ_self _), List.length_nil,
      ih fun offset hoffset => hnone offset (Nat.lt_succ_of_lt hoffset), Nat.add_zero]

theorem head?_widen {position : Nat} (hnone : gaps position = []) (text : List Char) :
    (widen gaps position text).head? = text.head? := by
  cases text with
  | nil => rw [widen, hnone]
  | cons c rest => rw [widen, hnone]; rfl

include hblank in
/-- From each position on, the tokens are the same with blanks between them. -/
theorem scanFrom_widen {previous : Option TokenKind} {position : Nat} {text : List Char}
    {tokens : List Token} (h : scanFrom L previous position text = .ok tokens)
    (hboundary : ∀ position, gaps position ≠ [] → IsBoundary tokens position) :
    scanFrom L previous (position + inserted gaps position) (widen gaps position text) =
      .ok (tokens.map (moved gaps)) := by
  fun_induction scanFrom L previous position text generalizing tokens with
  | case1 previous position =>
    cases h
    rw [widen, ← List.append_nil (gaps position), scanFrom_blanks (hblank position), scanFrom]
    rfl
  | case2 previous position c rest hc ih =>
    rw [widen, scanFrom_blanks (hblank position), scanFrom, if_pos hc, ← ih h hboundary]
    congr 1
    rw [inserted]
    omega
  | case3 => cases h
  | case4 => cases h
  | case5 previous position c rest hc scanned hscanned others hothers ih =>
    cases h
    have hplaced := scanToken_placed (by simpa using hc) hscanned
    have hposition : scanned.token.position = position := hplaced.position
    have hstop : scanned.token.stop = position + 1 + scanned.extra := hplaced.stop_eq
    have hinside : scanned.extra ≤ rest.length := Nat.le_of_lt_succ hplaced.inside
    have hlength : (rest.take scanned.extra).length = scanned.extra :=
      List.length_take_of_le hinside
    -- No blanks are put in within the token.
    have hnone : ∀ offset, offset < scanned.extra → gaps (position + 1 + offset) = [] := by
      intro offset hoffset
      refine Decidable.of_not_not fun hgap => ?_
      have := (hboundary _ hgap scanned.token List.mem_cons_self).1
      omega
    have hwide : widen gaps (position + 1) rest = rest.take scanned.extra ++
        widen gaps (position + 1 + scanned.extra) (rest.drop scanned.extra) := by
      have happend : widen gaps (position + 1)
          (rest.take scanned.extra ++ rest.drop scanned.extra) = _ :=
        widen_append _ (by rwa [hlength])
      rwa [List.take_append_drop, hlength] at happend
    have hfield : scanned.token.kind = .separator →
        (widen gaps (position + 1 + scanned.extra) (rest.drop scanned.extra)).head? =
          (rest.drop scanned.extra).head? := by
      intro hkind
      refine head?_widen (Decidable.of_not_not fun hgap => ?_) _
      exact (hboundary _ hgap scanned.token List.mem_cons_self).2 hkind hstop.symm
    have hfound : scanToken
        ⟨L, previous, position + inserted gaps position + (gaps position).length⟩ c
        (rest.take scanned.extra ++
          widen gaps (position + 1 + scanned.extra) (rest.drop scanned.extra)) =
          .ok (scanned.moveTo (position + inserted gaps (position + 1))) := by
      rw [Nat.add_assoc]
      exact scanToken_spaced hscanned hinside (spaced_widen hblank _ _) hfield _
    have hlater := ih hothers fun position hgap token htoken =>
      hboundary position hgap token (List.mem_cons_of_mem _ htoken)
    rw [inserted_add hnone] at hlater
    have hnext : position + inserted gaps position + (gaps position).length + 1 + scanned.extra =
        position + 1 + scanned.extra + inserted gaps (position + 1) := by
      rw [inserted]
      omega
    rw [widen, scanFrom_blanks (hblank position), scanFrom, if_neg hc, hwide, hfound]
    simp only [Scanned.moveTo, List.drop_left' hlength, hnext, hlater]
    rw [List.map_cons, moved, hposition]

end Widen

/-- Blanks between the tokens of a text change nothing but their positions: with any blanks put in
    wherever there is no token and no separator right before, the text has the same tokens, each one
    as many characters further on as there were put in before it. -/
theorem scan_widen {text : String} {tokens : List Token} (hscan : scan L text = .ok tokens)
    {gaps : Nat → List Char} (hblank : ∀ position, ∀ c ∈ gaps position, Text.isBlank c = true)
    (hboundary : ∀ position, gaps position ≠ [] → IsBoundary tokens position) :
    scan L (String.ofList (widen gaps 0 text.toList)) = .ok (tokens.map (moved gaps)) := by
  have hwide := scanFrom_widen hblank hscan hboundary
  rw [scan, String.toList_ofList]
  exact hwide

/-- Blanks in front of a parenthesis, a separator and a sign, and at the end. -/
theorem scan_widen_standard :
    let gaps : Nat → List Char := fun position => if position ∈ [3, 5, 9, 12] then [' '] else []
    ∃ tokens, scan Configuration.standard.toLanguage "SUM(a.b>=-1)" = .ok tokens ∧
      (∀ position, ∀ c ∈ gaps position, Text.isBlank c = true) ∧
      (∀ position, gaps position ≠ [] → IsBoundary tokens position) ∧
      scan Configuration.standard.toLanguage "SUM (a .b>= -1) " =
        .ok (tokens.map (moved gaps)) := by
  intro gaps
  have hrun : ((scan Configuration.standard.toLanguage "SUM(a.b>=-1)").toOption.any fun tokens =>
      [3, 5, 9, 12].all fun position => decide (IsBoundary tokens position)) = true := by
    decide +kernel
  obtain ⟨tokens, hscan, hplaces⟩ := ok_of_any hrun
  have hblank : ∀ position, ∀ c ∈ gaps position, Text.isBlank c = true := by
    have hspace : Text.isBlank ' ' = true := by decide +kernel
    intro position c hc
    by_cases hplace : position ∈ [3, 5, 9, 12]
    · simp only [gaps, if_pos hplace, List.mem_singleton] at hc
      rwa [hc]
    · simp only [gaps, if_neg hplace, List.not_mem_nil] at hc
  have hboundary : ∀ position, gaps position ≠ [] → IsBoundary tokens position := by
    intro position hgap
    have hplace : position ∈ [3, 5, 9, 12] := by
      refine Decidable.of_not_not fun hplace => hgap ?_
      simp only [gaps, if_neg hplace]
    exact of_decide_eq_true (List.all_eq_true.mp hplaces position hplace)
  exact ⟨tokens, hscan, hblank, hboundary, scan_widen hscan hblank hboundary⟩

end Token
end Formula

-- SUMMARY: A multiplication sign that is left out between two operands may as well be written.
import Formula.Configuration
import Formula.Proofs.Parsing.Awaiting
import Formula.Proofs.Parsing.Build
import Formula.Proofs.Result

/-!
# Multiplication signs that are left out

Where two operands stand side by side the parser multiplies them, unless one of them is text.
`Token.multiplied` writes the sign that is left out. The parser reads the operand behind it as it
reads the sign and the operand (`step_star`), whatever its stacks hold and whatever goes wrong, so
it makes the same of both lists of tokens.
-/

namespace Formula

/-! ## Writing the signs -/

namespace Token

/-- The tokens after one of the given kind, with a multiplication sign between operands that stand
    side by side and are no text. -/
def multiplied : Option TokenKind → List Token → List Token
  | _, [] => []
  | previous, token :: rest =>
    if isAdjacent previous token && previous != some .text && token.kind != .text then
      star token :: token :: multiplied (some token.kind) rest
    else token :: multiplied (some token.kind) rest

/-- The last token stays the last. -/
theorem getLast?_multiplied (previous : Option TokenKind) (tokens : List Token) :
    (multiplied previous tokens).getLast? = tokens.getLast? := by
  induction tokens generalizing previous with
  | nil => rfl
  | cons token rest ih =>
    simp only [multiplied]
    split
    · rw [List.getLast?_cons, List.getLast?_cons, List.getLast?_cons, ih]
      rfl
    · rw [List.getLast?_cons, List.getLast?_cons, ih]

/-- An operand that is complete was not ended by a separator, and another one begins. -/
theorem isAdjacent_cases {previous : Option TokenKind} {token : Token}
    (h : isAdjacent previous token = true) :
    token.kind.startsValue = true ∧ previous ≠ some .separator ∧
      ∃ kind, previous = some kind ∧ kind.endsValue = true := by
  unfold isAdjacent at h
  split at h
  · obtain ⟨hends, hstarts⟩ := Bool.and_eq_true_iff.mp h
    refine ⟨hstarts, ?_, _, rfl, hends⟩
    rintro ⟨⟩
    cases hends
  · cases h

end Token

namespace Parser

variable {L : Language}

/-! ## The separator that waits for a field -/

theorem join_awaitedField (token : Token) (parser : Parser) :
    Yields (fun next => next.awaitedField = parser.awaitedField) (join L token parser) :=
  fun next h => (@join_keeps L .separator (by decide) token parser next h).waiting

/-- The field that a token leaves to be named: a separator asks for one, a name is one, and nothing
    else makes a difference. -/
theorem awaitedField_of_take {token : Token} {parser next : Parser}
    (h : take L token parser = .ok next) :
    next.awaitedField = match token.kind with
      | .separator => some token
      | .name => none
      | _ => parser.awaitedField := by
  have hwaiting : next.awaitedField = if token.kind = .separator then some token
      else if token.kind = .name then none else parser.awaitedField :=
    (@take_answers L .separator parser .name token rfl next h).waiting
  rw [hwaiting]
  cases token.kind <;> rfl

/-- Between two tokens a separator waits for a field only if it was the last token. -/
def Waits (parser : Parser) : Prop :=
  parser.awaitedField.isSome = true → parser.previous = some .separator

theorem step_waits {M : Language} {token : Token} {parser next : Parser} (hwaits : parser.Waits)
    (hfits : Token.Fits M parser.previous token) (h : step L parser token = .ok next) :
    next.Waits ∧ next.previous = some token.kind := by
  rw [step_eq] at h
  obtain ⟨joined, hjoin, h⟩ := ok_of_bind h
  obtain ⟨taken, htake, h⟩ := ok_of_bind h
  cases h
  refine ⟨fun hsome => ?_, rfl⟩
  have hjoined := join_awaitedField token parser joined hjoin
  have htaken := awaitedField_of_take htake
  by_cases hseparator : token.kind = .separator
  · exact congrArg some hseparator
  · simp only [htaken] at hsome
    split at hsome
    · rename_i hkind
      exact absurd hkind hseparator
    · cases hsome
    · rename_i hname
      rw [hjoined] at hsome
      exact absurd (hfits.afterSeparator (hwaits hsome)) hname

/-! ## One operand behind another -/

/-- Which token came before makes no difference to reading the beginning of an operand. -/
theorem take_behind {token : Token} (hstarts : token.kind.startsValue = true)
    (previous : Option TokenKind) (parser : Parser) :
    (take L token { parser with previous := previous } >>= fun next =>
      .ok { next with previous := some token.kind }) =
    take L token parser >>= fun next => .ok { next with previous := some token.kind } := by
  simp only [take]
  cases hkind : token.kind with
  | number | text | function => rfl
  | name =>
    cases hfield : parser.awaitedField with
    | none => rfl
    | some separator =>
      unfold accessField floor
      by_cases hfloor : parser.operands.length ≤ parser.floors.headD 0
      · simp only [if_pos hfloor]
      · simp only [if_neg hfloor, bind_assoc]
        rfl
  | parenOpen =>
    simp only [openParen]
    cases parser.awaitedCall with
    | none => rfl
    | some call =>
      simp only
      cases L.functions.find? call.lexeme <;> rfl
  | _ => simp [hkind, TokenKind.startsValue] at hstarts

/-- Behind an operator nothing is multiplied. -/
theorem join_behind_operator (token : Token) {parser : Parser}
    (h : parser.previous = some .infixOperator) : join L token parser = .ok parser := by
  unfold join joinAdjacent
  rw [h]
  split <;> rfl

/-- Between two operands that are no text the parser reads a multiplication sign. -/
theorem join_eq_take_star (himplicit : L.settings.implicitMultiplication = true)
    (hknown : (L.operators.find? .between "*").isSome = true) {token : Token} {parser : Parser}
    (hwaits : parser.Waits) (hadjacent : Token.isAdjacent parser.previous token = true)
    (hbefore : parser.previous ≠ some .text) (hbehind : token.kind ≠ .text) :
    join L token parser = take L (Token.star token) parser := by
  obtain ⟨operator, hfound⟩ := Option.isSome_iff_exists.mp hknown
  obtain ⟨hstarts, hseparator, kind, hkind, hends⟩ := Token.isAdjacent_cases hadjacent
  have hfield : parser.awaitedField = none := by
    cases hfield : parser.awaitedField with
    | none => rfl
    | some separator => exact absurd (hwaits (by rw [hfield]; rfl)) hseparator
  have htext : kind ≠ .text := fun h => hbefore (h ▸ hkind)
  have hresolve : resolve L (Token.star token) = .ok operator := by
    simp [resolve, Token.star, TokenKind.fixity?, hfound]
  have htake : take L (Token.star token) parser =
      pushOperator L (Token.star token) operator parser := by
    unfold take
    rw [hresolve]
    rfl
  rw [htake]
  simp [join, joinAdjacent, hstarts, hfield, hkind, hends, himplicit, htext, hbehind, hfound,
    Token.star]

/-- Reading an operand right behind another one is reading a multiplication sign and the operand. -/
theorem step_star (himplicit : L.settings.implicitMultiplication = true)
    (hknown : (L.operators.find? .between "*").isSome = true) {token : Token} {parser : Parser}
    (hwaits : parser.Waits) (hadjacent : Token.isAdjacent parser.previous token = true)
    (hbefore : parser.previous ≠ some .text) (hbehind : token.kind ≠ .text) :
    (step L parser (Token.star token) >>= fun next => step L next token) =
      step L parser token := by
  have hstarts := (Token.isAdjacent_cases hadjacent).1
  have hsign : step L parser (Token.star token) =
      take L (Token.star token) parser >>= fun next =>
        .ok { next with previous := some .infixOperator } := rfl
  rw [hsign, bind_assoc, step_eq,
    join_eq_take_star himplicit hknown hwaits hadjacent hbefore hbehind]
  congr 1
  funext next
  change step L { next with previous := some .infixOperator } token = _
  rw [step_eq, join_behind_operator token rfl]
  exact take_behind hstarts _ next

/-! ## All tokens -/

/-- From any state between two tokens the parser makes the same of both lists. -/
theorem foldlM_multiplied {M : Language} (himplicit : L.settings.implicitMultiplication = true)
    (hknown : (L.operators.find? .between "*").isSome = true) {previous : Option TokenKind}
    {tokens : List Token} (hstream : Token.Stream M previous tokens) {parser : Parser}
    (hprevious : parser.previous = previous) (hwaits : parser.Waits) :
    (Token.multiplied previous tokens).foldlM (step L) parser = tokens.foldlM (step L) parser := by
  induction hstream generalizing parser with
  | nil => rfl
  | @cons previous token rest hfits _ ih =>
    subst hprevious
    have hrest : ∀ next, step L parser token = .ok next →
        (Token.multiplied (some token.kind) rest).foldlM (step L) next =
          rest.foldlM (step L) next := by
      intro next hstep
      obtain ⟨hnext, hkind⟩ := step_waits hwaits hfits hstep
      exact ih hkind hnext
    have hread : ((step L parser token) >>= fun next =>
        (Token.multiplied (some token.kind) rest).foldlM (step L) next) =
          (token :: rest).foldlM (step L) parser := by
      rw [List.foldlM_cons]
      cases hstep : step L parser token with
      | error error => rfl
      | ok next => exact hrest next hstep
    rw [← hread, Token.multiplied]
    split
    · rename_i hmultiplied
      simp only [Bool.and_eq_true, bne_iff_ne, ne_eq] at hmultiplied
      obtain ⟨⟨hadjacent, hbefore⟩, hbehind⟩ := hmultiplied
      rw [List.foldlM_cons, ← step_star himplicit hknown hwaits hadjacent hbefore hbehind,
        bind_assoc]
      rfl
    · rw [List.foldlM_cons]

end Parser

namespace Tree

variable {L : Language}

/-- Where operands may be multiplied without a sign, the parser makes the same of the tokens of a
    text, the same tree or the same error, when the signs that are left out between operands that
    are no text are written, each in the place of the operand behind it. -/
theorem ofTokens_multiplied {M : Language}
    (himplicit : L.settings.implicitMultiplication = true)
    (hknown : (L.operators.find? .between "*").isSome = true) {text : String} {tokens : List Token}
    (hscan : Token.scan M text = .ok tokens) :
    ofTokens L (Token.multiplied none tokens) = ofTokens L tokens := by
  have hfold : (Token.multiplied none tokens).foldlM (Parser.step L) Parser.start =
      tokens.foldlM (Parser.step L) Parser.start :=
    Parser.foldlM_multiplied himplicit hknown (Token.scan_stream hscan) rfl nofun
  unfold ofTokens endPosition
  rw [hfold, Token.getLast?_multiplied]

theorem ofTokens_multiplied_standard : ∃ tokens,
    Token.scan Configuration.standard.toLanguage "2(a + 1) b" = .ok tokens ∧
    (Token.multiplied none tokens).map (fun token => (token.lexeme, token.position)) =
      [("2", 0), ("*", 1), ("(", 1), ("a", 2), ("+", 4), ("1", 6), (")", 7), ("*", 9), ("b", 9)] ∧
    ofTokens Configuration.standard.toLanguage (Token.multiplied none tokens) =
      ofTokens Configuration.standard.toLanguage tokens := by
  have hrun : ((Token.scan Configuration.standard.toLanguage "2(a + 1) b").toOption.any
      fun tokens => (Token.multiplied none tokens).map (fun token =>
        (token.lexeme, token.position)) ==
      [("2", 0), ("*", 1), ("(", 1), ("a", 2), ("+", 4), ("1", 6), (")", 7), ("*", 9),
        ("b", 9)]) = true := by
    decide +kernel
  obtain ⟨tokens, hscan, hsigns⟩ := ok_of_any hrun
  have hknown : (Configuration.standard.toLanguage.operators.find? .between "*").isSome = true := by
    decide +kernel
  exact ⟨tokens, hscan, eq_of_beq hsigns, ofTokens_multiplied rfl hknown hscan⟩

end Tree
end Formula

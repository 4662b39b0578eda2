-- SUMMARY: What stands around a token of a formula's text, and what the parser can find wrong with such tokens.
import Formula.Proofs.Parsing.Acceptance
import Formula.Proofs.Result

/-!
# Faults of a text

The parser relies on what the scanner promises: each token stands between tokens that it can stand
between (`Token.Surrounded`). What it can still find wrong is how the tokens stand together
(`ParseFault.isStructural`). It knows every operator, it never has an operand to spare, and it runs
out of tokens only where there are none.
-/

namespace Formula

/-! ## Neighbours -/

namespace Token

variable {L : Language}

/-- What stands right before and right after a token of a formula's text. -/
structure Surrounded (L : Language) (before : List Token) (token : Token) (after : List Token) :
    Prop where
  /-- What continues an operand stands behind one. -/
  behindValue : token.kind = .infixOperator ∨ token.kind = .postfixOperator ∨
    token.kind = .arrayOpen ∨ token.kind = .separator →
    ∃ last, before.getLast? = some last ∧ last.kind.endsValue = true
  /-- An operator before its operand stands behind none. -/
  beforeValue : token.kind = .prefixOperator →
    ∀ last, before.getLast? = some last → last.kind.endsValue = false
  called : token.kind = .function → ∃ next, after.head? = some next ∧ next.kind = .parenOpen
  named : token.kind = .separator → ∃ next, after.head? = some next ∧ next.kind = .name
  knownOperator : ∀ fixity : Fixity, token.kind = fixity.tokenKind →
    (L.operators.find? fixity token.lexeme).isSome = true
  knownFunction : token.kind = .function → (L.functions.find? token.lexeme).isSome = true
  notIndex : token.kind ≠ .arrayIndex

theorem Stream.of_append {previous : Option TokenKind} {before after : List Token}
    (h : Stream L previous (before ++ after)) : Stream L (kindAfter previous before) after := by
  induction before generalizing previous with
  | nil => exact h
  | cons token rest ih =>
    cases h with
    | cons _ hrest => exact ih hrest

theorem kindAfter_none (tokens : List Token) :
    kindAfter none tokens = tokens.getLast?.map (·.kind) := by
  rw [kindAfter_eq, Option.or_none]

/-- What the scanner promises of a token behind the one before it is what stands around it. -/
theorem Stream.surrounded {before after : List Token} {token : Token}
    (h : Stream L none (before ++ token :: after)) : Surrounded L before token after := by
  have hlast : ∀ last, before.getLast? = some last → kindAfter none before = some last.kind := by
    intro last h
    rw [kindAfter_none, h]
    rfl
  cases h.of_append with
  | cons hfits hrest =>
    constructor
    case behindValue =>
      intro hkind
      obtain ⟨kind, hprevious, hends⟩ := hfits.behindValue hkind
      rw [kindAfter_none] at hprevious
      obtain ⟨last, hlast, rfl⟩ := Option.map_eq_some_iff.mp hprevious
      exact ⟨last, hlast, hends⟩
    case beforeValue =>
      intro hkind last h
      exact hfits.beforeValue hkind last.kind (hlast last h)
    case called =>
      intro hkind
      rw [hkind] at hrest
      cases hrest with
      | nil hfunction _ => exact absurd rfl hfunction
      | cons hnext _ => exact ⟨_, rfl, hnext.afterFunction rfl⟩
    case named =>
      intro hkind
      rw [hkind] at hrest
      cases hrest with
      | nil _ hseparator => exact absurd rfl hseparator
      | cons hnext _ => exact ⟨_, rfl, hnext.afterSeparator rfl⟩
    case knownOperator => exact hfits.knownOperator
    case knownFunction => exact hfits.knownFunction
    case notIndex => exact hfits.notIndex

/-- After the last token nothing is called for. -/
theorem Stream.ends {previous : Option TokenKind} {tokens : List Token}
    (h : Stream L previous tokens) :
    kindAfter previous tokens ≠ some .function ∧ kindAfter previous tokens ≠ some .separator := by
  induction h with
  | nil hfunction hseparator => exact ⟨hfunction, hseparator⟩
  | cons _ _ ih => exact ih

end Token

/-! ## Faults while tokens are read -/

namespace ParseFault

/-- A fault of how the tokens stand together, or of how deep they nest. -/
def isStructural : ParseFault → Bool
  | undefinedFunction | unmatchedParenthesis | unmatchedBracket | emptyArgument
  | argumentCount _ _ | missingOperand | missingOperator | unexpectedToken | nestingTooDeep _ =>
    true
  | _ => false

end ParseFault

namespace Parser

open Cursor (due called read fielded)

/-- Whatever error a computation ends with, the tokens do not stand together. -/
def RaisesStructural {α : Type} (result : Except ParseError α) : Prop :=
  Raises (fun error => error.fault.isStructural = true) result

variable {L : Language}

theorem pushOperand_raises (operand : Operand) (operands : List Operand) :
    RaisesStructural (pushOperand L operand operands) := by
  simp only [pushOperand]
  split
  · exact .error rfl
  · exact .ok

theorem reduce_raises (floor : Nat) (token : Token) (operator : Operator)
    (operands : List Operand) : RaisesStructural (reduce L floor token operator operands) := by
  simp only [reduce]
  split
  · exact .error rfl
  · exact pushOperand_raises _ _

theorem reduceWhile_raises (floor : Nat) (now : Operator → Bool) (pending : List Pending)
    (operands : List Operand) : RaisesStructural (reduceWhile L floor now pending operands) := by
  fun_induction reduceWhile L floor now pending operands with
  | case1 token operator rest operands hnow ih =>
    exact (reduce_raises floor token operator operands).bind fun reduced _ => ih reduced
  | case2 => exact .ok
  | case3 => exact .ok

theorem settle_raises (now : Operator → Bool) (parser : Parser) :
    RaisesStructural (settle L now parser) :=
  (reduceWhile_raises _ _ _ _).bind fun _ _ => .ok

theorem pushOperator_raises (token : Token) (operator : Operator) (parser : Parser) :
    RaisesStructural (pushOperator L token operator parser) :=
  (settle_raises _ parser).bind fun _ _ => .ok

theorem joinAdjacent_raises (token : Token) (parser : Parser) :
    RaisesStructural (joinAdjacent L token parser) := by
  unfold joinAdjacent
  split
  · exact .ok
  · simp only
    split
    · exact .ok
    · split
      · exact .error rfl
      · split
        · exact .error rfl
        · exact pushOperator_raises _ _ _

theorem openParen_raises (token : Token) (parser : Parser) :
    RaisesStructural (openParen L token parser) := by
  simp only [openParen]
  split
  · exact .ok
  · split
    · exact .error rfl
    · exact .ok

theorem comma_raises (token : Token) (parser : Parser) :
    RaisesStructural (comma L token parser) := by
  refine (settle_raises _ parser).bind fun settled _ => ?_
  simp only
  split
  · split
    · exact .error rfl
    · exact .ok
  · exact .error rfl

theorem closeParen_raises (token : Token) (parser : Parser) :
    RaisesStructural (closeParen L token parser) := by
  refine (settle_raises _ parser).bind fun settled _ => ?_
  simp only
  split
  · split
    · exact .ok
    · exact .error rfl
  · split
    · exact .error rfl
    · split
      · exact .error rfl
      · exact (pushOperand_raises _ _).bind fun _ _ => .ok
  · exact .error rfl
  · exact .error rfl
  · exact .error rfl

theorem closeBracket_raises (token : Token) (parser : Parser) :
    RaisesStructural (closeBracket L token parser) := by
  refine (settle_raises _ parser).bind fun settled _ => ?_
  simp only
  split
  · split
    · exact .error rfl
    · exact (pushOperand_raises _ _).bind fun _ _ => .ok
  · exact .error rfl
  · exact .error rfl
  · exact .error rfl

theorem openBracket_raises (token : Token) (parser : Parser) :
    RaisesStructural (openBracket L token parser) :=
  (settle_raises _ parser).bind fun _ _ => .ok

theorem accessField_raises (separator field : Token) (parser : Parser) :
    RaisesStructural (accessField L separator field parser) := by
  simp only [accessField]
  split
  · exact .error rfl
  · exact (pushOperand_raises _ _).bind fun _ _ => .ok

/-- An operator that the language knows is found. -/
theorem resolve_raises (fixity : Fixity) {token : Token} (hknown : token.Known L)
    (hkind : token.kind = fixity.tokenKind) : RaisesStructural (resolve L token) := by
  obtain ⟨operator, hfound⟩ := Option.isSome_iff_exists.mp (hknown fixity hkind)
  unfold resolve
  rw [hkind, fixity.fixity?_tokenKind, Option.getD_some, hfound]
  exact .ok

theorem take_raises {token : Token} (hknown : token.Known L) (parser : Parser) :
    RaisesStructural (take L token parser) := by
  unfold take
  split <;> rename_i hkind
  · exact .ok
  · exact .ok
  · split
    · exact accessField_raises _ _ _
    · exact .ok
  · exact .ok
  · exact openParen_raises _ _
  · exact closeParen_raises _ _
  · exact comma_raises _ _
  · exact (resolve_raises .before hknown hkind).bind fun _ _ => .ok
  · exact (resolve_raises .between hknown hkind).bind
      fun operator _ => pushOperator_raises token operator parser
  · exact (resolve_raises .after hknown hkind).bind
      fun operator _ => pushOperator_raises token operator parser
  · exact openBracket_raises _ _
  · exact closeBracket_raises _ _
  · exact (settle_raises _ parser).bind fun _ _ => .ok
  · exact .error rfl

/-- A token with a known operator is refused only for how it stands to the others. -/
theorem step_raises {token : Token} (hknown : token.Known L) (parser : Parser) :
    RaisesStructural (step L parser token) := by
  have hjoin : RaisesStructural (join L token parser) := by
    unfold join
    split
    · exact joinAdjacent_raises _ _
    · exact .ok
  rw [step_eq]
  refine hjoin.bind fun joined _ => ?_
  exact (take_raises hknown joined).bind fun _ _ => .ok

/-! ## Faults at the end -/

theorem Cursor.Move.ne_start {t : Token} {cursor next : Cursor L} (h : Move L t cursor next) :
    next ≠ start := by
  cases h <;> exact nofun

/-- Only where no token was read is nothing open and an operand missing. -/
theorem Cursor.eq_nil_of_run {tokens : List Token}
    (h : run none (start : Cursor L) tokens = some start) : tokens = [] := by
  have hmoves := moves_of_run .start h
  generalize hjoined : [] ++ Token.joined none tokens = joined at hmoves
  generalize hlast : (start : Cursor L) = last at hmoves
  cases hmoves with
  | start =>
    cases tokens with
    | nil => rfl
    | cons token rest => simp [Token.joined, Token.isAdjacent] at hjoined
  | move _ hmove => exact absurd hlast.symm hmove.ne_start

/-- Behind some tokens of which the last one calls for no other, what is wrong at the end is that an
    operand is missing or a bracket is open. -/
theorem finish_raises {previous : Option TokenKind} {cursor : Cursor L}
    (hagrees : cursor.Agrees previous) (hfunction : previous ≠ some .function)
    (hseparator : previous ≠ some .separator) (hstart : cursor ≠ Cursor.start) (position : Nat) :
    RaisesStructural (finish L position (cursor.parser previous)) := by
  cases cursor with
  | called call c => exact absurd hagrees.1 hfunction
  | fielded separator c x => exact absurd hagrees.1 hseparator
  | due c =>
    cases hframe : c.isFrame with
    | false =>
      obtain ⟨error, herror⟩ := settleFrame_due_error hframe previous
      have hfault := settle_raises (L := L) (fun _ => true) ((due c).parser previous) error herror
      simp only [finish, Cursor.parser, Option.or_none] at herror ⊢
      rw [herror]
      exact .error hfault
    | true =>
      have hsettle := settle_due (fun _ => true) hframe previous
      simp only [Cursor.parser] at hsettle
      simp only [finish, Cursor.parser, Option.or_none, settleFrame, hsettle]
      cases c with
      | before sign outer => cases hframe
      | after sign outer => cases hframe
      | between left sign outer => cases hframe
      | top => exact absurd rfl hstart
      | group paren outer => exact .error rfl
      | call callee arguments outer => exact .error rfl
      | index array bracket outer => exact .error rfl
  | read c x =>
    obtain ⟨d, y, hsettled, hframe, -⟩ := c.exists_settled x
    refine (settle_raises _ _).bind fun settled hsettle => ?_
    rcases settle_read hsettled previous with hread | ⟨_, token, herror⟩
    · rw [hread] at hsettle
      cases hsettle
      cases d with
      | before sign outer => cases hframe
      | after sign outer => cases hframe
      | between left sign outer => cases hframe
      | top => exact .ok
      | group paren outer => exact .error rfl
      | call callee arguments outer => exact .error rfl
      | index array bracket outer => exact .error rfl
    · rw [herror] at hsettle
      cases hsettle

end Parser

/-! ## Faults of a text -/

namespace Tree

open Formula.Parser (Cursor RaisesStructural)

variable {L : Language}

/-- What is wrong with a stream of tokens is how they stand together, if there are any. -/
theorem ofTokens_raises {tokens : List Token} (hstream : Token.Stream L none tokens)
    (hnonempty : tokens ≠ []) : RaisesStructural (ofTokens L tokens) := by
  have hfold : RaisesStructural (tokens.foldlM (Parser.step L) Parser.start) :=
    .foldlM (fun token htoken => Parser.step_raises (hstream.known token htoken)) _
  refine hfold.bind fun parser hparser => ?_
  cases hrun : Cursor.run none (Cursor.start : Cursor L) tokens with
  | none =>
    obtain ⟨error, herror⟩ := Parser.foldlM_error Cursor.agrees_start hstream hrun
    rw [parser_start, hparser] at herror
    cases herror
  | some last =>
    rcases Parser.foldlM_of_run Cursor.agrees_start hrun with hok | ⟨_, token, herror⟩
    · rw [parser_start, hparser] at hok
      cases hok
      have hagrees := Cursor.run_agrees Cursor.agrees_start hrun
      refine Parser.finish_raises hagrees hstream.ends.1 hstream.ends.2 ?_ _
      rintro rfl
      exact hnonempty (Cursor.eq_nil_of_run hrun)
    · rw [parser_start, hparser] at herror
      cases herror

/-- In the tokens of a text, what continues an operand stands right behind one and an operator
    before its operand stands behind none, a parenthesis comes right after a function and a name
    right after a separator, and the language has every operator and every function. So the parser
    knows every operator of a text and leaves no operand over, and it runs out of tokens exactly if
    there is none. -/
theorem faults_of_scan {text : String} {tokens : List Token}
    (hscan : Token.scan L text = .ok tokens) :
    (∀ before token after, tokens = before ++ token :: after →
      token.Surrounded L before after) ∧
    ∀ error, ofTokens L tokens = .error error →
      error.fault ≠ .undefinedOperator ∧ error.fault ≠ .tooManyOperands ∧
      (error.fault = .unexpectedEnd ↔ tokens = []) := by
  have hstream := Token.scan_stream hscan
  refine ⟨?_, fun error herror => ?_⟩
  · rintro before token after rfl
    exact hstream.surrounded
  · cases tokens with
    | nil =>
      cases herror
      exact ⟨nofun, nofun, fun _ => rfl, fun _ => rfl⟩
    | cons token rest =>
      have hfault : error.fault.isStructural = true :=
        ofTokens_raises hstream (List.cons_ne_nil token rest) error herror
      have hother : ∀ fault : ParseFault, fault.isStructural = false → error.fault ≠ fault := by
        rintro fault hnot rfl
        rw [hfault] at hnot
        cases hnot
      exact ⟨hother _ rfl, hother _ rfl, fun h => absurd h (hother _ rfl), nofun⟩

theorem faults_of_scan_standard : ∃ tokens error,
    Token.scan Configuration.standard.toLanguage "-a[1" = .ok tokens ∧
    ofTokens Configuration.standard.toLanguage tokens = .error error ∧
    error.fault ≠ .undefinedOperator ∧ error.fault ≠ .tooManyOperands ∧
    (error.fault = .unexpectedEnd ↔ tokens = []) := by
  have hrun : (match Token.scan Configuration.standard.toLanguage "-a[1" with
      | .ok tokens => !(ofTokens Configuration.standard.toLanguage tokens).toBool
      | .error _ => false) = true := by
    decide +kernel
  split at hrun
  · rename_i tokens hscan
    cases htree : ofTokens Configuration.standard.toLanguage tokens with
    | ok tree =>
      rw [htree] at hrun
      cases hrun
    | error error => exact ⟨tokens, error, hscan, htree, (faults_of_scan hscan).2 error htree⟩
  · cases hrun

end Tree
end Formula

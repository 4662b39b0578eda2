-- SUMMARY: Where a parse error points: the text goes on with its lexeme there, but for literals and multiplication signs that are left out.
import Formula.Configuration
import Formula.Proofs.Parsing.Faults
import Formula.Proofs.Parsing.Multiplication
import Formula.Proofs.Token.Layout

/-!
# Places of parse errors

The scanner reports the characters that it has read of a token. The parser reports tokens: the one
that it reads, one that it keeps on its stack, or a multiplication sign that is left out. The sign
is reported in the place of the operand behind it, and only when it is applied. What may be said of
a token is a property of errors here (`Parser.Charges`, `Parser.Applies`), so that the parser is
followed once for every such property (`Parser.ofTokens_raises_of`), and what the text has at the
place is left to the layout of its tokens (`ParseError.Located`).
-/

namespace Formula

/-! ## Errors of the scanner -/

namespace Token

variable {L : Language}

/-- The error is reported at the place, and the text goes on with its lexeme there. -/
def BeginsWith (place : Place) (text : List Char) (error : ParseError) : Prop :=
  error.position = place.position ∧ error.lexeme.toList <+: text

theorem raises_beginsWith {α : Type} {place : Place} {text lexeme : List Char}
    (fault : ParseFault) (h : lexeme <+: text) :
    Raises (BeginsWith place text) (.error (place.error fault lexeme) : Except ParseError α) :=
  .error ⟨rfl, by simpa [Place.error] using h⟩

theorem numberToken_raises (place : Place) (text : List Char) :
    Raises (BeginsWith place text) (numberToken place text) := by
  simp only [numberToken]
  split
  · exact raises_beginsWith _ (scanNumber_begins text).1
  · split
    · exact raises_beginsWith _ (scanNumber_begins text).1
    · exact .ok

theorem quotedToken_raises (place : Place) (quote : Char) (rest : List Char) :
    Raises (BeginsWith place (quote :: rest)) (quotedToken place quote rest) := by
  unfold quotedToken
  split
  · exact raises_beginsWith _ List.prefix_rfl
  · exact .ok

theorem arrayToken_raises (place : Place) (kind : TokenKind) (c : Char) (rest : List Char) :
    Raises (BeginsWith place (c :: rest)) (arrayToken place kind c) := by
  have hc : [c] <+: c :: rest := List.prefix_append [c] rest
  unfold arrayToken
  split
  · exact raises_beginsWith _ hc
  · split
    · exact raises_beginsWith _ hc
    · exact .ok

theorem separatorToken_raises (place : Place) (rest : List Char) :
    Raises (BeginsWith place ('.' :: rest)) (separatorToken place rest) := by
  have hpoint : ['.'] <+: '.' :: rest := List.prefix_append ['.'] rest
  exact .ite (fun _ => raises_beginsWith _ hpoint) fun _ =>
    .ite (fun _ => raises_beginsWith _ hpoint) fun _ => .ok

theorem nameToken_raises (place : Place) (text : List Char) :
    Raises (BeginsWith place text) (nameToken place text) := by
  simp only [nameToken]
  split
  · exact .ok
  · split
    · exact .ok
    · split
      · exact .ok
      · split
        · exact raises_beginsWith _ (List.takeWhile_prefix _)
        · exact .ok

theorem operatorToken_raises (place : Place) (c : Char) (rest : List Char) :
    Raises (BeginsWith place (c :: rest)) (operatorToken place c (c :: rest)) := by
  have hrun : ((c :: rest).takeWhile isOperatorChar).take
      (max place.language.operators.longestName 1) <+: c :: rest :=
    (List.take_prefix _ _).trans (List.takeWhile_prefix _)
  simp only [operatorToken]
  split
  · exact raises_beginsWith _ (List.prefix_append [c] rest)
  · split
    · exact .ok
    · split
      · exact raises_beginsWith _ hrun
      · exact raises_beginsWith _ hrun

/-- Whatever is wrong with the token that begins with a character is reported there. -/
theorem scanToken_raises (place : Place) (c : Char) (rest : List Char) :
    Raises (BeginsWith place (c :: rest)) (scanToken place c rest) := by
  refine .ite (fun _ => .ok) fun _ => .ite (fun _ => .ok) fun _ => .ite (fun _ => .ok) fun _ => ?_
  refine .ite (fun _ => arrayToken_raises place _ c rest) fun _ =>
    .ite (fun _ => arrayToken_raises place _ c rest) fun _ => ?_
  refine .ite (fun _ => quotedToken_raises place c rest) fun _ =>
    .ite (fun _ => quotedToken_raises place c rest) fun _ => .ite (fun hpoint => ?_) fun _ => ?_
  · rw [hpoint]
    exact .ite (fun _ => numberToken_raises place _) fun _ => separatorToken_raises place rest
  · exact .ite (fun _ => numberToken_raises place _) fun _ =>
      .ite (fun _ => nameToken_raises place _) fun _ => operatorToken_raises place c rest

theorem scanFrom_raises (previous : Option TokenKind) (position : Nat) (text : List Char) :
    Raises (fun error => ∃ index, index < text.length ∧ error.position = position + index ∧
      error.lexeme.toList <+: text.drop index) (scanFrom L previous position text) := by
  fun_induction scanFrom L previous position text with
  | case1 => exact .ok
  | case2 previous position c rest _ ih =>
    intro error herror
    obtain ⟨index, hindex, hposition, hlexeme⟩ := ih error herror
    exact ⟨index + 1, Nat.succ_lt_succ hindex, by omega, hlexeme⟩
  | case3 previous position c rest _ found hfound =>
    obtain ⟨hposition, hlexeme⟩ := scanToken_raises _ c rest found hfound
    exact .error ⟨0, Nat.succ_pos _, hposition, hlexeme⟩
  | case4 previous position c rest _ scanned _ found hfound ih =>
    obtain ⟨index, hindex, hposition, hlexeme⟩ := ih found hfound
    rw [List.length_drop] at hindex
    rw [List.drop_drop] at hlexeme
    refine .error ⟨scanned.extra + index + 1, ?_, by omega, hlexeme⟩
    rw [List.length_cons]
    omega
  | case5 => exact .ok

end Token

/-! ## Errors of the parser -/

namespace Parser

variable {L : Language} {E : ParseError → Prop} {parser : Parser} {token : Token}

/-- Everything that can be wrong may be reported about the token. -/
def Charges (E : ParseError → Prop) (token : Token) : Prop := ∀ fault, E (errorAt token fault)

/-- That it lacks an operand and that its tree is too deep may be reported about the token. -/
structure Applies (E : ParseError → Prop) (token : Token) : Prop where
  lacks : E (errorAt token .missingOperand)
  deep : ∀ limit, E (errorAt token (.nestingTooDeep limit))

theorem Charges.applies (h : Charges E token) : Applies E token := ⟨h _, fun _ => h _⟩

/-- What may be reported about an entry of the pending stack. -/
def Reports (E : ParseError → Prop) : Pending → Prop
  | .operator token _ => Applies E token
  | .group token _ | .call token _ _ _ _ | .index token _ => Charges E token

/-- What may be reported about the tokens that the parser keeps. -/
structure Accounts (E : ParseError → Prop) (parser : Parser) : Prop where
  pending : ∀ entry ∈ parser.pending, Reports E entry
  call : ∀ token, parser.awaitedCall = some token → Charges E token
  field : ∀ token, parser.awaitedField = some token → Charges E token

theorem Accounts.push (h : parser.Accounts E) (entry : Pending) (hentry : Reports E entry)
    (floors : List Nat) :
    Accounts E { parser with pending := entry :: parser.pending, floors := floors } :=
  ⟨List.forall_mem_cons.mpr ⟨hentry, h.pending⟩, h.call, h.field⟩

/-- The operators that are left are not on top. -/
def Settled (now : Operator → Bool) (pending : List Pending) : Prop :=
  ∀ token operator rest, pending = .operator token operator :: rest → now operator = false

theorem pushOperand_ends (operand : Operand) (operands : List Operand)
    (h : ∀ limit, E (errorAt operand.tree.token (.nestingTooDeep limit))) :
    Ends E (fun _ => True) (pushOperand L operand operands) := by
  simp only [pushOperand]
  split
  · exact .error (h _)
  · exact .ok trivial

theorem reduce_ends (floor : Nat) (operator : Operator) (operands : List Operand)
    (h : Applies E token) : Ends E (fun _ => True) (reduce L floor token operator operands) := by
  simp only [reduce]
  split
  · exact .error h.lacks
  · exact pushOperand_ends _ _ h.deep

theorem reduceWhile_ends (floor : Nat) (now : Operator → Bool) {pending : List Pending}
    (operands : List Operand) (h : ∀ entry ∈ pending, Reports E entry) :
    Ends E (fun left => (∀ entry ∈ left.1, Reports E entry) ∧ Settled now left.1)
      (reduceWhile L floor now pending operands) := by
  fun_induction reduceWhile L floor now pending operands with
  | case1 token operator rest operands hnow ih =>
    obtain ⟨htoken, hrest⟩ := List.forall_mem_cons.mp h
    exact (reduce_ends floor operator operands htoken).bind fun reduced _ => ih reduced hrest
  | case2 token operator rest operands hnow =>
    refine .ok ⟨h, ?_⟩
    rintro _ _ _ ⟨⟩
    simpa using hnow
  | case3 pending operands hother =>
    exact .ok ⟨h, fun token operator rest htop => absurd htop (hother token operator rest)⟩

theorem settle_ends (now : Operator → Bool) (h : parser.Accounts E) :
    Ends E (fun next => next.Accounts E ∧ Settled now next.pending) (settle L now parser) :=
  (reduceWhile_ends _ now _ h.pending).bind fun _ ⟨hpending, hsettled⟩ =>
    .ok ⟨⟨hpending, h.call, h.field⟩, hsettled⟩

theorem pushOperator_ends (operator : Operator) (h : parser.Accounts E)
    (htoken : Applies E token) : Ends E (Accounts E) (pushOperator L token operator parser) :=
  (settle_ends _ h).bind fun _ ⟨hsettled, _⟩ =>
    .ok (hsettled.push (.operator token operator) htoken _)

/-- What may be reported about a token behind one of the given kind, and about the multiplication
    sign that may be left out in front of it. -/
structure Blames (E : ParseError → Prop) (previous : Option TokenKind) (token : Token) : Prop where
  own : token.kind ≠ .text → Charges E token
  unjoined : E (errorAt token .missingOperator)
  sign : Token.isAdjacent previous token = true → Applies E (Token.star token)

theorem join_ends (h : parser.Accounts E) (hblames : Blames E parser.previous token) :
    Ends E (Accounts E) (join L token parser) := by
  unfold join joinAdjacent
  split
  · rename_i hstarts
    split
    · exact .ok h
    · rename_i previous hprevious
      simp only
      split
      · exact .ok h
      · rename_i hends
        have hadjacent : Token.isAdjacent parser.previous token = true := by
          rw [hprevious]
          exact Bool.and_eq_true_iff.mpr
            ⟨by simpa using hends, (Bool.and_eq_true_iff.mp hstarts).1⟩
        split
        · exact .error hblames.unjoined
        · split
          · exact .error hblames.unjoined
          · exact pushOperator_ends _ h (hblames.sign hadjacent)
  · exact .ok h

theorem openParen_ends (h : parser.Accounts E) (htoken : Charges E token) :
    Ends E (Accounts E) (openParen L token parser) := by
  simp only [openParen]
  split
  · exact .ok (h.push (.group token _) htoken _)
  · rename_i call hcall
    have hcharges := h.call call hcall
    split
    · exact .error (hcharges _)
    · exact .ok ⟨List.forall_mem_cons.mpr ⟨hcharges, h.pending⟩, by simp, h.field⟩

theorem comma_ends (h : parser.Accounts E) (htoken : Charges E token) :
    Ends E (Accounts E) (comma L token parser) := by
  refine (settle_ends _ h).bind fun settled ⟨hsettled, _⟩ => ?_
  simp only
  split
  · rename_i hpending
    have hentries := hsettled.pending
    rw [hpending] at hentries
    have hcall := (List.forall_mem_cons.mp hentries).1
    split
    · exact .error (hcall _)
    · exact .ok ⟨List.forall_mem_cons.mpr ⟨hcall, (List.forall_mem_cons.mp hentries).2⟩,
        hsettled.call, hsettled.field⟩
  · exact .error (htoken _)

theorem closeParen_ends (h : parser.Accounts E) (htoken : Charges E token) :
    Ends E (Accounts E) (closeParen L token parser) := by
  refine (settle_ends _ h).bind fun settled ⟨hsettled, _⟩ => ?_
  have hentries := hsettled.pending
  simp only
  split <;> rename_i hpending
  · rw [hpending] at hentries
    split
    · exact .ok ⟨(List.forall_mem_cons.mp hentries).2, hsettled.call, hsettled.field⟩
    · exact .error (htoken _)
  · rw [hpending] at hentries
    obtain ⟨hcall, hrest⟩ := List.forall_mem_cons.mp hentries
    split
    · exact .error (hcall _)
    · split
      · exact .error (hcall _)
      · exact (pushOperand_ends _ _ fun _ => hcall _).bind fun _ _ =>
          .ok ⟨hrest, hsettled.call, hsettled.field⟩
  · rw [hpending] at hentries
    exact .error ((List.forall_mem_cons.mp hentries).1 _)
  · exact .error (htoken _)
  · exact .error (htoken _)

theorem closeBracket_ends (h : parser.Accounts E) (htoken : Charges E token) :
    Ends E (Accounts E) (closeBracket L token parser) := by
  refine (settle_ends _ h).bind fun settled ⟨hsettled, _⟩ => ?_
  have hentries := hsettled.pending
  simp only
  split
  · rename_i hpending
    rw [hpending] at hentries
    obtain ⟨hbracket, hrest⟩ := List.forall_mem_cons.mp hentries
    split
    · exact .error (htoken _)
    · exact (pushOperand_ends _ _ fun _ => hbracket _).bind fun _ _ =>
        .ok ⟨hrest, hsettled.call, hsettled.field⟩
  · rename_i hpending
    rw [hpending] at hentries
    exact .error ((List.forall_mem_cons.mp hentries).1 _)
  · rename_i hpending
    rw [hpending] at hentries
    exact .error ((List.forall_mem_cons.mp hentries).1 _)
  · exact .error (htoken _)

theorem openBracket_ends (h : parser.Accounts E) (htoken : Charges E token) :
    Ends E (Accounts E) (openBracket L token parser) :=
  (settle_ends _ h).bind fun _ ⟨hsettled, _⟩ =>
    .ok (hsettled.push (.index token _) htoken _)

theorem accessField_ends {separator : Token} (h : parser.Accounts E)
    (hseparator : Charges E separator) (field : Token) :
    Ends E (Accounts E) (accessField L separator field parser) := by
  simp only [accessField]
  split
  · exact .error (hseparator _)
  · exact (pushOperand_ends _ _ fun _ => hseparator _).bind fun _ _ =>
      .ok ⟨h.pending, h.call, by simp⟩

theorem resolve_ends (htoken : Charges E token) :
    Ends E (fun _ => True) (resolve L token) := by
  unfold resolve
  split
  · exact .ok trivial
  · exact .error (htoken _)

/-- What a token that is no text can be charged with is all that can go wrong with it. -/
theorem take_ends (h : parser.Accounts E) (htoken : token.kind ≠ .text → Charges E token) :
    Ends E (Accounts E) (take L token parser) := by
  by_cases htext : token.kind = .text
  · unfold take
    rw [htext]
    exact .ok ⟨h.pending, h.call, h.field⟩
  · have htoken := htoken htext
    unfold take
    split <;> rename_i hkind
    · exact .ok ⟨h.pending, h.call, h.field⟩
    · exact absurd hkind htext
    · split
      · rename_i separator hseparator
        exact accessField_ends h (h.field separator hseparator) token
      · exact .ok ⟨h.pending, h.call, h.field⟩
    · exact .ok ⟨h.pending, by simpa using htoken, h.field⟩
    · exact openParen_ends h htoken
    · exact closeParen_ends h htoken
    · exact comma_ends h htoken
    · exact (resolve_ends htoken).bind fun operator _ =>
        .ok (h.push (.operator token operator) htoken.applies _)
    · exact (resolve_ends htoken).bind fun _ _ => pushOperator_ends _ h htoken.applies
    · exact (resolve_ends htoken).bind fun _ _ => pushOperator_ends _ h htoken.applies
    · exact openBracket_ends h htoken
    · exact closeBracket_ends h htoken
    · exact (settle_ends _ h).bind fun _ ⟨hsettled, _⟩ =>
        .ok ⟨hsettled.pending, hsettled.call, by simpa using htoken⟩
    · exact .error (htoken _)

theorem step_ends (h : parser.Accounts E) (hblames : Blames E parser.previous token) :
    Ends E (fun next => next.Accounts E ∧ next.previous = some token.kind)
      (step L parser token) := by
  rw [step_eq]
  refine (join_ends h hblames).bind fun joined hjoined => ?_
  exact (take_ends hjoined hblames.own).bind fun _ htaken =>
    .ok ⟨⟨htaken.pending, htaken.call, htaken.field⟩, rfl⟩

/-- While tokens are read, nothing is reported but what may be reported about each of them. -/
theorem foldlM_ends {tokens : List Token} (h : parser.Accounts E)
    (hblames : ∀ before token after, tokens = before ++ token :: after →
      Blames E (Token.kindAfter parser.previous before) token) :
    Ends E (Accounts E) (tokens.foldlM (step L) parser) := by
  induction tokens generalizing parser with
  | nil => exact .ok h
  | cons token rest ih =>
    rw [List.foldlM_cons]
    refine (step_ends h (hblames [] token rest rfl)).bind fun next ⟨hnext, hprevious⟩ => ?_
    refine ih hnext fun before other after hrest => ?_
    rw [hprevious]
    exact hblames (token :: before) other after (congrArg (token :: ·) hrest)

theorem finish_ends (h : parser.Accounts E)
    (hended : ∀ position lexeme, E ⟨.unexpectedEnd, position, lexeme⟩)
    (hmany : ∀ token, E (errorAt token .tooManyOperands)) (position : Nat) :
    Ends E (fun _ => True) (finish L position parser) := by
  simp only [finish]
  split
  · exact .error (hended _ _)
  · refine (settle_ends _ h).bind fun settled hboth => ?_
    obtain ⟨hsettled, htop⟩ := hboth
    have hentries := hsettled.pending
    split <;> rename_i hpending
    · rename_i entry rest
      rw [hpending] at hentries
      have hentry := (List.forall_mem_cons.mp hentries).1
      cases entry with
      | operator token operator => cases htop token operator rest hpending
      | group | call | index => exact .error (hentry _)
    · split
      · exact .error (hended _ _)
      · exact .ok trivial
      · exact .error (hmany _)

theorem accounts_start : start.Accounts E := ⟨List.forall_mem_nil _, by simp [start], by simp [start]⟩

/-- Whatever the parser reports about some tokens is what may be reported about each of them, about
    the signs that are left out between them, or at their end. -/
theorem ofTokens_raises_of {tokens : List Token}
    (hblames : ∀ before token after, tokens = before ++ token :: after →
      Blames E (Token.kindAfter none before) token)
    (hended : ∀ position lexeme, E ⟨.unexpectedEnd, position, lexeme⟩)
    (hmany : ∀ token, E (errorAt token .tooManyOperands)) :
    Raises E (Tree.ofTokens L tokens) := by
  have hfold : Ends E (Accounts E) (tokens.foldlM (step L) start) :=
    foldlM_ends accounts_start hblames
  exact (hfold.bind fun _ h => finish_ends h hended hmany _).raises

end Parser

/-! ## Errors of a text -/

namespace ParseError

/-- What the text has at the position of an error. -/
inductive Located (L : Language) (text : String) : ParseError → Prop
  /-- There are no tokens at all. -/
  | nothing (scanned : Token.scan L text = .ok []) : Located L text ⟨.unexpectedEnd, 0, ""⟩
  /-- The text goes on with the lexeme. -/
  | lexeme {fault position lexeme} (inside : position < text.length)
      (spelled : lexeme.toList <+: text.toList.drop position) :
      Located L text ⟨fault, position, lexeme⟩
  /-- No operator stands before text in quotes, of which the first one is at the position. -/
  | quoted {position lexeme quote} (inside : position < text.length)
      (mark : quote = '"' ∨ quote = '\'')
      (spelled : quote :: (lexeme.toList ++ [quote]) <+: text.toList.drop position) :
      Located L text ⟨.missingOperator, position, lexeme⟩
  /-- A multiplication sign that is left out between two operands lacks one of them or makes the
      tree too deep. The operand behind it begins at the position. -/
  | sign {tokens last token fault} (scanned : Token.scan L text = .ok tokens)
      (adjacent : [last, token] <:+: tokens) (behind : last.kind.endsValue = true)
      (begins : token.kind.startsValue = true)
      (applied : fault = .missingOperand ∨ ∃ limit, fault = .nestingTooDeep limit) :
      Located L text ⟨fault, token.position, "*"⟩

end ParseError

namespace Tree

open ParseError (Located)

variable {L : Language} {text : String} {tokens : List Token}

/-- What may be reported about a token of a text, and about a sign that is left out before it. -/
theorem blames_of_scan (hscan : Token.scan L text = .ok tokens) {before after : List Token}
    {token : Token} (htokens : tokens = before ++ token :: after) :
    Parser.Blames (Located L text) (Token.kindAfter none before) token := by
  have hmem : token ∈ tokens := by
    rw [htokens]
    exact List.mem_append_right before List.mem_cons_self
  obtain ⟨front, piece, behind, htext, hposition, hspelled⟩ :=
    (Token.scanFrom_layout hscan).spelled token hmem
  rw [Nat.zero_add] at hposition
  have hinside : token.position < text.length := by
    have hwidth := hspelled.width_pos
    rw [← hspelled.length_eq] at hwidth
    rw [← String.length_toList, htext, List.length_append, List.length_append]
    omega
  have hbegins : piece <+: text.toList.drop token.position := by
    rw [htext, hposition, List.drop_left]
    exact List.prefix_append piece behind
  have hplain : token.kind ≠ .text → Parser.Charges (Located L text) token := by
    intro hkind fault
    cases hspelled with
    | plain => exact .lexeme hinside hbegins
    | quoted hquoted => exact absurd hquoted hkind
  refine ⟨hplain, ?_, fun hadjacent => ?_⟩
  · cases hspelled with
    | plain hkind => exact hplain hkind _
    | quoted _ mark => exact .quoted hinside (mark.imp_right And.left) hbegins
  · obtain ⟨hstarts, -, kind, hlast, hends⟩ := Token.isAdjacent_cases hadjacent
    rw [Token.kindAfter_none] at hlast
    obtain ⟨last, hbefore, rfl⟩ := Option.map_eq_some_iff.mp hlast
    obtain ⟨others, rfl⟩ := List.getLast?_eq_some_iff.mp hbefore
    have hinfix : [last, token] <:+: tokens := ⟨others, after, by simp [htokens]⟩
    have hsign : ∀ fault, (fault = .missingOperand ∨ ∃ limit, fault = .nestingTooDeep limit) →
        Located L text ⟨fault, token.position, "*"⟩ :=
      fun _ => .sign hscan hinfix hends hstarts
    exact ⟨hsign _ (.inl rfl), fun limit => hsign _ (.inr ⟨limit, rfl⟩)⟩

/-- A parse error points at what it names: there are no tokens, or the text goes on with the lexeme
    at the position. In front of a lexeme in quotes it goes on with the quote, and for a
    multiplication sign that is left out, with the operand behind it. -/
theorem parse_located {error : ParseError} (h : parse L text = .error error) :
    Located L text error := by
  unfold parse at h
  cases hscan : Token.scan L text with
  | error found =>
    rw [hscan] at h
    cases h
    obtain ⟨index, hindex, hposition, hlexeme⟩ := Token.scanFrom_raises none 0 _ _ hscan
    rw [Nat.zero_add] at hposition
    subst hposition
    exact .lexeme (by rwa [String.length_toList] at hindex) hlexeme
  | ok tokens =>
    rw [hscan] at h
    change ofTokens L tokens = .error error at h
    by_cases hempty : tokens = []
    · subst hempty
      cases h
      exact .nothing hscan
    · have hfault := ofTokens_raises (Token.scan_stream hscan) hempty error h
      -- A text with tokens is not at fault for its end or for an operand to spare.
      have hlocated : Raises (fun error => error.fault.isStructural = true → Located L text error)
          (ofTokens L tokens) := by
        refine Parser.ofTokens_raises_of (fun before token after htokens => ?_)
          (fun _ _ hfault => by cases hfault) fun _ hfault => by cases hfault
        have hblames := blames_of_scan hscan htokens
        exact ⟨fun hkind fault _ => hblames.own hkind fault, fun _ => hblames.unjoined,
          fun hadjacent => ⟨fun _ => (hblames.sign hadjacent).lacks,
            fun limit _ => (hblames.sign hadjacent).deep limit⟩⟩
      exact hlocated error h hfault

/-- Text in quotes behind a number. -/
theorem parse_located_standard : ∃ error,
    parse Configuration.standard.toLanguage "1 \"a\"" = .error error ∧
    error = ⟨.missingOperator, 2, "a"⟩ ∧
    Located Configuration.standard.toLanguage "1 \"a\"" error := by
  have hrun : (match parse Configuration.standard.toLanguage "1 \"a\"" with
      | .error error => error == ⟨.missingOperator, 2, "a"⟩
      | .ok _ => false) = true := by
    decide +kernel
  split at hrun
  · rename_i error herror
    exact ⟨error, herror, eq_of_beq hrun, parse_located herror⟩
  · cases hrun

/-- A multiplication sign that is left out can lack an operand: the sign at the end takes the second
    one for the power. Where the sign is reported, the text goes on with `b`. -/
theorem parse_sign_lacks_operand : ∃ error,
    parse Configuration.standard.toLanguage "a b ^ -" = .error error ∧
    error.fault = .missingOperand ∧ error.position ≠ 0 ∧ error.lexeme ≠ "" ∧
    ¬ error.lexeme.toList <+: "a b ^ -".toList.drop error.position := by
  have hrun : (match parse Configuration.standard.toLanguage "a b ^ -" with
      | .error error => error == ⟨.missingOperand, 2, "*"⟩
      | .ok _ => false) = true := by
    decide +kernel
  split at hrun
  · rename_i error herror
    obtain rfl := eq_of_beq hrun
    exact ⟨_, herror, rfl, by decide, by decide, by decide⟩
  · cases hrun

end Tree
end Formula

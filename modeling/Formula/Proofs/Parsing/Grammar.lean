-- SUMMARY: The grammar of formulas, and that the parser accepts exactly what derives from it.
import Formula.Proofs.Parsing.Build

/-!
# The grammar of formulas

There is no grammar in the parser: it compares each token with what it expects at the cursor. What
comes out is this grammar, over the tokens that the scanner yields.

    expression := unary { INFIX unary | unary without a prefix operator }
    unary      := PREFIX unary | suffixed
    suffixed   := primary { POSTFIX | '[' expression ']' | '.' NAME }
    primary    := NUMBER | TEXT | NAME | '(' expression ')' | FUNCTION '(' arguments ')'
    arguments  := nothing | expression { ',' expression }

Two operands stand side by side only where a multiplication may be left out, and a call has a number
of arguments that its function accepts.
-/

namespace Formula

/-! ## Derivations -/

inductive Nonterminal where
  | expression
  | unary
  | suffixed
  | primary
  | arguments (count : Nat)

/-- A multiplication sign may be left out between two lists of tokens: the language has the operator
    and allows it, and neither the token before nor the one behind is text. -/
structure Language.Joins (L : Language) (left right : List Token) : Prop where
  allowed : L.settings.implicitMultiplication = true
  known : (L.operators.find? .between "*").isSome = true
  before : ∀ token, left.getLast? = some token → token.kind ≠ .text
  behind : ∀ token, right.head? = some token → token.kind ≠ .text

/-- The tokens derive from the nonterminal. -/
inductive Derives (L : Language) : Nonterminal → List Token → Prop where
  | single {ts} : Derives L .unary ts → Derives L .expression ts
  | between {ts us} {operator : Token} : Derives L .expression ts →
    operator.kind = .infixOperator → Derives L .unary us →
    Derives L .expression (ts ++ operator :: us)
  | adjacent {ts us} : Derives L .expression ts → Derives L .suffixed us → L.Joins ts us →
    Derives L .expression (ts ++ us)
  | before {ts} {operator : Token} : operator.kind = .prefixOperator → Derives L .unary ts →
    Derives L .unary (operator :: ts)
  | operand {ts} : Derives L .suffixed ts → Derives L .unary ts
  | primary {ts} : Derives L .primary ts → Derives L .suffixed ts
  | after {ts} {operator : Token} : Derives L .suffixed ts →
    operator.kind = .postfixOperator → Derives L .suffixed (ts ++ [operator])
  | index {ts us} {opening closing : Token} : Derives L .suffixed ts →
    opening.kind = .arrayOpen → Derives L .expression us → closing.kind = .arrayClose →
    Derives L .suffixed (ts ++ opening :: (us ++ [closing]))
  | field {ts} {separator name : Token} : Derives L .suffixed ts →
    separator.kind = .separator → name.kind = .name →
    Derives L .suffixed (ts ++ [separator, name])
  | leaf {token : Token} : token.kind = .number ∨ token.kind = .text ∨ token.kind = .name →
    Derives L .primary [token]
  | group {ts} {opening closing : Token} : opening.kind = .parenOpen →
    Derives L .expression ts → closing.kind = .parenClose →
    Derives L .primary (opening :: (ts ++ [closing]))
  | call {ts} {name opening closing : Token} {function : LibraryFunction} {count : Nat} :
    name.kind = .function → L.functions.find? name.lexeme = some function →
    opening.kind = .parenOpen → Derives L (.arguments count) ts → closing.kind = .parenClose →
    function.signature.accepts count = true →
    Derives L .primary (name :: opening :: (ts ++ [closing]))
  | noArguments : Derives L (.arguments 0) []
  | firstArgument {ts} : Derives L .expression ts → Derives L (.arguments 1) ts
  | nextArgument {ts us} {comma : Token} {count : Nat} : Derives L (.arguments (count + 1)) ts →
    comma.kind = .comma → Derives L .expression us →
    Derives L (.arguments (count + 2)) (ts ++ comma :: us)

namespace Derives

variable {L : Language}

/-- What derives from an operand begins with a token that begins one. -/
theorem startsValue {nonterminal : Nonterminal} {ts : List Token} (h : Derives L nonterminal ts)
    (hoperand : nonterminal = .suffixed ∨ nonterminal = .primary) :
    ∃ token rest, ts = token :: rest ∧ token.kind.startsValue = true := by
  induction h with
  | primary _ ih => exact ih (.inr rfl)
  | after _ _ ih | index _ _ _ _ ih _ | field _ _ _ ih =>
    obtain ⟨token, rest, rfl, hstarts⟩ := ih (.inl rfl)
    exact ⟨token, _, rfl, hstarts⟩
  | leaf kind => exact ⟨_, [], rfl, by rcases kind with kind | kind | kind <;> rw [kind] <;> rfl⟩
  | group kind _ _ _ => exact ⟨_, _, rfl, by rw [kind]; rfl⟩
  | call kind _ _ _ _ _ _ => exact ⟨_, _, rfl, by rw [kind]; rfl⟩
  | single | between | adjacent | before | operand | noArguments | firstArgument
  | nextArgument => rcases hoperand with h | h <;> cases h

end Derives

namespace Parser

open Cursor (due called read fielded)

variable {L : Language}

/-! ## What is accepted derives -/

/-- Tokens behind which any operand that begins with the given token completes an expression. -/
def Ready (L : Language) (lead : List Token) (head : Token) : Prop :=
  ∀ us, us.head? = some head → Derives L .suffixed us → Derives L .expression (lead ++ us)

/-- Tokens behind which any operand, and any operator before one, goes on with an expression. -/
def Lead (L : Language) (ts : List Token) : Prop :=
  ∀ us, Derives L .unary us → Derives L .expression (ts ++ us)

/-- An expression whose last operand may grow. -/
def Complete (L : Language) (ts : List Token) : Prop :=
  ∃ lead head rest, ts = lead ++ head :: rest ∧ Ready L lead head ∧
    Derives L .suffixed (head :: rest)

theorem Lead.nil : Lead L [] := fun _ h => .single h

theorem Lead.ready {ts : List Token} (h : Lead L ts) (head : Token) : Ready L ts head :=
  fun us _ hus => h us (.operand hus)

theorem Lead.before {ts : List Token} (h : Lead L ts) {operator : Token}
    (hkind : operator.kind = .prefixOperator) : Lead L (ts ++ [operator]) := by
  intro us hus
  rw [List.append_assoc]
  exact h _ (.before hkind hus)

theorem Complete.expression {ts : List Token} (h : Complete L ts) : Derives L .expression ts := by
  obtain ⟨lead, head, rest, rfl, hready, hoperand⟩ := h
  exact hready _ rfl hoperand

theorem Complete.between {ts : List Token} (h : Complete L ts) {operator : Token}
    (hkind : operator.kind = .infixOperator) : Lead L (ts ++ [operator]) := by
  intro us hus
  rw [List.append_assoc]
  exact .between h.expression hkind hus

theorem Complete.ready {ts : List Token} (h : Complete L ts) {head : Token}
    (hjoins : L.Joins ts [head]) : Ready L ts head := by
  intro us hus hoperand
  refine .adjacent h.expression hoperand ⟨hjoins.allowed, hjoins.known, hjoins.before, ?_⟩
  rw [hus]
  exact hjoins.behind

/-- The last operand grows. -/
theorem Complete.append {ts more : List Token} (h : Complete L ts)
    (hmore : ∀ us, Derives L .suffixed us → Derives L .suffixed (us ++ more)) :
    Complete L (ts ++ more) := by
  obtain ⟨lead, head, rest, rfl, hready, hoperand⟩ := h
  exact ⟨lead, head, rest ++ more, by simp, hready, hmore _ hoperand⟩

/-- A new operand is complete. -/
theorem Ready.complete {lead : List Token} {head : Token} (h : Ready L lead head)
    {rest : List Token} (hoperand : Derives L .primary (head :: rest)) :
    Complete L (lead ++ head :: rest) :=
  ⟨lead, head, rest, rfl, h, .primary hoperand⟩

namespace Context

/-- The tokens up to the innermost bracket, or up to the last comma in it. -/
inductive Opened (L : Language) : List (Frame L) → List Token → Prop where
  | top : Opened L [] []
  | group {frames ts lead paren} : Opened L frames ts → Ready L lead paren →
    paren.kind = .parenOpen → Opened L (.group :: frames) (ts ++ (lead ++ [paren]))
  | call {frames ts lead paren} {callee : Callee L} : Opened L frames ts →
    Ready L lead callee.token → paren.kind = .parenOpen →
    Opened L (.call callee 0 :: frames) (ts ++ (lead ++ [callee.token, paren]))
  | argument {frames ts us comma} {callee : Callee L} {count : Nat} :
    Opened L (.call callee count :: frames) ts → Derives L .expression us →
    comma.kind = .comma → Opened L (.call callee (count + 1) :: frames) (ts ++ (us ++ [comma]))
  | index {frames ts us bracket} : Opened L frames ts → Complete L us →
    bracket.kind = .arrayOpen → Opened L (.index :: frames) (ts ++ (us ++ [bracket]))

/-- What a group adds to the tokens around it when it is closed. -/
theorem Opened.close_group {frames : List (Frame L)} {ts us : List Token} {closing : Token}
    (h : Opened L (.group :: frames) ts) (hus : Derives L .expression us)
    (hclosing : closing.kind = .parenClose) :
    ∃ outer more, ts ++ (us ++ [closing]) = outer ++ more ∧ Opened L frames outer ∧
      Complete L more := by
  cases h with
  | @group _ outer lead paren houter hready hkind =>
    refine ⟨outer, _, by simp, houter, hready.complete (.group hkind hus hclosing)⟩

theorem Opened.close_index {frames : List (Frame L)} {ts us : List Token} {closing : Token}
    (h : Opened L (.index :: frames) ts) (hus : Derives L .expression us)
    (hclosing : closing.kind = .arrayClose) :
    ∃ outer more, ts ++ (us ++ [closing]) = outer ++ more ∧ Opened L frames outer ∧
      Complete L more := by
  cases h with
  | @index _ outer array bracket houter harray hkind =>
    refine ⟨outer, array ++ bracket :: (us ++ [closing]), by simp, houter, ?_⟩
    exact harray.append fun _ hoperand => .index hoperand hkind hus hclosing

/-- The arguments of a call up to the last comma, and what another one makes of them. -/
theorem Opened.arguments {frames : List (Frame L)} {ts : List Token} {callee : Callee L}
    {count : Nat} (h : Opened L (.call callee count :: frames) ts) :
    ∃ outer lead paren arguments, ts = outer ++ (lead ++ callee.token :: paren :: arguments) ∧
      Opened L frames outer ∧ Ready L lead callee.token ∧ paren.kind = .parenOpen ∧
      (count = 0 → arguments = []) ∧
      ∀ us, Derives L .expression us →
        Derives L (.arguments (count + 1)) (arguments ++ us) := by
  generalize hframes : Frame.call callee count :: frames = all at h
  induction h generalizing count with
  | top | group | index => cases hframes
  | @call _ outer lead paren _ houter hready hkind _ =>
    cases hframes
    exact ⟨outer, lead, paren, [], by simp, houter, hready, hkind, fun _ => rfl,
      fun us hus => .firstArgument hus⟩
  | @argument _ ts us comma _ _ _ hus hcomma ih =>
    cases hframes
    obtain ⟨outer, lead, paren, arguments, rfl, houter, hready, hkind, _, hnext⟩ := ih rfl
    refine ⟨outer, lead, paren, arguments ++ (us ++ [comma]), by simp, houter, hready, hkind,
      fun h => absurd h (Nat.succ_ne_zero _), fun vs hvs => ?_⟩
    have hmore := Derives.nextArgument (hnext us hus) hcomma hvs
    simpa using hmore

theorem Opened.close_call {frames : List (Frame L)} {ts us : List Token} {callee : Callee L}
    {count : Nat} {closing : Token} (h : Opened L (.call callee count :: frames) ts)
    (hus : Derives L .expression us) (hclosing : closing.kind = .parenClose)
    (haccepts : callee.function.signature.accepts (count + 1) = true) :
    ∃ outer more, ts ++ (us ++ [closing]) = outer ++ more ∧ Opened L frames outer ∧
      Complete L more := by
  obtain ⟨outer, lead, paren, arguments, rfl, houter, hready, hkind, _, hnext⟩ := h.arguments
  refine ⟨outer, lead ++ callee.token :: paren :: ((arguments ++ us) ++ [closing]), by simp,
    houter, hready.complete ?_⟩
  exact .call callee.kind_eq callee.found hkind (hnext us hus) hclosing haccepts

theorem Opened.close_empty {frames : List (Frame L)} {ts : List Token} {callee : Callee L}
    {closing : Token} (h : Opened L (.call callee 0 :: frames) ts)
    (hclosing : closing.kind = .parenClose)
    (haccepts : callee.function.signature.accepts 0 = true) :
    ∃ outer more, ts ++ [closing] = outer ++ more ∧ Opened L frames outer ∧
      Complete L more := by
  obtain ⟨outer, lead, paren, arguments, rfl, houter, hready, hkind, hempty, _⟩ := h.arguments
  refine ⟨outer, lead ++ callee.token :: paren :: (arguments ++ [closing]), by simp, houter,
    hready.complete ?_⟩
  rw [hempty rfl]
  exact .call callee.kind_eq callee.found hkind .noArguments hclosing haccepts

end Context

namespace Cursor

/-- The tokens up to the cursor: those up to the innermost bracket, and then what has been read
    in it. -/
def Parses (ts : List Token) : Cursor L → Prop
  | due c => ∃ outer lead, ts = outer ++ lead ∧ Context.Opened L c.frames outer ∧ Lead L lead ∧
      (c.isFrame = true → lead = [])
  | called call c => ∃ outer lead, ts = outer ++ (lead ++ [call]) ∧
      Context.Opened L c.frames outer ∧ Ready L lead call
  | read c _ => ∃ outer us, ts = outer ++ us ∧ Context.Opened L c.frames outer ∧ Complete L us
  | fielded separator c _ => ∃ outer us, ts = outer ++ (us ++ [separator]) ∧
      Context.Opened L c.frames outer ∧ Complete L us ∧ separator.kind = .separator

/-- A token that begins an operand is read where one may begin. -/
theorem Move.parses_operand {t : Token} {c : Context L} {next : Cursor L}
    (hmove : Move L t (due c) next) (hstarts : t.kind.startsValue = true)
    {outer lead : List Token} (houter : Context.Opened L c.frames outer) (hready : Ready L lead t) :
    next.Parses (outer ++ (lead ++ [t])) := by
  cases hmove with
  | leaf kind => exact ⟨outer, lead ++ [t], rfl, houter, hready.complete (.leaf kind)⟩
  | function kind => exact ⟨outer, lead, rfl, houter, hready⟩
  | openGroup kind =>
    exact ⟨_, [], (List.append_nil _).symm, .group houter hready kind, .nil, fun _ => rfl⟩
  | before sign => simp [sign.kind_eq, Fixity.tokenKind, TokenKind.startsValue] at hstarts
  | closeEmpty kind accepted => simp [kind, TokenKind.startsValue] at hstarts

/-- A move that begins no operand adds its token. -/
theorem Move.parses {t : Token} {cursor next : Cursor L} (hmove : Move L t cursor next)
    {ts : List Token} (h : cursor.Parses ts) : next.Parses (ts ++ [t]) := by
  cases hmove with
  | leaf kind =>
    obtain ⟨outer, lead, rfl, houter, hlead, _⟩ := h
    rw [List.append_assoc]
    refine (Move.leaf kind).parses_operand ?_ houter (hlead.ready t)
    rcases kind with kind | kind | kind <;> rw [kind] <;> rfl
  | function kind =>
    obtain ⟨outer, lead, rfl, houter, hlead, _⟩ := h
    rw [List.append_assoc]
    exact (Move.function kind).parses_operand (by rw [kind]; rfl) houter (hlead.ready t)
  | openGroup kind =>
    obtain ⟨outer, lead, rfl, houter, hlead, _⟩ := h
    rw [List.append_assoc]
    exact (Move.openGroup kind).parses_operand (by rw [kind]; rfl) houter (hlead.ready t)
  | openCall callee kind =>
    obtain ⟨outer, lead, rfl, houter, hready⟩ := h
    exact ⟨_, [], by simp, .call houter hready kind, .nil, fun _ => rfl⟩
  | before sign =>
    obtain ⟨outer, lead, rfl, houter, hlead, _⟩ := h
    exact ⟨outer, _, List.append_assoc _ _ _, houter, hlead.before sign.kind_eq, nofun⟩
  | between sign settled =>
    obtain ⟨outer, us, rfl, houter, hus⟩ := h
    rw [← Context.frames_of_settle settled] at houter
    exact ⟨outer, _, List.append_assoc _ _ _, houter, hus.between sign.kind_eq, nofun⟩
  | after sign settled =>
    obtain ⟨outer, us, rfl, houter, hus⟩ := h
    rw [← Context.frames_of_settle settled] at houter
    exact ⟨outer, _, List.append_assoc _ _ _, houter,
      hus.append fun _ hoperand => .after hoperand sign.kind_eq⟩
  | openIndex kind settled =>
    obtain ⟨outer, us, rfl, houter, hus⟩ := h
    rw [← Context.frames_of_settle settled] at houter
    exact ⟨_, [], by simp, .index houter hus kind, .nil, fun _ => rfl⟩
  | separator kind settled =>
    obtain ⟨outer, us, rfl, houter, hus⟩ := h
    rw [← Context.frames_of_settle settled] at houter
    exact ⟨outer, us, List.append_assoc _ _ _, houter, hus, kind⟩
  | @field t separator c x kind =>
    obtain ⟨outer, us, rfl, houter, hus, hseparator⟩ := h
    refine ⟨outer, us ++ [separator, t], by simp, houter, hus.append fun _ hoperand => ?_⟩
    exact .field hoperand hseparator kind
  | comma kind settled =>
    obtain ⟨outer, us, rfl, houter, hus⟩ := h
    rw [← Context.frames_of_settle settled] at houter
    refine ⟨outer ++ (us ++ [t]), [], by simp, ?_, .nil, fun _ => rfl⟩
    simpa [Context.frames] using Context.Opened.argument houter hus.expression kind
  | closeGroup kind settled =>
    obtain ⟨outer, us, rfl, houter, hus⟩ := h
    rw [← Context.frames_of_settle settled] at houter
    rw [List.append_assoc]
    exact houter.close_group hus.expression kind
  | closeCall kind settled accepted =>
    obtain ⟨outer, us, rfl, houter, hus⟩ := h
    rw [← Context.frames_of_settle settled] at houter
    rw [List.append_assoc]
    exact houter.close_call hus.expression kind accepted
  | closeEmpty kind accepted =>
    obtain ⟨outer, lead, rfl, houter, _, hempty⟩ := h
    rw [hempty rfl, List.append_nil]
    exact houter.close_empty kind accepted
  | closeIndex kind settled =>
    obtain ⟨outer, us, rfl, houter, hus⟩ := h
    rw [← Context.frames_of_settle settled] at houter
    rw [List.append_assoc]
    exact houter.close_index hus.expression kind

/-- A step over a token adds it, with or without a multiplication sign before it. -/
theorem parses_of_step {t : Token} {cursor next : Cursor L} {ts : List Token}
    (hagrees : cursor.Agrees (ts.getLast?.map (·.kind))) (hparses : cursor.Parses ts)
    (h : cursor.step (ts.getLast?.map (·.kind)) t = some next) : next.Parses (ts ++ [t]) := by
  rcases step_cases h with ⟨_, hmove⟩ | ⟨hadjacent, hjoin, between, hstar, hmove⟩
  · exact (move_of_take hmove).parses hparses
  · obtain ⟨c, x, rfl⟩ := read_of_adjacent hagrees hadjacent
    have hknown : (L.operators.find? .between "*").isSome = true := by
      rw [← isSome_take_star, hstar]
      rfl
    obtain ⟨d, rfl, hframes⟩ := due_of_take_star hstar
    obtain ⟨outer, us, rfl, houter, hus⟩ := hparses
    have hlast : (outer ++ us).getLast? = us.getLast? := by
      obtain ⟨lead, head, rest, rfl, _⟩ := hus
      simp [List.getLast?_append, List.getLast?_cons]
    simp only [Language.mayJoin, Bool.and_eq_true, bne_iff_ne, ne_eq] at hjoin
    obtain ⟨⟨hallowed, hbefore⟩, hbehind⟩ := hjoin
    have hjoins : L.Joins us [t] := by
      refine ⟨hallowed, hknown, fun token htoken hkind => ?_, fun token htoken => ?_⟩
      · rw [hlast, htoken] at hbefore
        exact hbefore (congrArg some hkind)
      · cases htoken
        exact hbehind
    rw [← hframes] at houter
    rw [List.append_assoc]
    refine (move_of_take hmove).parses_operand ?_ houter (hus.ready hjoins)
    unfold Token.isAdjacent at hadjacent
    split at hadjacent
    · exact (Bool.and_eq_true_iff.mp hadjacent).2
    · cases hadjacent

theorem parses_of_run {ts us : List Token} {cursor last : Cursor L}
    (hagrees : cursor.Agrees (ts.getLast?.map (·.kind))) (hparses : cursor.Parses ts)
    (h : run (ts.getLast?.map (·.kind)) cursor us = some last) : last.Parses (ts ++ us) := by
  induction us generalizing ts cursor with
  | nil =>
    cases h
    rwa [List.append_nil]
  | cons t us ih =>
    obtain ⟨next, hstep, h⟩ := step_of_run h
    have hlast : (ts ++ [t]).getLast?.map (·.kind) = some t.kind := by simp
    have hparses' := parses_of_step hagrees hparses hstep
    have hagrees' := step_agrees hstep
    rw [← hlast] at hagrees' h
    simpa using ih hagrees' hparses' h

end Cursor
end Parser

/-- What the walk gets through derives from the grammar. -/
theorem derives_of_build? {L : Language} {tokens : List Token} {tree : Tree}
    (h : Tree.build? L tokens = some tree) : Derives L .expression tokens := by
  obtain ⟨last, hrun, hfinish⟩ := Option.bind_eq_some_iff.mp h
  have hstart : (Parser.Cursor.start : Parser.Cursor L).Parses [] :=
    ⟨[], [], rfl, .top, .nil, fun _ => rfl⟩
  have hparses : last.Parses ([] ++ tokens) :=
    Parser.Cursor.parses_of_run Parser.Cursor.agrees_start hstart hrun
  obtain ⟨c, x, rfl, hsettled⟩ := Parser.Cursor.settled_of_finish hfinish
  obtain ⟨outer, us, hus, houter, hcomplete⟩ := hparses
  rw [← Parser.Context.frames_of_settle hsettled] at houter
  cases houter
  rw [List.nil_append] at hus
  rw [hus]
  exact hcomplete.expression

end Formula

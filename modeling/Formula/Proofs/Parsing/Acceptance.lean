-- SUMMARY: What derives from the grammar is accepted, unless its tree is too deep; so the parser accepts exactly the grammar.
import Formula.Configuration
import Formula.Proofs.Parsing.Grammar

/-!
# Acceptance

The walk gets through all tokens that derive from the grammar (`Readable`): whatever the cursor has
behind it, an operand that derives is read, and the same brackets are open as before.
-/

namespace Formula

/-- The language has the operator that a token names. -/
def Token.Known (L : Language) (token : Token) : Prop :=
  ∀ fixity : Fixity, token.kind = fixity.tokenKind →
    (L.operators.find? fixity token.lexeme).isSome = true

theorem Token.Stream.known {L : Language} {previous : Option TokenKind} {tokens : List Token}
    (h : Token.Stream L previous tokens) : ∀ token ∈ tokens, token.Known L := by
  induction h with
  | nil => simp
  | cons hfits _ ih => exact List.forall_mem_cons.mpr ⟨hfits.knownOperator, ih⟩

theorem Token.kindAfter_eq (previous : Option TokenKind) (tokens : List Token) :
    Token.kindAfter previous tokens = (tokens.getLast?.map (·.kind)).or previous := by
  induction tokens generalizing previous with
  | nil => rfl
  | cons token rest ih =>
    rw [Token.kindAfter, ih, List.getLast?_cons]
    cases rest.getLast? <;> rfl

theorem Sign.exists_of_known {L : Language} (fixity : Fixity) {token : Token} (h : token.Known L)
    (hkind : token.kind = fixity.tokenKind) : ∃ sign : Sign L fixity, sign.token = token := by
  obtain ⟨operator, hfound⟩ := Option.isSome_iff_exists.mp (h fixity hkind)
  exact ⟨⟨token, operator, hkind, hfound⟩, rfl⟩

theorem Callee.exists_of_found {L : Language} {token : Token} (hkind : token.kind = .function)
    {function : LibraryFunction} (h : L.functions.find? token.lexeme = some function) :
    ∃ callee : Callee L, callee.token = token ∧ callee.function = function :=
  ⟨⟨token, function, hkind, h⟩, rfl, rfl⟩

namespace Parser
namespace Cursor

variable {L : Language}

/-! ## Moves that are possible -/

theorem take_before (sign : Sign L .before) (c : Context L) :
    (due c).take sign.token = some (due (.before sign c)) := by
  simp [take, sign.kind_eq, Fixity.tokenKind]

theorem take_between (sign : Sign L .between) (c : Context L) (x : Tree) :
    ∃ d, (read c x).take sign.token = some (due d) ∧ d.frames = c.frames := by
  refine ⟨_, by simp [take, sign.kind_eq, Fixity.tokenKind]; rfl, ?_⟩
  exact c.settle_frames sign.releases x

theorem take_after (sign : Sign L .after) (c : Context L) (x : Tree) :
    ∃ d y, (read c x).take sign.token = some (read d y) ∧ d.frames = c.frames := by
  refine ⟨_, _, by simp [take, sign.kind_eq, Fixity.tokenKind]; exact ⟨rfl, rfl⟩, ?_⟩
  exact c.settle_frames sign.releases x

theorem take_arrayOpen {t : Token} (hkind : t.kind = .arrayOpen) (c : Context L) (x : Tree) :
    ∃ d, (read c x).take t = some (due d) ∧ d.frames = .index :: c.frames := by
  refine ⟨_, by simp [take, hkind]; rfl, ?_⟩
  rw [Context.frames, c.settle_frames]

theorem take_field {separator name : Token} (hseparator : separator.kind = .separator)
    (hname : name.kind = .name) (c : Context L) (x : Tree) :
    ∃ d y z, (read c x).take separator = some (fielded separator d y) ∧
      (fielded separator d y).take name = some (read d z) ∧ d.frames = c.frames :=
  ⟨_, _, _, by simp [take, hseparator]; exact ⟨rfl, rfl⟩, by simp [take, hname]; rfl,
    c.settle_frames _ x⟩

theorem take_comma {t : Token} (hkind : t.kind = .comma) {c : Context L} {callee : Callee L}
    {count : Nat} {frames : List (Context.Frame L)}
    (hframes : c.frames = .call callee count :: frames) (x : Tree) :
    ∃ d, (read c x).take t = some (due d) ∧ d.frames = .call callee (count + 1) :: frames := by
  obtain ⟨d, y, hsettled, hframe, hsame⟩ := c.exists_settled x
  rw [hframes] at hsame
  cases d with
  | call other arguments outer =>
    simp only [Context.frames, List.cons.injEq, Context.Frame.call.injEq] at hsame
    obtain ⟨⟨rfl, rfl⟩, rfl⟩ := hsame
    exact ⟨_, by simp [take, hkind, hsettled, nextArgument]; rfl, by simp [Context.frames]⟩
  | before | after | between => cases hframe
  | top | group | index => cases hsame

theorem take_closeGroup {t : Token} (hkind : t.kind = .parenClose) {c : Context L}
    {frames : List (Context.Frame L)} (hframes : c.frames = .group :: frames) (x : Tree) :
    ∃ d y, (read c x).take t = some (read d y) ∧ d.frames = frames := by
  obtain ⟨d, y, hsettled, hframe, hsame⟩ := c.exists_settled x
  rw [hframes] at hsame
  cases d with
  | group paren outer =>
    cases hsame
    exact ⟨outer, y, by simp [take, hkind, hsettled, closeParen], rfl⟩
  | before | after | between => cases hframe
  | top | call | index => cases hsame

theorem take_closeCall {t : Token} (hkind : t.kind = .parenClose) {c : Context L}
    {callee : Callee L} {count : Nat} {frames : List (Context.Frame L)}
    (hframes : c.frames = .call callee count :: frames) (x : Tree)
    (haccepts : callee.function.signature.accepts (count + 1) = true) :
    ∃ d y, (read c x).take t = some (read d y) ∧ d.frames = frames := by
  obtain ⟨d, y, hsettled, hframe, hsame⟩ := c.exists_settled x
  rw [hframes] at hsame
  cases d with
  | call other arguments outer =>
    simp only [Context.frames, List.cons.injEq, Context.Frame.call.injEq] at hsame
    obtain ⟨⟨rfl, rfl⟩, rfl⟩ := hsame
    exact ⟨outer, _, by simp [take, hkind, hsettled, closeParen, haccepts]; rfl, rfl⟩
  | before | after | between => cases hframe
  | top | group | index => cases hsame

theorem take_closeIndex {t : Token} (hkind : t.kind = .arrayClose) {c : Context L}
    {frames : List (Context.Frame L)} (hframes : c.frames = .index :: frames) (x : Tree) :
    ∃ d y, (read c x).take t = some (read d y) ∧ d.frames = frames := by
  obtain ⟨d, y, hsettled, hframe, hsame⟩ := c.exists_settled x
  rw [hframes] at hsame
  cases d with
  | index array bracket outer =>
    cases hsame
    exact ⟨outer, _, by simp [take, hkind, hsettled, closeBracket]; rfl, rfl⟩
  | before | after | between => cases hframe
  | top | group | call => cases hsame

/-! ## Walks that go on -/

theorem run_cons {previous : Option TokenKind} {t : Token} {cursor next : Cursor L}
    (hadjacent : Token.isAdjacent previous t = false) (htake : cursor.take t = some next)
    (ts : List Token) : run previous cursor (t :: ts) = run (some t.kind) next ts := by
  simp only [run, step, hadjacent, htake, Bool.false_eq_true, if_false]

/-- Where an operand is missing, none stands side by side with the next one. -/
theorem run_first {previous : Option TokenKind} {t : Token} {c : Context L} {next : Cursor L}
    (hagrees : (due c).Agrees previous) (htake : (due c).take t = some next) (ts : List Token) :
    run previous (due c) (t :: ts) = run (some t.kind) next ts := by
  refine run_cons ?_ htake ts
  cases previous with
  | none => rfl
  | some kind => simp [Token.isAdjacent, (hagrees kind rfl).1]

theorem run_agrees {previous : Option TokenKind} {ts : List Token} {cursor last : Cursor L}
    (hagrees : cursor.Agrees previous) (h : run previous cursor ts = some last) :
    last.Agrees (Token.kindAfter previous ts) := by
  induction ts generalizing previous cursor with
  | nil =>
    cases h
    exact hagrees
  | cons t ts ih =>
    obtain ⟨next, hstep, h⟩ := step_of_run h
    exact ih (step_agrees hstep) h

/-- A walk goes on behind an operand. -/
theorem run_behind {previous : Option TokenKind} {cursor next : Cursor L} {c : Context L}
    {x : Tree} {ts : List Token} {t : Token} {kind : TokenKind}
    (hrun : run previous cursor ts = some (read c x)) (hkind : t.kind = kind)
    (hstarts : kind.startsValue = false) (htake : (read c x).take t = some next)
    (us : List Token) : run previous cursor (ts ++ t :: us) = run (some t.kind) next us := by
  rw [run_append, hrun, Option.bind_some]
  refine run_cons ?_ htake us
  unfold Token.isAdjacent
  split
  · rw [hkind, hstarts, Bool.and_false]
  · rfl

/-! ## What derives is accepted -/

/-- The walk reads the tokens as what the nonterminal stands for. -/
def Readable (L : Language) : Nonterminal → List Token → Prop
  | .arguments 0, ts => ts = []
  | .arguments (count + 1), ts => ∀ previous callee (c : Context L),
    (due c).Agrees previous → ∃ d x,
      run previous (due (.call callee [] c)) ts = some (read d x) ∧
      d.frames = .call callee count :: c.frames
  | _, ts => ∀ previous (c : Context L), (due c).Agrees previous → ∃ d x,
      run previous (due c) ts = some (read d x) ∧ d.frames = c.frames

/-- An operand is missing behind a token that neither ends one nor asks for another token. -/
theorem agrees_due {t : Token} {kind : TokenKind} {c : Context L} (hkind : t.kind = kind)
    (hwaits : kind.endsValue = false ∧ kind ≠ .function ∧ kind ≠ .separator) :
    (due c).Agrees (some t.kind) := by
  intro other h
  cases h
  rw [hkind]
  exact hwaits

/-- Where a multiplication sign may be left out, the walk goes on as behind the sign. -/
theorem run_joined {previous : Option TokenKind} {cursor : Cursor L} {c : Context L} {x : Tree}
    {ts us : List Token} {t : Token} (hagrees : cursor.Agrees previous)
    (hrun : run previous cursor ts = some (read c x)) (hstarts : t.kind.startsValue = true)
    (hjoins : L.Joins ts (t :: us)) (hprevious : previous ≠ some .text) :
    ∃ d : Context L, d.frames = c.frames ∧
      run previous cursor (ts ++ t :: us) = run (some .infixOperator) (due d) (t :: us) := by
  obtain ⟨kind, hkind, hends⟩ := run_agrees hagrees hrun
  have htext : some kind ≠ some .text := by
    intro htext
    rw [← hkind, Token.kindAfter_eq] at htext
    cases hlast : ts.getLast? with
    | none =>
      rw [hlast] at htext
      exact hprevious htext
    | some token =>
      rw [hlast] at htext
      exact hjoins.before token hlast (Option.some.inj htext)
  have hstar : ((read c x).take (Token.star t)).isSome = true := by
    rw [isSome_take_star]
    exact hjoins.known
  obtain ⟨between, hbetween⟩ := Option.isSome_iff_exists.mp hstar
  obtain ⟨d, rfl, hframes⟩ := due_of_take_star hbetween
  have hmay : L.mayJoin (some kind) t = true := by
    have hbehind := hjoins.behind t rfl
    simp only [Language.mayJoin, Bool.and_eq_true, bne_iff_ne, ne_eq]
    exact ⟨⟨hjoins.allowed, htext⟩, hbehind⟩
  refine ⟨d, hframes, ?_⟩
  rw [run_append, hrun, Option.bind_some, hkind, run, run]
  have hplain : Token.isAdjacent (some .infixOperator) t = false := rfl
  have hadjacent : Token.isAdjacent (some kind) t = true := by
    simp [Token.isAdjacent, hends, hstarts]
  simp only [step, hadjacent, hplain, hmay, hbetween, if_true, Option.bind_some,
    Bool.false_eq_true, if_false]

namespace Readable

variable {ts us : List Token}

theorem between {operator : Token} (hts : Readable L .expression ts) (hus : Readable L .unary us)
    (hkind : operator.kind = .infixOperator) (hknown : operator.Known L) :
    Readable L .expression (ts ++ operator :: us) := by
  intro previous c hagrees
  obtain ⟨d, x, hrun, hframes⟩ := hts previous c hagrees
  obtain ⟨sign, rfl⟩ := Sign.exists_of_known .between hknown hkind
  obtain ⟨e, htake, hsame⟩ := take_between sign d x
  obtain ⟨f, y, hrest, hlast⟩ :=
    hus (some sign.token.kind) e (agrees_due hkind (by decide))
  refine ⟨f, y, ?_, by rw [hlast, hsame, hframes]⟩
  rw [run_behind hrun hkind rfl htake, hrest]

theorem adjacent (hts : Readable L .expression ts) (hus : Readable L .suffixed us)
    (hoperand : Derives L .suffixed us) (hjoins : L.Joins ts us) :
    Readable L .expression (ts ++ us) := by
  intro previous c hagrees
  obtain ⟨d, x, hrun, hframes⟩ := hts previous c hagrees
  obtain ⟨t, rest, rfl, hstarts⟩ := hoperand.startsValue (.inl rfl)
  have htext : previous ≠ some .text := by
    rintro rfl
    cases (hagrees .text rfl).1
  obtain ⟨e, hsame, hgoes⟩ := run_joined hagrees hrun hstarts hjoins htext
  have hstar : (Token.star t).kind = .infixOperator := rfl
  obtain ⟨f, y, hrest, hlast⟩ :=
    hus (some (Token.star t).kind) e (agrees_due hstar (by decide))
  exact ⟨f, y, hgoes.trans hrest, by rw [hlast, hsame, hframes]⟩

theorem before {operator : Token} (hts : Readable L .unary ts)
    (hkind : operator.kind = .prefixOperator) (hknown : operator.Known L) :
    Readable L .unary (operator :: ts) := by
  intro previous c hagrees
  obtain ⟨sign, rfl⟩ := Sign.exists_of_known .before hknown hkind
  obtain ⟨d, x, hrun, hframes⟩ :=
    hts (some sign.token.kind) (.before sign c) (agrees_due hkind (by decide))
  exact ⟨d, x, by rw [run_first hagrees (take_before sign c), hrun], hframes⟩

theorem after {operator : Token} (hts : Readable L .suffixed ts)
    (hkind : operator.kind = .postfixOperator) (hknown : operator.Known L) :
    Readable L .suffixed (ts ++ [operator]) := by
  intro previous c hagrees
  obtain ⟨d, x, hrun, hframes⟩ := hts previous c hagrees
  obtain ⟨sign, rfl⟩ := Sign.exists_of_known .after hknown hkind
  obtain ⟨e, y, htake, hsame⟩ := take_after sign d x
  refine ⟨e, y, ?_, by rw [hsame, hframes]⟩
  rw [run_behind hrun hkind rfl htake]
  rfl

theorem index {opening closing : Token} (hts : Readable L .suffixed ts)
    (hus : Readable L .expression us) (hopening : opening.kind = .arrayOpen)
    (hclosing : closing.kind = .arrayClose) :
    Readable L .suffixed (ts ++ opening :: (us ++ [closing])) := by
  intro previous c hagrees
  obtain ⟨d, x, hrun, hframes⟩ := hts previous c hagrees
  obtain ⟨e, htake, hsame⟩ := take_arrayOpen hopening d x
  obtain ⟨f, y, hinner, hlast⟩ :=
    hus (some opening.kind) e (agrees_due hopening (by decide))
  obtain ⟨g, z, hclose, hsame'⟩ := take_closeIndex hclosing (hlast.trans hsame) y
  refine ⟨g, z, ?_, by rw [hsame', hframes]⟩
  rw [run_behind hrun hopening rfl htake, run_behind hinner hclosing rfl hclose]
  rfl

theorem field {separator name : Token} (hts : Readable L .suffixed ts)
    (hseparator : separator.kind = .separator) (hname : name.kind = .name) :
    Readable L .suffixed (ts ++ [separator, name]) := by
  intro previous c hagrees
  obtain ⟨d, x, hrun, hframes⟩ := hts previous c hagrees
  obtain ⟨e, y, z, htake, hfield, hsame⟩ := take_field hseparator hname d x
  refine ⟨e, z, ?_, by rw [hsame, hframes]⟩
  rw [run_behind hrun hseparator rfl htake, hseparator, run_cons rfl hfield]
  rfl

theorem leaf {token : Token}
    (hkind : token.kind = .number ∨ token.kind = .text ∨ token.kind = .name) :
    Readable L .primary [token] := by
  intro previous c hagrees
  have htake : (due c).take token = some (read c (Tree.leaf token)) := by
    rcases hkind with h | h | h <;> simp [take, h]
  refine ⟨c, Tree.leaf token, ?_, rfl⟩
  rw [run_first hagrees htake]
  rfl

theorem group {opening closing : Token} (hts : Readable L .expression ts)
    (hopening : opening.kind = .parenOpen) (hclosing : closing.kind = .parenClose) :
    Readable L .primary (opening :: (ts ++ [closing])) := by
  intro previous c hagrees
  have htake : (due c).take opening = some (due (.group opening c)) := by
    simp [take, hopening]
  obtain ⟨d, x, hinner, hlast⟩ :=
    hts (some opening.kind) (.group opening c) (agrees_due hopening (by decide))
  obtain ⟨e, y, hclose, hsame⟩ := take_closeGroup hclosing hlast x
  refine ⟨e, y, ?_, hsame⟩
  rw [run_first hagrees htake, run_behind hinner hclosing rfl hclose]
  rfl

theorem call {callee : Callee L} {opening closing : Token} {count : Nat}
    (hts : Readable L (.arguments count) ts) (hopening : opening.kind = .parenOpen)
    (hclosing : closing.kind = .parenClose)
    (haccepts : callee.function.signature.accepts count = true) :
    Readable L .primary (callee.token :: opening :: (ts ++ [closing])) := by
  intro previous c hagrees
  have hcalled : (due c).take callee.token = some (called callee.token c) := by
    simp [take, callee.kind_eq]
  have hopen : (called callee.token c).take opening = some (due (.call callee [] c)) := by
    simp [take, hopening]
  have hbegin : ∀ us, run previous (due c) (callee.token :: opening :: us) =
      run (some opening.kind) (due (.call callee [] c)) us := by
    intro us
    rw [run_first hagrees hcalled, callee.kind_eq, run_cons rfl hopen]
  have hagrees' : ∀ d : Context L, (due d).Agrees (some opening.kind) := by
    intro d
    exact agrees_due hopening (by decide)
  cases count with
  | zero =>
    have hempty : ts = [] := hts
    subst hempty
    have hclose : (due (.call callee [] c)).take closing =
        some (read c (.node callee.bound [])) := by
      simp [take, hclosing, closeEmpty, haccepts]
    refine ⟨c, .node callee.bound [], ?_, rfl⟩
    rw [hbegin, List.nil_append, run_first (hagrees' _) hclose]
    rfl
  | succ count =>
    obtain ⟨d, x, hinner, hlast⟩ := hts (some opening.kind) callee c (hagrees' c)
    obtain ⟨e, y, hclose, hsame⟩ := take_closeCall hclosing hlast x haccepts
    refine ⟨e, y, ?_, hsame⟩
    rw [hbegin, run_behind hinner hclosing rfl hclose]
    rfl

theorem firstArgument (hts : Readable L .expression ts) : Readable L (.arguments 1) ts := by
  intro previous callee c hagrees
  exact hts previous (.call callee [] c) hagrees

theorem nextArgument {comma : Token} {count : Nat} (hts : Readable L (.arguments (count + 1)) ts)
    (hus : Readable L .expression us) (hcomma : comma.kind = .comma) :
    Readable L (.arguments (count + 2)) (ts ++ comma :: us) := by
  intro previous callee c hagrees
  obtain ⟨d, x, hrun, hframes⟩ := hts previous callee c hagrees
  obtain ⟨e, htake, hsame⟩ := take_comma hcomma hframes x
  obtain ⟨f, y, hrest, hlast⟩ :=
    hus (some comma.kind) e (agrees_due hcomma (by decide))
  refine ⟨f, y, ?_, by rw [hlast, hsame]⟩
  rw [run_behind hrun hcomma rfl htake, hrest]

end Readable

theorem readable_of_derives {nonterminal : Nonterminal} {ts : List Token}
    (h : Derives L nonterminal ts) (hknown : ∀ token ∈ ts, token.Known L) :
    Readable L nonterminal ts := by
  induction h with
  | single _ ih | operand _ ih | primary _ ih => exact ih hknown
  | between _ hkind _ ihts ihus =>
    obtain ⟨hts, hrest⟩ := List.forall_mem_append.mp hknown
    obtain ⟨hoperator, hus⟩ := List.forall_mem_cons.mp hrest
    exact .between (ihts hts) (ihus hus) hkind hoperator
  | adjacent _ hoperand hjoins ihts ihus =>
    obtain ⟨hts, hus⟩ := List.forall_mem_append.mp hknown
    exact .adjacent (ihts hts) (ihus hus) hoperand hjoins
  | before hkind _ ih =>
    obtain ⟨hoperator, hts⟩ := List.forall_mem_cons.mp hknown
    exact .before (ih hts) hkind hoperator
  | after _ hkind ih =>
    obtain ⟨hts, hoperator⟩ := List.forall_mem_append.mp hknown
    exact .after (ih hts) hkind (hoperator _ List.mem_cons_self)
  | index _ hopening _ hclosing ihts ihus =>
    obtain ⟨hts, hrest⟩ := List.forall_mem_append.mp hknown
    obtain ⟨hus, _⟩ := List.forall_mem_append.mp (List.forall_mem_cons.mp hrest).2
    exact .index (ihts hts) (ihus hus) hopening hclosing
  | field _ hseparator hname ih =>
    obtain ⟨hts, _⟩ := List.forall_mem_append.mp hknown
    exact .field (ih hts) hseparator hname
  | leaf hkind => exact .leaf hkind
  | group hopening _ hclosing ih =>
    obtain ⟨hts, _⟩ := List.forall_mem_append.mp (List.forall_mem_cons.mp hknown).2
    exact .group (ih hts) hopening hclosing
  | call hname hfound hopening _ hclosing haccepts ih =>
    obtain ⟨_, hrest⟩ := List.forall_mem_cons.mp hknown
    obtain ⟨hts, _⟩ := List.forall_mem_append.mp (List.forall_mem_cons.mp hrest).2
    obtain ⟨callee, rfl, rfl⟩ := Callee.exists_of_found hname hfound
    exact .call (ih hts) hopening hclosing haccepts
  | noArguments => rfl
  | firstArgument _ ih => exact .firstArgument (ih hknown)
  | nextArgument _ hcomma _ ihts ihus =>
    obtain ⟨hts, hrest⟩ := List.forall_mem_append.mp hknown
    obtain ⟨_, hus⟩ := List.forall_mem_cons.mp hrest
    exact .nextArgument (ihts hts) (ihus hus) hcomma

end Cursor
end Parser

/-- The walk gets through what derives from the grammar. -/
theorem build?_of_derives {L : Language} {tokens : List Token}
    (h : Derives L .expression tokens) (hknown : ∀ token ∈ tokens, token.Known L) :
    ∃ tree, Tree.build? L tokens = some tree := by
  obtain ⟨c, x, hrun, hframes⟩ :=
    Parser.Cursor.readable_of_derives h hknown none .top Parser.Cursor.agrees_start
  obtain ⟨d, y, hsettled, hframe, hsame⟩ := c.exists_settled x
  rw [hframes] at hsame
  cases d with
  | top =>
    refine ⟨y, Option.bind_eq_some_iff.mpr ⟨_, hrun, ?_⟩⟩
    simp only [Parser.Cursor.finish, hsettled]
  | before | after | between => cases hframe
  | group | call | index => cases hsame

/-! ## The parser and the grammar -/

namespace Tree

/-- The parser accepts a text exactly if its tokens derive from the grammar and the limit of depth
    leaves room for the tree, which it does if it is not less than the number of tokens. Whatever
    the limit is, what is accepted derives, and what derives is refused only for its depth. -/
theorem parse_ok_iff_derives {L : Language} {text : String} {tokens : List Token}
    (hscan : Token.scan L text = .ok tokens) :
    (tokens.length ≤ L.settings.maxNesting →
      ((∃ tree, parse L text = .ok tree) ↔ Derives L .expression tokens)) ∧
    ((∃ tree, parse L text = .ok tree) → Derives L .expression tokens) ∧
    (Derives L .expression tokens → (∃ tree, parse L text = .ok tree) ∨
      L.settings.maxNesting < tokens.length ∧ ∃ token, parse L text =
        .error (Parser.errorAt token (.nestingTooDeep L.settings.maxNesting))) := by
  have hparse : parse L text = ofTokens L tokens := parse_of_scan hscan
  have hsound : (∃ tree, parse L text = .ok tree) → Derives L .expression tokens := by
    rintro ⟨tree, htree⟩
    rw [hparse] at htree
    exact derives_of_build? (build?_of_ofTokens (Token.scan_stream hscan) htree)
  have hcomplete : Derives L .expression tokens → (∃ tree, parse L text = .ok tree) ∨
      L.settings.maxNesting < tokens.length ∧ ∃ token, parse L text =
        .error (Parser.errorAt token (.nestingTooDeep L.settings.maxNesting)) := by
    intro hderives
    obtain ⟨tree, hbuild⟩ := build?_of_derives hderives (Token.scan_stream hscan).known
    have hok := (ofTokens_of_build? hbuild).mono (depth_le_length hbuild)
    rcases hok with hok | ⟨hlimit, token, herror⟩
    · exact .inl ⟨tree, hparse.trans hok⟩
    · exact .inr ⟨hlimit, token, hparse.trans herror⟩
  refine ⟨fun hlimit => ⟨hsound, fun hderives => ?_⟩, hsound, hcomplete⟩
  rcases hcomplete hderives with hok | ⟨hless, _⟩
  · exact hok
  · exact absurd hlimit (Nat.not_le_of_lt hless)

set_option maxRecDepth 4000 in
theorem parse_ok_iff_derives_standard : ∃ tokens,
    Token.scan Configuration.standard.toLanguage "MAX(2, a) b[0].c" = .ok tokens ∧
    tokens.length ≤ Configuration.standard.settings.maxNesting ∧
    Derives Configuration.standard.toLanguage .expression tokens := by
  have hrun : (match Token.scan Configuration.standard.toLanguage "MAX(2, a) b[0].c" with
      | .ok tokens => decide (tokens.length ≤ Configuration.standard.settings.maxNesting) &&
          (ofTokens Configuration.standard.toLanguage tokens).toBool
      | .error _ => false) = true := by
    decide +kernel
  split at hrun
  · rename_i tokens hscan
    obtain ⟨hlength, hbuilt⟩ := Bool.and_eq_true_iff.mp hrun
    have hlimit := of_decide_eq_true hlength
    refine ⟨tokens, hscan, hlimit, ((parse_ok_iff_derives hscan).1 hlimit).mp ?_⟩
    rw [parse_of_scan hscan]
    cases htree : ofTokens Configuration.standard.toLanguage tokens with
    | ok tree => exact ⟨tree, rfl⟩
    | error error =>
      rw [htree] at hbuilt
      cases hbuilt
  · cases hrun

end Tree
end Formula

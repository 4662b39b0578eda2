-- SUMMARY: A lower limit of nesting is a filter: the texts that it accepts are those accepted before whose trees are not too deep.
import Formula.Proofs.Result
import Formula.Tree.Parser

/-!
# The limit of nesting as a filter

The parser compares a height with the limit whenever it makes a node, long before the tree is
complete. Two parsers of which the first has no higher limit are compared operation by operation
(`Filtered`): where the operands are low enough to begin with, the first one goes on exactly where
the other one does and leaves operands that are low enough; and operands only grow, so an operand
that is too high never ends up in a tree that is not. With one limit, both parsers do the same.

The precedence of an operator may depend on the settings, and the limit is one of them. So the
parsers must agree on the precedences of their operators (`Language.Below`).
-/

namespace Formula

namespace Language

/-- The language with another limit of nesting. -/
def within (L : Language) (limit : Nat) : Language :=
  { L with settings := { L.settings with maxNesting := limit } }

variable (L L' : Language)

/-- Under both limits the operators of the language have the same precedences. -/
def RankedAlike (n m : Nat) : Prop :=
  ∀ {fixity : Fixity} {name : String} {operator : Operator},
    L.operators.find? fixity name = some operator →
      (L.within n).precedenceOf operator = (L.within m).precedenceOf operator

/-- The operator has the same precedence in both languages. -/
def RanksAlike (operator : Operator) : Prop :=
  L.precedenceOf operator = L'.precedenceOf operator

/-- The languages are read alike, but the first one may have a lower limit of nesting. -/
structure Below : Prop where
  operators : L.operators = L'.operators
  functions : L.functions = L'.functions
  implicit : L.settings.implicitMultiplication = L'.settings.implicitMultiplication
  limit : L.settings.maxNesting ≤ L'.settings.maxNesting
  ranks : ∀ {fixity : Fixity} {name : String} {operator : Operator},
    L'.operators.find? fixity name = some operator → RanksAlike L L' operator

/-- The languages have one limit of nesting. -/
def SameLimit : Prop := L.settings.maxNesting = L'.settings.maxNesting

theorem below_within {L : Language} {n m : Nat} (hranks : L.RankedAlike n m) (hle : n ≤ m) :
    (L.within n).Below (L.within m) :=
  ⟨rfl, rfl, rfl, hle, hranks⟩

end Language

/-- An operator that waits has the same precedence in both languages. -/
def Pending.Alike (L L' : Language) : Pending → Prop
  | .operator _ waiting => L.RanksAlike L' waiting
  | _ => True

/-! ## Tokens -/

namespace Token

variable {L : Language} {n : Nat}

/-- What a text is split into follows from the tokens that are found at its characters. -/
theorem scanFrom_congr {L L' : Language}
    (h : ∀ previous position c rest,
      scanToken ⟨L', previous, position⟩ c rest = scanToken ⟨L, previous, position⟩ c rest)
    (previous : Option TokenKind) (position : Nat) (text : List Char) :
    scanFrom L' previous position text = scanFrom L previous position text := by
  fun_induction scanFrom L previous position text with
  | case1 => rw [scanFrom]
  | case2 previous position c rest hblank ih => rw [scanFrom, if_pos hblank, ih]
  | case3 previous position c rest hblank error herror =>
    rw [scanFrom, if_neg hblank, h, herror]
  | case4 previous position c rest hblank scanned hscanned error herror ih =>
    rw [scanFrom, if_neg hblank, h, hscanned]
    simp only [ih, herror]
  | case5 previous position c rest hblank scanned hscanned tokens htokens ih =>
    rw [scanFrom, if_neg hblank, h, hscanned]
    simp only [ih, htokens]

theorem scanFrom_within (previous : Option TokenKind) (position : Nat) (text : List Char) :
    scanFrom (L.within n) previous position text = scanFrom L previous position text :=
  @scanFrom_congr L (L.within n) (fun _ _ _ _ => rfl) previous position text

/-- The limit of nesting does not change how a text is split into tokens. -/
theorem scan_within (text : String) : scan (L.within n) text = scan L text :=
  scanFrom_within none 0 text.toList

end Token

/-! ## Filtered computations -/

namespace Parser

/-- The first computation is the second one with some values turned down: from a good beginning it
    yields the values that are good, and good values come from good beginnings only. All values have
    a property. Where the computations should be `exact`, none is turned down and no error is
    another one. -/
structure Filtered {α : Type} (exact good : Prop) (P Good : α → Prop)
    (first second : Except ParseError α) : Prop where
  iff : good → ∀ a, first = .ok a ↔ second = .ok a ∧ Good a
  back : ∀ a, second = .ok a → Good a → good
  yields : Yields P second
  eq : exact → first = second

namespace Filtered

variable {α β : Type} {exact good : Prop} {P Good : α → Prop} {first second : Except ParseError α}

theorem ok {a : α} (hP : P a) (h : good ↔ Good a) :
    Filtered exact good P Good (.ok a) (.ok a) where
  iff hgood b := by
    constructor
    · rintro ⟨⟩
      exact ⟨rfl, h.mp hgood⟩
    · exact And.left
  back := by
    rintro b ⟨⟩ hb
    exact h.mpr hb
  yields := .ok hP
  eq _ := rfl

theorem error (e : ParseError) : Filtered exact good P Good (.error e) (.error e) where
  iff _ _ := ⟨nofun, nofun⟩
  back := nofun
  yields := .error
  eq _ := rfl

theorem ite {c c' : Prop} [Decidable c] [Decidable c'] (hsame : c ↔ c')
    {first' second' : Except ParseError α} (h : Filtered exact good P Good first second)
    (h' : Filtered exact good P Good first' second') :
    Filtered exact good P Good (if c then first else first') (if c' then second else second') := by
  by_cases hc : c
  · rwa [if_pos hc, if_pos (hsame.mp hc)]
  · rwa [if_neg hc, if_neg (mt hsame.mpr hc)]

theorem bind {Q Next : β → Prop} (h : Filtered exact good P Good first second)
    {f g : α → Except ParseError β}
    (hnext : ∀ a, P a → Filtered exact (Good a) Q Next (f a) (g a)) :
    Filtered exact good Q Next (first >>= f) (second >>= g) where
  iff hgood b := by
    constructor
    · intro hb
      obtain ⟨a, ha, hb⟩ := ok_of_bind hb
      obtain ⟨hsecond, hGood⟩ := (h.iff hgood a).mp ha
      obtain ⟨hg, hNext⟩ := ((hnext a (h.yields a hsecond)).iff hGood b).mp hb
      rw [hsecond]
      exact ⟨hg, hNext⟩
    · rintro ⟨hb, hNext⟩
      obtain ⟨a, ha, hb⟩ := ok_of_bind hb
      have hfiltered := hnext a (h.yields a ha)
      have hGood := hfiltered.back b hb hNext
      rw [(h.iff hgood a).mpr ⟨ha, hGood⟩]
      exact (hfiltered.iff hGood b).mpr ⟨hb, hNext⟩
  back b hb hNext := by
    obtain ⟨a, ha, hb⟩ := ok_of_bind hb
    exact h.back a ha ((hnext a (h.yields a ha)).back b hb hNext)
  yields := h.yields.bind fun a hP => (hnext a hP).yields
  eq hexact := by
    rw [h.eq hexact]
    exact h.yields.bind_congr fun a hP => (hnext a hP).eq hexact

end Filtered

/-! ## Operands -/

/-- All operands are low enough. -/
def Low (limit : Nat) (operands : List Operand) : Prop :=
  ∀ operand ∈ operands, operand.height ≤ limit

variable {L : Language} {n m : Nat}

theorem low_cons {operand : Operand} {operands : List Operand} :
    Low n (operand :: operands) ↔ operand.height ≤ n ∧ Low n operands :=
  List.forall_mem_cons

theorem height_le_maxHeight {operand : Operand} {operands : List Operand}
    (h : operand ∈ operands) : operand.height ≤ Operand.maxHeight operands := by
  induction operands with
  | nil => cases h
  | cons first rest ih =>
    rcases List.mem_cons.mp h with rfl | h
    · exact Nat.le_max_left _ _
    · exact Nat.le_trans (ih h) (Nat.le_max_right _ _)

/-- A node over the operands on top of the stack, with others below it. Operands that are too high
    are in the node or below it. -/
theorem low_of_node {token : Token} {operands others : List Operand} {count : Nat}
    (h : Low n (Operand.node token (topOperands operands count ++ others) ::
      operands.drop count)) : Low n operands := by
  obtain ⟨hnode, hrest⟩ := low_cons.mp h
  intro operand hoperand
  rw [← List.take_append_drop count operands] at hoperand
  rcases List.mem_append.mp hoperand with htop | hdropped
  · have hmem : operand ∈ topOperands operands count ++ others :=
      List.mem_append_left _ (List.mem_reverse.mpr htop)
    have hheight := height_le_maxHeight hmem
    simp only [Operand.node] at hnode
    omega
  · exact hrest operand hdropped

theorem pushOperand_eq_ok {operand : Operand} {operands result : List Operand} :
    pushOperand L operand operands = .ok result ↔
      operand.height ≤ L.settings.maxNesting ∧ result = operand :: operands := by
  simp only [pushOperand]
  split
  · refine ⟨nofun, fun h => ?_⟩
    omega
  · constructor
    · rintro ⟨⟩
      exact ⟨by omega, rfl⟩
    · rintro ⟨_, rfl⟩
      rfl

/-! ## Operations of the parser -/

/-- All operands that are read so far are low enough. -/
def IsLow (limit : Nat) (parser : Parser) : Prop := Low limit parser.operands

/-- The operators that wait have the same precedences in both languages. -/
def Alike (L L' : Language) (parser : Parser) : Prop :=
  ∀ entry ∈ parser.pending, entry.Alike L L'

theorem Alike.below {L L' : Language} {parser : Parser} {entry : Pending} {rest : List Pending}
    (h : parser.Alike L L') (hpending : parser.pending = entry :: rest) :
    ∀ other ∈ rest, other.Alike L L' := by
  rw [Alike, hpending] at h
  exact (List.forall_mem_cons.mp h).2

section Operations

variable {L' : Language} {parser : Parser}

/-- The operation with the parser of the first language is filtered, and what waits afterwards has
    the same precedences. -/
abbrev FilteredParser (L L' : Language) (parser : Parser)
    (first second : Except ParseError Parser) : Prop :=
  Filtered (L.SameLimit L') (IsLow L.settings.maxNesting parser) (Alike L L')
    (IsLow L.settings.maxNesting) first second

variable (h : L.Below L')

include h

/-- Making a node of operands on top of the stack. -/
theorem pushOperand_filtered (token : Token) (operands others : List Operand) (count : Nat) :
    Filtered (L.SameLimit L') (Low L.settings.maxNesting operands) (fun _ => True)
      (Low L.settings.maxNesting)
      (pushOperand L (Operand.node token (topOperands operands count ++ others))
        (operands.drop count))
      (pushOperand L' (Operand.node token (topOperands operands count ++ others))
        (operands.drop count)) where
  iff hlow result := by
    have hdropped : Low L.settings.maxNesting (operands.drop count) :=
      fun operand hoperand => hlow operand (List.mem_of_mem_drop hoperand)
    rw [pushOperand_eq_ok, pushOperand_eq_ok]
    constructor
    · rintro ⟨hheight, rfl⟩
      exact ⟨⟨Nat.le_trans hheight h.limit, rfl⟩, low_cons.mpr ⟨hheight, hdropped⟩⟩
    · rintro ⟨⟨_, rfl⟩, hresult⟩
      exact ⟨(low_cons.mp hresult).1, rfl⟩
  back result hresult hlow := by
    obtain ⟨_, rfl⟩ := pushOperand_eq_ok.mp hresult
    exact low_of_node hlow
  yields _ _ := trivial
  eq hexact := by rw [pushOperand, pushOperand, hexact]

theorem reduce_filtered (floor : Nat) (token : Token) (operator : Operator)
    (operands : List Operand) :
    Filtered (L.SameLimit L') (Low L.settings.maxNesting operands) (fun _ => True)
      (Low L.settings.maxNesting) (reduce L floor token operator operands)
      (reduce L' floor token operator operands) := by
  simp only [reduce]
  split
  · exact .error _
  · simpa using pushOperand_filtered h _ operands [] _

/-- Operators are applied as long as one of two tests says so, which agree about those that wait. -/
theorem reduceWhile_filtered (floor : Nat) {now now' : Operator → Bool} {pending : List Pending}
    (halike : ∀ entry ∈ pending, entry.Alike L L')
    (hnow : ∀ operator, L.RanksAlike L' operator → now operator = now' operator)
    (operands : List Operand) :
    Filtered (L.SameLimit L') (Low L.settings.maxNesting operands)
      (fun left => ∀ entry ∈ left.1, entry.Alike L L')
      (fun left => Low L.settings.maxNesting left.2) (reduceWhile L floor now pending operands)
      (reduceWhile L' floor now' pending operands) := by
  induction pending generalizing operands with
  | nil => exact .ok halike .rfl
  | cons entry rest ih =>
    obtain ⟨hentry, hrest⟩ := List.forall_mem_cons.mp halike
    cases entry with
    | operator token operator =>
      have hsame : now operator = true ↔ now' operator = true := by rw [hnow operator hentry]
      exact .ite hsame
        ((reduce_filtered h floor token operator operands).bind fun reduced _ => ih hrest reduced)
        (.ok halike .rfl)
    | group | call | index => exact .ok halike .rfl

theorem settle_filtered {now now' : Operator → Bool}
    (hnow : ∀ operator, L.RanksAlike L' operator → now operator = now' operator)
    (halike : parser.Alike L L') :
    FilteredParser L L' parser (settle L now parser) (settle L' now' parser) :=
  (reduceWhile_filtered h _ halike hnow _).bind fun _ hleft => .ok hleft .rfl

theorem pushOperator_filtered (token : Token) {operator : Operator}
    (hoperator : L.RanksAlike L' operator) (halike : parser.Alike L L') :
    FilteredParser L L' parser (pushOperator L token operator parser)
      (pushOperator L' token operator parser) := by
  have hnow : ∀ waiting, L.RanksAlike L' waiting →
      bindsTighter L (L.precedenceOf operator) operator.rule.leftAssociative waiting =
        bindsTighter L' (L'.precedenceOf operator) operator.rule.leftAssociative waiting := by
    intro waiting hwaiting
    rw [bindsTighter, bindsTighter, hoperator, hwaiting]
  exact (settle_filtered h hnow halike).bind fun _ hsettled =>
    .ok (List.forall_mem_cons.mpr ⟨hoperator, hsettled⟩) .rfl

theorem joinAdjacent_filtered (token : Token) (halike : parser.Alike L L') :
    FilteredParser L L' parser (joinAdjacent L token parser) (joinAdjacent L' token parser) := by
  unfold joinAdjacent
  simp only [h.operators, h.implicit]
  split
  · exact .ok halike .rfl
  · refine .ite .rfl (.ok halike .rfl) (.ite .rfl (.error _) ?_)
    split
    · exact .error _
    · rename_i hfound
      exact pushOperator_filtered h _ (h.ranks hfound) halike

theorem openParen_filtered (token : Token) (halike : parser.Alike L L') :
    FilteredParser L L' parser (openParen L token parser) (openParen L' token parser) := by
  simp only [openParen, h.functions]
  split
  · exact .ok (List.forall_mem_cons.mpr ⟨trivial, halike⟩) .rfl
  · split
    · exact .error _
    · exact .ok (List.forall_mem_cons.mpr ⟨trivial, halike⟩) .rfl

theorem comma_filtered (token : Token) (halike : parser.Alike L L') :
    FilteredParser L L' parser (comma L token parser) (comma L' token parser) := by
  refine (settle_filtered h (fun _ _ => rfl) halike).bind fun settled hsettled => ?_
  simp only
  split
  · rename_i hpending
    split
    · exact .error _
    · exact .ok (List.forall_mem_cons.mpr ⟨trivial, hsettled.below hpending⟩) .rfl
  · exact .error _

theorem closeParen_filtered (token : Token) (halike : parser.Alike L L') :
    FilteredParser L L' parser (closeParen L token parser) (closeParen L' token parser) := by
  refine (settle_filtered h (fun _ _ => rfl) halike).bind fun settled hsettled => ?_
  simp only
  split
  · rename_i hpending
    split
    · exact .ok (hsettled.below hpending) .rfl
    · exact .error _
  · split
    · exact .error _
    · split
      · exact .error _
      · rename_i call function base slot commas rest hpending _ _
        have hpush := pushOperand_filtered h (call.bind (.function function))
          settled.operands [] (settled.operands.length - base)
        rw [List.append_nil] at hpush
        exact hpush.bind fun _ _ => .ok (hsettled.below hpending) .rfl
  · exact .error _
  · exact .error _
  · exact .error _

theorem closeBracket_filtered (token : Token) (halike : parser.Alike L L') :
    FilteredParser L L' parser (closeBracket L token parser) (closeBracket L' token parser) := by
  refine (settle_filtered h (fun _ _ => rfl) halike).bind fun settled hsettled => ?_
  simp only
  split
  · split
    · exact .error _
    · rename_i bracket base rest hpending _
      have hpush := pushOperand_filtered h
        { kind := .arrayIndex, lexeme := bracket.lexeme, position := bracket.position }
        settled.operands [] 2
      rw [List.append_nil] at hpush
      exact hpush.bind fun _ _ => .ok (hsettled.below hpending) .rfl
  · exact .error _
  · exact .error _
  · exact .error _

theorem openBracket_filtered (token : Token) (halike : parser.Alike L L') :
    FilteredParser L L' parser (openBracket L token parser) (openBracket L' token parser) :=
  (settle_filtered h (fun _ _ => rfl) halike).bind fun _ hsettled =>
    .ok (List.forall_mem_cons.mpr ⟨trivial, hsettled⟩) .rfl

theorem accessField_filtered (separator field : Token) (halike : parser.Alike L L') :
    FilteredParser L L' parser (accessField L separator field parser)
      (accessField L' separator field parser) := by
  simp only [accessField]
  split
  · exact .error _
  · exact (pushOperand_filtered h _ _ _ _).bind fun _ _ => .ok halike .rfl

theorem resolve_filtered {good : Prop} (token : Token) :
    Filtered (L.SameLimit L') good (L.RanksAlike L') (fun _ => good) (resolve L token)
      (resolve L' token) := by
  simp only [resolve, h.operators]
  split
  · rename_i hfound
    exact .ok (h.ranks hfound) .rfl
  · exact .error _

omit h in
/-- A leaf has height one. -/
theorem isLow_leaf (hn : 1 ≤ n) (token : Token) (parser : Parser) :
    IsLow n parser ↔ IsLow n { parser with operands := Operand.leaf token :: parser.operands } := by
  simp [IsLow, low_cons, Operand.leaf, hn]

variable (hlimit : 1 ≤ L.settings.maxNesting)

include hlimit

theorem take_filtered (token : Token) (halike : parser.Alike L L') :
    FilteredParser L L' parser (take L token parser) (take L' token parser) := by
  unfold take
  split
  · exact .ok halike (isLow_leaf hlimit token parser)
  · exact .ok halike (isLow_leaf hlimit token parser)
  · split
    · exact accessField_filtered h _ _ halike
    · exact .ok halike (isLow_leaf hlimit token parser)
  · exact .ok halike .rfl
  · exact openParen_filtered h token halike
  · exact closeParen_filtered h token halike
  · exact comma_filtered h token halike
  · exact (resolve_filtered h token).bind fun _ hoperator =>
      .ok (List.forall_mem_cons.mpr ⟨hoperator, halike⟩) .rfl
  · exact (resolve_filtered h token).bind fun _ hoperator =>
      pushOperator_filtered h _ hoperator halike
  · exact (resolve_filtered h token).bind fun _ hoperator =>
      pushOperator_filtered h _ hoperator halike
  · exact openBracket_filtered h token halike
  · exact closeBracket_filtered h token halike
  · exact (settle_filtered h (fun _ _ => rfl) halike).bind fun _ hsettled => .ok hsettled .rfl
  · exact .error _

theorem step_filtered (token : Token) (halike : parser.Alike L L') :
    FilteredParser L L' parser (step L parser token) (step L' parser token) := by
  have htake : ∀ parser : Parser, parser.Alike L L' →
      FilteredParser L L' parser
        (take L token parser >>= fun parser => .ok { parser with previous := some token.kind })
        (take L' token parser >>= fun parser => .ok { parser with previous := some token.kind }) :=
    fun parser halike => (take_filtered h hlimit token halike).bind fun _ hnext => .ok hnext .rfl
  unfold step
  dsimp only
  split
  · exact (joinAdjacent_filtered h token halike).bind htake
  · exact htake parser halike

theorem foldlM_filtered (tokens : List Token) (halike : parser.Alike L L') :
    FilteredParser L L' parser (tokens.foldlM (step L) parser)
      (tokens.foldlM (step L') parser) := by
  induction tokens generalizing parser with
  | nil => exact .ok halike .rfl
  | cons token tokens ih =>
    rw [List.foldlM_cons, List.foldlM_cons]
    exact (step_filtered h hlimit token halike).bind fun _ => ih

omit hlimit in
theorem finish_filtered (position : Nat) (halike : parser.Alike L L') :
    Filtered (L.SameLimit L') (IsLow L.settings.maxNesting parser) (fun _ => True)
      (fun tree => tree.depth ≤ L.settings.maxNesting) (finish L position parser)
      (finish L' position parser) := by
  unfold finish
  split
  · exact .error _
  · refine (settle_filtered h (fun _ _ => rfl) halike).bind fun settled _ => ?_
    split
    · exact .error _
    · split
      · exact .error _
      · rename_i operand hoperand
        refine .ok trivial ?_
        rw [IsLow, List.reverse_eq_iff.mp hoperand, ← operand.height_eq]
        simp [Low]
      · exact .error _

end Operations

end Parser

/-! ## Trees -/

namespace Tree

variable {L L' : Language} {n m : Nat}

theorem ofTokens_filtered (h : L.Below L') (hlimit : 1 ≤ L.settings.maxNesting)
    (tokens : List Token) :
    Parser.Filtered (L.SameLimit L') True (fun _ => True)
      (fun tree : Tree => tree.depth ≤ L.settings.maxNesting) (ofTokens L tokens)
      (ofTokens L' tokens) := by
  have hstart : Parser.IsLow L.settings.maxNesting Parser.start := by
    simp [Parser.IsLow, Parser.Low, Parser.start]
  have halike : Parser.start.Alike L L' := by simp [Parser.Alike, Parser.start]
  have hrun : Parser.Filtered (L.SameLimit L') (Parser.IsLow L.settings.maxNesting Parser.start)
      (fun _ => True) (fun tree : Tree => tree.depth ≤ L.settings.maxNesting) (ofTokens L tokens)
      (ofTokens L' tokens) :=
    (Parser.foldlM_filtered h hlimit tokens halike).bind
      fun _ hparser => Parser.finish_filtered h (endPosition tokens) hparser
  exact ⟨fun _ => hrun.iff hstart, fun _ _ _ => trivial, fun _ _ => trivial, hrun.eq⟩

/-- A text is accepted with the lower limit if it is with the higher one and its tree is no deeper
    than the lower one, unless the limit decides how operators rank. -/
theorem parse_within (hranks : L.RankedAlike n m) (hn : 1 ≤ n) (hle : n ≤ m) (text : String)
    (tree : Tree) :
    parse (L.within n) text = .ok tree ↔ parse (L.within m) text = .ok tree ∧ tree.depth ≤ n := by
  unfold parse
  rw [Token.scan_within, Token.scan_within]
  cases Token.scan L text with
  | error error => exact ⟨nofun, nofun⟩
  | ok tokens =>
    exact (ofTokens_filtered (Language.below_within hranks hle) hn tokens).iff trivial tree

end Tree
end Formula

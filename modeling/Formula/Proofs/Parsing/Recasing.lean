-- SUMMARY: If words are written in capitals, the parser yields the same tree with its words in capitals, or the same error.
import Formula.Proofs.Parsing.Multiplication
import Formula.Proofs.Token.Words
import Formula.Proofs.Tree.Nodes

/-!
# The letter case of words in trees

The parser looks at the lexemes of words only to look them up, and there the letter case makes no
difference. So a parser whose tokens are written with their words in capitals goes through the same
states, up to the words in them (`Parser.step_recased`), and yields the same tree up to its words
(`Tree.parse_recased`). Only the names of fields must be left as they are: a tree keeps them behind
their separators.
-/

namespace Formula

/-! ## Tokens -/

namespace Token

variable (token : Token)

@[simp] theorem wordInCapitals_kind : token.wordInCapitals.kind = token.kind := by
  unfold wordInCapitals
  split <;> rfl

@[simp] theorem wordInCapitals_position : token.wordInCapitals.position = token.position := by
  unfold wordInCapitals
  split <;> rfl

theorem upper_wordInCapitals :
    Text.upper token.wordInCapitals.lexeme = Text.upper token.lexeme := by
  unfold wordInCapitals
  split
  · exact Text.upper_capitals _
  · rfl

theorem findFunction_wordInCapitals (functions : FunctionTable) :
    functions.find? token.wordInCapitals.lexeme = functions.find? token.lexeme := by
  rw [FunctionTable.find?, upper_wordInCapitals, FunctionTable.find?]

theorem findOperator_wordInCapitals (operators : OperatorTable) (fixity : Fixity) :
    operators.find? fixity token.wordInCapitals.lexeme = operators.find? fixity token.lexeme := by
  rw [OperatorTable.find?, upper_wordInCapitals, OperatorTable.find?]

theorem capitals_wordInCapitals :
    Text.capitals token.wordInCapitals.lexeme = Text.capitals token.lexeme := by
  unfold wordInCapitals
  split
  · exact Text.capitals_capitals _
  · rfl

theorem wordInCapitals_bind (binding : Binding) :
    (token.bind binding).wordInCapitals = token.wordInCapitals.bind binding := by
  have hkind : (token.bind binding).kind = token.kind := rfl
  unfold wordInCapitals
  rw [hkind]
  split <;> rfl

theorem wordInCapitals_of_isWord (h : token.kind.isWord = false) :
    token.wordInCapitals = token := by
  rw [wordInCapitals, h]
  rfl

theorem star_wordInCapitals : (star token).wordInCapitals = star token := by
  have hsign : Text.capitals "*" = "*" := by decide
  simp [wordInCapitals, star, TokenKind.isWord, capitals, hsign]

end Token

/-! ## Trees -/

namespace Tree

mutual

/-- The tree with its words in capitals. The name of a field stays as it is. -/
def wordsInCapitals : Tree → Tree
  | node token children =>
    match token.kind, children with
    | .separator, base :: fields => node token (wordsInCapitals base :: fields)
    | _, children => node token.wordInCapitals (wordsInCapitalsAll children)

def wordsInCapitalsAll : List Tree → List Tree
  | [] => []
  | tree :: rest => wordsInCapitals tree :: wordsInCapitalsAll rest

end

theorem wordsInCapitalsAll_eq (trees : List Tree) :
    wordsInCapitalsAll trees = trees.map wordsInCapitals := by
  induction trees with
  | nil => rfl
  | cons first rest ih => rw [wordsInCapitalsAll, ih, List.map_cons]

variable {token : Token}

theorem wordsInCapitals_node (hkind : token.kind ≠ .separator) (children : List Tree) :
    wordsInCapitals (node token children) =
      node token.wordInCapitals (children.map wordsInCapitals) := by
  rw [wordsInCapitals.eq_def]
  simp only
  split
  · exact absurd (by assumption) hkind
  · rw [wordsInCapitalsAll_eq]

/-- The name of a field is kept. -/
theorem wordsInCapitals_field (hkind : token.kind = .separator) (base : Tree) (fields : List Tree) :
    wordsInCapitals (node token (base :: fields)) =
      node token (wordsInCapitals base :: fields) := by
  rw [wordsInCapitals.eq_def]
  simp only [hkind]

theorem wordsInCapitals_none (token : Token) :
    wordsInCapitals (node token []) = node token.wordInCapitals [] := by
  rw [wordsInCapitals.eq_def]
  simp only
  split
  · rename_i h
    cases h
  · rfl

theorem token_wordsInCapitals (tree : Tree) :
    tree.wordsInCapitals.token = tree.token.wordInCapitals := by
  obtain ⟨token, children⟩ := tree
  by_cases hkind : token.kind = .separator
  · cases children with
    | nil => rw [wordsInCapitals_none, Tree.token, Tree.token]
    | cons base fields =>
      rw [wordsInCapitals_field hkind, Tree.token, Tree.token,
        Token.wordInCapitals_of_isWord _ (by rw [hkind]; rfl)]
  · rw [wordsInCapitals_node hkind, Tree.token, Tree.token]

theorem depthAll_map {f : Tree → Tree} {trees : List Tree}
    (h : ∀ tree ∈ trees, (f tree).depth = tree.depth) :
    depthAll (trees.map f) = depthAll trees := by
  induction trees with
  | nil => rfl
  | cons first rest ih =>
    obtain ⟨hfirst, hrest⟩ := List.forall_mem_cons.mp h
    simp only [List.map_cons, depthAll, hfirst, ih hrest]

theorem depth_wordsInCapitals (tree : Tree) : tree.wordsInCapitals.depth = tree.depth := by
  induction tree using induction with
  | node token children ih =>
    by_cases hkind : token.kind = .separator
    · cases children with
      | nil => rw [wordsInCapitals_none, depth, depth]
      | cons base fields =>
        rw [wordsInCapitals_field hkind]
        simp only [depth, depthAll, ih base List.mem_cons_self]
    · rw [wordsInCapitals_node hkind, depth, depth, depthAll_map ih]

end Tree

/-! ## States of the parser -/

/-- The operand with the words of its tree in capitals. -/
def Operand.wordsInCapitals (operand : Operand) : Operand := .of operand.tree.wordsInCapitals

namespace Operand

theorem height_wordsInCapitals (operand : Operand) :
    operand.wordsInCapitals.height = operand.height := by
  rw [operand.height_eq]
  exact operand.tree.depth_wordsInCapitals

theorem eq_of_tree {a b : Operand} (h : a.tree = b.tree) : a = b := by
  rw [eq_of a, eq_of b, h]

theorem wordsInCapitals_node {token : Token} (hkind : token.kind ≠ .separator)
    (operands : List Operand) : (node token operands).wordsInCapitals =
      node token.wordInCapitals (operands.map wordsInCapitals) := by
  refine eq_of_tree ?_
  simp only [wordsInCapitals, of, node, Tree.wordsInCapitals_node hkind, List.map_map]
  rfl

theorem wordsInCapitals_leaf (token : Token) :
    (leaf token).wordsInCapitals = leaf token.wordInCapitals :=
  eq_of_tree (Tree.wordsInCapitals_none token)

end Operand

/-- The entry with its word in capitals. -/
def Pending.wordsInCapitals : Pending → Pending
  | .operator token sign => .operator token.wordInCapitals sign
  | .group token base => .group token base
  | .call token function base slot commas => .call token.wordInCapitals function base slot commas
  | .index token base => .index token base

/-- The token of an operator or a call is no separator. -/
def Pending.Named : Pending → Prop
  | .operator token _ | .call token _ _ _ _ => token.kind ≠ .separator
  | .group _ _ | .index _ _ => True

namespace Parser

variable {L : Language}

/-- The parser with all words in capitals. -/
def wordsInCapitals (parser : Parser) : Parser :=
  { parser with
    pending := parser.pending.map Pending.wordsInCapitals
    operands := parser.operands.map Operand.wordsInCapitals
    awaitedCall := parser.awaitedCall.map Token.wordInCapitals }

section Fields

variable (parser : Parser)

theorem pending_wordsInCapitals :
    parser.wordsInCapitals.pending = parser.pending.map Pending.wordsInCapitals := rfl

theorem operands_wordsInCapitals :
    parser.wordsInCapitals.operands = parser.operands.map Operand.wordsInCapitals := rfl

theorem previous_wordsInCapitals : parser.wordsInCapitals.previous = parser.previous := rfl

theorem awaitedCall_wordsInCapitals :
    parser.wordsInCapitals.awaitedCall = parser.awaitedCall.map Token.wordInCapitals := rfl

end Fields

/-- Separators wait for fields, and for nothing else. -/
structure Sound (parser : Parser) : Prop where
  pending : ∀ entry ∈ parser.pending, entry.Named
  call : ∀ token, parser.awaitedCall = some token → token.kind ≠ .separator
  field : ∀ token, parser.awaitedField = some token → token.kind = .separator

/-- The second parser is the first one with all words in capitals. -/
def Recases (parser parser' : Parser) : Prop := parser' = parser.wordsInCapitals ∧ parser.Sound

/-- The errors differ at most in the letter case of a lexeme. -/
def SameFault (error error' : ParseError) : Prop := error.capitals = error'.capitals

/-- The results of two parsers of which the second one has all words in capitals. -/
abbrev Recased (result result' : Except ParseError Parser) : Prop :=
  Related SameFault Recases result result'

/-- The results are operands of which the second ones have all words in capitals. -/
abbrev RecasedOperands (result result' : Except ParseError (List Operand)) : Prop :=
  Related SameFault (fun operands operands' => operands' = operands.map Operand.wordsInCapitals)
    result result'

theorem sameFault_errorAt (token : Token) (fault : ParseFault) :
    SameFault (errorAt token fault) (errorAt token.wordInCapitals fault) := by
  simp [SameFault, errorAt, ParseError.capitals, Token.capitals_wordInCapitals]

theorem recased_error (error : ParseError) : Recased (.error error) (.error error) :=
  .error rfl

theorem recased_errorAt (token : Token) (fault : ParseFault) :
    Recased (.error (errorAt token fault)) (.error (errorAt token.wordInCapitals fault)) :=
  .error (sameFault_errorAt token fault)

/-! ## Operations of the parser -/

theorem pushOperand_recased (operand : Operand) (operands : List Operand) :
    RecasedOperands (pushOperand L operand operands)
      (pushOperand L operand.wordsInCapitals (operands.map Operand.wordsInCapitals)) := by
  simp only [pushOperand, operand.height_wordsInCapitals]
  split
  · refine .error ?_
    have htoken : operand.wordsInCapitals.tree.token = operand.tree.token.wordInCapitals :=
      operand.tree.token_wordsInCapitals
    rw [htoken]
    exact sameFault_errorAt _ _
  · exact .ok rfl

theorem topOperands_map (operands : List Operand) (count : Nat) :
    topOperands (operands.map Operand.wordsInCapitals) count =
      (topOperands operands count).map Operand.wordsInCapitals := by
  simp [topOperands, List.map_take]

/-- Making a node of the operands on top of the stack. -/
theorem pushNode_recased {token : Token} (hkind : token.kind ≠ .separator) (operands : List Operand)
    (count : Nat) :
    RecasedOperands
      (pushOperand L (Operand.node token (topOperands operands count)) (operands.drop count))
      (pushOperand L
        (Operand.node token.wordInCapitals
          (topOperands (operands.map Operand.wordsInCapitals) count))
        ((operands.map Operand.wordsInCapitals).drop count)) := by
  rw [topOperands_map, ← List.map_drop, ← Operand.wordsInCapitals_node hkind]
  exact pushOperand_recased _ _

theorem reduce_recased {token : Token} (hkind : token.kind ≠ .separator) (floor : Nat)
    (operator : Operator) (operands : List Operand) :
    RecasedOperands (reduce L floor token operator operands)
      (reduce L floor token.wordInCapitals operator (operands.map Operand.wordsInCapitals)) := by
  simp only [reduce, List.length_map]
  split
  · exact .error (sameFault_errorAt _ _)
  · have hbound : (token.bind (.operator operator)).kind ≠ .separator := hkind
    rw [← Token.wordInCapitals_bind]
    exact pushNode_recased hbound _ _

/-- The stacks with all words in capitals. What is still pending has the tokens that it had. -/
theorem reduceWhile_recased (floor : Nat) (now : Operator → Bool) {pending : List Pending}
    (hpending : ∀ entry ∈ pending, entry.Named) (operands : List Operand) :
    Related SameFault
      (fun left left' => left' = (left.1.map Pending.wordsInCapitals,
        left.2.map Operand.wordsInCapitals) ∧ ∀ entry ∈ left.1, entry.Named)
      (reduceWhile L floor now pending operands)
      (reduceWhile L floor now (pending.map Pending.wordsInCapitals)
        (operands.map Operand.wordsInCapitals)) := by
  induction pending generalizing operands with
  | nil => exact .ok ⟨rfl, hpending⟩
  | cons entry rest ih =>
    obtain ⟨hentry, hrest⟩ := List.forall_mem_cons.mp hpending
    cases entry with
    | operator token operator =>
      simp only [List.map_cons, Pending.wordsInCapitals, reduceWhile]
      split
      · refine (reduce_recased hentry floor operator operands).bind ?_
        rintro reduced _ rfl
        exact ih hrest reduced
      · exact .ok ⟨rfl, hpending⟩
    | group | call | index => exact .ok ⟨rfl, hpending⟩

variable {parser : Parser} {token : Token}

theorem settle_recased (h : parser.Sound) (now : Operator → Bool) :
    Recased (settle L now parser) (settle L now parser.wordsInCapitals) := by
  refine (reduceWhile_recased parser.floor now h.pending parser.operands).bind ?_
  rintro ⟨pending, operands⟩ _ ⟨rfl, hpending⟩
  exact .ok ⟨rfl, hpending, h.call, h.field⟩

theorem pushOperator_recased (h : parser.Sound) (hkind : token.kind ≠ .separator)
    (operator : Operator) :
    Recased (pushOperator L token operator parser)
      (pushOperator L token.wordInCapitals operator parser.wordsInCapitals) := by
  refine (settle_recased h _).bind ?_
  rintro settled _ ⟨rfl, hsettled⟩
  exact .ok ⟨rfl, List.forall_mem_cons.mpr ⟨hkind, hsettled.pending⟩, hsettled.call,
    hsettled.field⟩

theorem joinAdjacent_recased (h : parser.Sound) (token : Token) :
    Recased (joinAdjacent L token parser)
      (joinAdjacent L token.wordInCapitals parser.wordsInCapitals) := by
  have hself : Recased (.ok parser) (.ok parser.wordsInCapitals) := .ok ⟨rfl, h⟩
  simp only [joinAdjacent, previous_wordsInCapitals, Token.wordInCapitals_kind,
    Token.wordInCapitals_position]
  split
  · exact hself
  · split
    · exact hself
    · split
      · exact recased_errorAt _ _
      · split
        · exact recased_errorAt _ _
        · have hsign : (Token.star token).kind ≠ .separator := by simp [Token.star]
          have hstar := @pushOperator_recased L parser (Token.star token) h hsign
          rw [Token.star_wordInCapitals] at hstar
          exact hstar _

theorem openParen_recased (h : parser.Sound) (token : Token) :
    Recased (openParen L token parser) (openParen L token parser.wordsInCapitals) := by
  simp only [openParen, awaitedCall_wordsInCapitals, operands_wordsInCapitals, List.length_map]
  cases hcall : parser.awaitedCall with
  | none =>
    refine .ok ⟨?_, List.forall_mem_cons.mpr ⟨trivial, h.pending⟩, by simp, h.field⟩
    simp only [wordsInCapitals, hcall]
    rfl
  | some call =>
    simp only [Option.map_some, Token.findFunction_wordInCapitals]
    split
    · exact recased_errorAt _ _
    · refine .ok ⟨rfl, List.forall_mem_cons.mpr ⟨h.call call hcall, h.pending⟩, by simp, h.field⟩

theorem comma_recased (h : parser.Sound) (token : Token) :
    Recased (comma L token parser) (comma L token parser.wordsInCapitals) := by
  refine (settle_recased h _).bind ?_
  rintro settled _ ⟨rfl, hsettled⟩
  simp only [pending_wordsInCapitals]
  cases hpending : settled.pending with
  | nil =>
    simp only [List.map_nil]
    exact recased_error _
  | cons entry rest =>
    obtain ⟨hentry, hrest⟩ := List.forall_mem_cons.mp (hpending ▸ hsettled.pending)
    cases entry with
    | call call function base slot commas =>
      simp only [List.map_cons, Pending.wordsInCapitals, operands_wordsInCapitals, List.length_map]
      split
      · exact recased_errorAt _ _
      · exact .ok ⟨rfl, List.forall_mem_cons.mpr ⟨hentry, hrest⟩, hsettled.call, hsettled.field⟩
    | operator | group | index =>
      simp only [List.map_cons, Pending.wordsInCapitals]
      exact recased_error _

theorem closeParen_recased (h : parser.Sound) (token : Token) :
    Recased (closeParen L token parser) (closeParen L token parser.wordsInCapitals) := by
  refine (settle_recased h _).bind ?_
  rintro settled _ ⟨rfl, hsettled⟩
  simp only [pending_wordsInCapitals]
  cases hpending : settled.pending with
  | nil =>
    simp only [List.map_nil]
    exact recased_error _
  | cons entry rest =>
    obtain ⟨hentry, hrest⟩ := List.forall_mem_cons.mp (hpending ▸ hsettled.pending)
    cases entry with
    | group paren base =>
      simp only [List.map_cons, Pending.wordsInCapitals, operands_wordsInCapitals, List.length_map]
      split
      · exact .ok ⟨rfl, hrest, hsettled.call, hsettled.field⟩
      · exact recased_error _
    | call call function base slot commas =>
      simp only [List.map_cons, Pending.wordsInCapitals, operands_wordsInCapitals, List.length_map]
      split
      · exact recased_errorAt _ _
      · split
        · exact recased_errorAt _ _
        · have hbound : (call.bind (.function function)).kind ≠ .separator := hentry
          rw [← Token.wordInCapitals_bind]
          refine (pushNode_recased hbound _ _).bind ?_
          rintro operands _ rfl
          exact .ok ⟨rfl, hrest, hsettled.call, hsettled.field⟩
    | operator | index =>
      simp only [List.map_cons, Pending.wordsInCapitals]
      exact recased_error _

theorem closeBracket_recased (h : parser.Sound) (token : Token) :
    Recased (closeBracket L token parser) (closeBracket L token parser.wordsInCapitals) := by
  refine (settle_recased h _).bind ?_
  rintro settled _ ⟨rfl, hsettled⟩
  simp only [pending_wordsInCapitals]
  cases hpending : settled.pending with
  | nil =>
    simp only [List.map_nil]
    exact recased_error _
  | cons entry rest =>
    obtain ⟨hentry, hrest⟩ := List.forall_mem_cons.mp (hpending ▸ hsettled.pending)
    cases entry with
    | index bracket base =>
      simp only [List.map_cons, Pending.wordsInCapitals, operands_wordsInCapitals, List.length_map]
      split
      · exact recased_error _
      · have hnode := @pushNode_recased L (indexToken bracket) nofun settled.operands 2
        rw [Token.wordInCapitals_of_isWord _ rfl] at hnode
        refine hnode.bind ?_
        rintro operands _ rfl
        exact .ok ⟨rfl, hrest, hsettled.call, hsettled.field⟩
    | operator | group =>
      simp only [List.map_cons, Pending.wordsInCapitals]
      exact recased_error _
    | call call =>
      simp only [List.map_cons, Pending.wordsInCapitals]
      exact recased_errorAt _ _

theorem openBracket_recased (h : parser.Sound) (token : Token) :
    Recased (openBracket L token parser) (openBracket L token parser.wordsInCapitals) := by
  refine (settle_recased h _).bind ?_
  rintro settled _ ⟨rfl, hsettled⟩
  simp only [operands_wordsInCapitals, List.length_map]
  exact .ok ⟨rfl, List.forall_mem_cons.mpr ⟨trivial, hsettled.pending⟩, hsettled.call,
    hsettled.field⟩

/-- The name of the field is not written in capitals. -/
theorem accessField_recased (h : parser.Sound) {separator : Token}
    (hkind : separator.kind = .separator) (field : Token) :
    Recased (accessField L separator field parser)
      (accessField L separator field parser.wordsInCapitals) := by
  have hfloor : parser.wordsInCapitals.floor = parser.floor := rfl
  simp only [accessField, operands_wordsInCapitals, List.length_map, hfloor]
  split
  · exact recased_error _
  · rename_i hsome
    have hnode : (Operand.node separator
        (topOperands parser.operands 1 ++ [Operand.leaf field])).wordsInCapitals =
        Operand.node separator (topOperands (parser.operands.map Operand.wordsInCapitals) 1 ++
          [Operand.leaf field]) := by
      cases hoperands : parser.operands with
      | nil => simp [hoperands] at hsome
      | cons base rest => exact Operand.eq_of_tree (Tree.wordsInCapitals_field hkind _ _)
    rw [← hnode, ← List.map_drop]
    refine (pushOperand_recased _ _).bind ?_
    rintro operands _ rfl
    exact .ok ⟨rfl, h.pending, h.call, by simp⟩

theorem resolve_recased (token : Token) :
    Related SameFault Eq (resolve L token) (resolve L token.wordInCapitals) := by
  simp only [resolve, Token.wordInCapitals_kind, Token.findOperator_wordInCapitals]
  split
  · exact .ok rfl
  · exact .error (sameFault_errorAt _ _)

/-! ## Reading tokens -/

/-- The token is written in capitals, unless it names the field that a separator waits for. -/
theorem take_recased (h : parser.Sound) (hfree : parser.awaitedField = none) (token : Token) :
    Recased (take L token parser) (take L token.wordInCapitals parser.wordsInCapitals) := by
  have hleaf : Recased (.ok { parser with operands := Operand.leaf token :: parser.operands })
      (.ok { parser.wordsInCapitals with
        operands := Operand.leaf token.wordInCapitals :: parser.wordsInCapitals.operands }) := by
    rw [← Operand.wordsInCapitals_leaf]
    exact .ok ⟨rfl, h.pending, h.call, h.field⟩
  have hoperator : token.kind ≠ .separator →
      Recased (resolve L token >>= fun operator => pushOperator L token operator parser)
        (resolve L token.wordInCapitals >>= fun operator =>
          pushOperator L token.wordInCapitals operator parser.wordsInCapitals) := by
    intro hkind
    refine (resolve_recased token).bind ?_
    rintro operator _ rfl
    exact pushOperator_recased h hkind operator
  simp only [take, Token.wordInCapitals_kind]
  cases hkind : token.kind with
  | number | text => exact hleaf
  | name =>
    have hfree' : parser.wordsInCapitals.awaitedField = none := hfree
    simpa only [hfree, hfree'] using hleaf
  | function =>
    refine .ok ⟨rfl, h.pending, ?_, h.field⟩
    rintro _ ⟨⟩
    simp [hkind]
  | parenOpen =>
    rw [Token.wordInCapitals_of_isWord _ (by rw [hkind]; rfl)]
    exact openParen_recased h token
  | parenClose =>
    rw [Token.wordInCapitals_of_isWord _ (by rw [hkind]; rfl)]
    exact closeParen_recased h token
  | comma =>
    rw [Token.wordInCapitals_of_isWord _ (by rw [hkind]; rfl)]
    exact comma_recased h token
  | prefixOperator =>
    refine (resolve_recased token).bind ?_
    rintro operator _ rfl
    refine .ok ⟨rfl, List.forall_mem_cons.mpr ⟨?_, h.pending⟩, h.call, h.field⟩
    simp [Pending.Named, hkind]
  | infixOperator | postfixOperator => exact hoperator (by simp [hkind])
  | arrayOpen =>
    rw [Token.wordInCapitals_of_isWord _ (by rw [hkind]; rfl)]
    exact openBracket_recased h token
  | arrayClose =>
    rw [Token.wordInCapitals_of_isWord _ (by rw [hkind]; rfl)]
    exact closeBracket_recased h token
  | separator =>
    rw [Token.wordInCapitals_of_isWord _ (by rw [hkind]; rfl)]
    refine (settle_recased h _).bind ?_
    rintro settled _ ⟨rfl, hsettled⟩
    refine .ok ⟨rfl, hsettled.pending, hsettled.call, ?_⟩
    rintro _ ⟨⟩
    exact hkind
  | arrayIndex => exact recased_errorAt _ _

/-- The name of a field is read as it is. -/
theorem take_field_recased (h : parser.Sound) (hwaits : parser.awaitedField.isSome = true)
    (hkind : token.kind = .name) :
    Recased (take L token parser) (take L token parser.wordsInCapitals) := by
  obtain ⟨separator, hfield⟩ := Option.isSome_iff_exists.mp hwaits
  have hfield' : parser.wordsInCapitals.awaitedField = some separator := hfield
  simp only [take, hkind, hfield, hfield']
  exact accessField_recased h (h.field separator hfield) token

theorem join_recased (h : parser.Sound) (token : Token) :
    Recased (join L token parser) (join L token.wordInCapitals parser.wordsInCapitals) := by
  have hfield : parser.wordsInCapitals.awaitedField = parser.awaitedField := rfl
  simp only [join, Token.wordInCapitals_kind, hfield]
  split
  · exact joinAdjacent_recased h token
  · exact .ok ⟨rfl, h⟩

/-- Reading a token, in capitals if it is a word. -/
theorem step_recased {M : Language} (h : parser.Sound)
    (hwaits : parser.awaitedField.isSome = true ↔ parser.previous = some .separator)
    (hfits : Token.Fits M parser.previous token) :
    Recased (step L parser token)
      (step L parser.wordsInCapitals
        (if token.isWord parser.previous then token.capitals else token)) := by
  have hprevious : ∀ {taken taken' : Parser}, Recases taken taken' →
      Recased (.ok { taken with previous := some token.kind })
        (.ok { taken' with previous := some token.kind }) := by
    rintro taken _ ⟨rfl, htaken⟩
    exact .ok ⟨rfl, htaken.pending, htaken.call, htaken.field⟩
  by_cases hseparator : parser.previous = some .separator
  · have hsome := hwaits.mpr hseparator
    have hsome' : parser.wordsInCapitals.awaitedField.isSome = true := hsome
    have hname := hfits.afterSeparator hseparator
    have hplain : (if token.isWord parser.previous then token.capitals else token) = token :=
      if_neg (by simp [Token.isWord, hseparator])
    have hjoin : ∀ {other : Parser}, other.awaitedField.isSome = true →
        join L token other = .ok other := by
      intro other hother
      obtain ⟨separator, hfield⟩ := Option.isSome_iff_exists.mp hother
      simp [join, hfield]
    rw [hplain, step_eq, step_eq, hjoin hsome, hjoin hsome']
    exact (take_field_recased h hsome hname).bind fun _ _ => hprevious
  · have hfree : parser.awaitedField = none :=
      Option.not_isSome_iff_eq_none.mp (mt hwaits.mp hseparator)
    have hword : (if token.isWord parser.previous then token.capitals else token) =
        token.wordInCapitals := by
      simp [Token.isWord, hseparator, Token.wordInCapitals]
    rw [hword, step_eq, step_eq, Token.wordInCapitals_kind]
    refine ((join_recased h token).and_yields (join_awaitedField token parser)).bind ?_
    rintro joined _ ⟨⟨rfl, hjoined⟩, hfield⟩
    exact (take_recased hjoined (hfield.trans hfree) token).bind fun _ _ => hprevious

/-- A separator that was read waits for its field. -/
theorem awaitedField_of_step {next : Parser} (h : step L parser token = .ok next)
    (hseparator : next.previous = some .separator) : next.awaitedField.isSome = true := by
  rw [step_eq] at h
  obtain ⟨joined, _, h⟩ := ok_of_bind h
  obtain ⟨taken, htake, h⟩ := ok_of_bind h
  cases h
  simp only [awaitedField_of_take htake, Option.some.inj hseparator]
  rfl

/-- All tokens are read in the same way, with their words in capitals. -/
theorem foldlM_recased {M : Language} {previous : Option TokenKind} {tokens : List Token}
    (hstream : Token.Stream M previous tokens) {parser : Parser} (h : parser.Sound)
    (hprevious : parser.previous = previous)
    (hwaits : parser.awaitedField.isSome = true ↔ parser.previous = some .separator) :
    Recased (tokens.foldlM (step L) parser)
      ((Token.wordsInCapitals previous tokens).foldlM (step L) parser.wordsInCapitals) := by
  induction hstream generalizing parser with
  | nil => exact .ok ⟨rfl, h⟩
  | @cons previous token rest hfits _ ih =>
    subst hprevious
    rw [Token.wordsInCapitals, List.foldlM_cons, List.foldlM_cons]
    have hstep := @step_recased L parser token M h hwaits hfits
    refine (hstep.and_yields fun next hnext => hnext).bind ?_
    rintro next _ ⟨⟨rfl, hsound⟩, hnext⟩
    obtain ⟨hkeeps, hkind⟩ := step_waits hwaits.mp hfits hnext
    exact ih hsound hkind ⟨hkeeps, awaitedField_of_step hnext⟩

theorem sameFault_openFrameError (entry : Pending) :
    SameFault (openFrameError entry) (openFrameError entry.wordsInCapitals) := by
  cases entry with
  | operator token sign => exact sameFault_errorAt token _
  | group token base => rfl
  | call token => exact sameFault_errorAt token _
  | index token base => rfl

theorem finish_recased (h : parser.Sound) (endPosition : Nat) :
    Related SameFault (fun tree tree' => tree' = tree.wordsInCapitals)
      (finish L endPosition parser) (finish L endPosition parser.wordsInCapitals) := by
  have hawaited : parser.wordsInCapitals.awaitedCall.or parser.wordsInCapitals.awaitedField =
      (parser.awaitedCall.or parser.awaitedField).map Token.wordInCapitals := by
    have hfield : parser.wordsInCapitals.awaitedField = parser.awaitedField := rfl
    rw [awaitedCall_wordsInCapitals, hfield]
    cases parser.awaitedCall with
    | some call => rfl
    | none =>
      cases hseparator : parser.awaitedField with
      | none => rfl
      | some separator =>
        have hplain := separator.wordInCapitals_of_isWord (by rw [h.field _ hseparator]; rfl)
        simp [hplain]
  simp only [finish, hawaited]
  cases hnone : parser.awaitedCall.or parser.awaitedField with
  | some token =>
    refine .error ?_
    simp [SameFault, ParseError.capitals, Token.capitals_wordInCapitals]
  | none =>
    refine (settle_recased h _).bind ?_
    rintro settled _ ⟨rfl, hsettled⟩
    simp only [pending_wordsInCapitals, operands_wordsInCapitals, ← List.map_reverse]
    cases settled.pending with
    | cons entry rest => exact .error (sameFault_openFrameError entry)
    | nil =>
      simp only [List.map_nil]
      cases settled.operands.reverse with
      | nil => exact .error rfl
      | cons operand others =>
        cases others with
        | nil => exact .ok rfl
        | cons extra others =>
          have hextra : extra.wordsInCapitals.tree.token = extra.tree.token.wordInCapitals :=
            extra.tree.token_wordsInCapitals
          simp only [List.map_cons, hextra]
          exact .error (sameFault_errorAt _ _)

end Parser

namespace Tree

variable {L : Language}

theorem endPosition_wordsInCapitals (previous : Option TokenKind) (tokens : List Token) :
    endPosition (Token.wordsInCapitals previous tokens) = endPosition tokens := by
  induction tokens generalizing previous with
  | nil => rfl
  | cons token rest ih =>
    cases rest with
    | nil =>
      have hlength := Text.length_capitals token.lexeme
      simp only [Token.wordsInCapitals, endPosition, List.getLast?_singleton]
      split
      · simp only [Token.endPosition, Token.capitals, hlength]
      · rfl
    | cons next rest => exact ih (some token.kind)

theorem ofTokens_recased {M : Language} {tokens : List Token}
    (hstream : Token.Stream M none tokens) :
    Related Parser.SameFault (fun tree tree' => tree' = tree.wordsInCapitals)
      (ofTokens L tokens) (ofTokens L (Token.wordsInCapitals none tokens)) := by
  have hstart : Parser.start.Sound := by
    constructor <;> simp [Parser.start]
  have hfold := @Parser.foldlM_recased L M none tokens hstream Parser.start hstart rfl (by
    simp [Parser.start])
  unfold ofTokens
  rw [endPosition_wordsInCapitals]
  refine hfold.bind ?_
  rintro parser _ ⟨rfl, hparser⟩
  exact Parser.finish_recased hparser _

/-- Texts that differ in the letter case of words have the same tree, up to its words, or the same
    error. -/
theorem parse_recased {text text' : String} (h : Token.Recasing L text text') :
    mapBoth ParseError.capitals wordsInCapitals (parse L text') =
      mapBoth ParseError.capitals wordsInCapitals (parse L text) := by
  have hscan := @Token.scan_capitals L text'
  rw [h.letters, Token.scan_capitals] at hscan
  unfold parse
  cases htokens : Token.scan L text with
  | error error =>
    cases htokens' : Token.scan L text' with
    | error error' =>
      rw [htokens, htokens'] at hscan
      exact congrArg Except.error (Except.error.inj hscan).symm
    | ok tokens' =>
      rw [htokens, htokens'] at hscan
      cases hscan
  | ok tokens =>
    cases htokens' : Token.scan L text' with
    | error error' =>
      rw [htokens, htokens'] at hscan
      cases hscan
    | ok tokens' =>
      have hparsed := @ofTokens_recased L L tokens (Token.scan_stream htokens)
      have hparsed' := @ofTokens_recased L L tokens' (Token.scan_stream htokens')
      rw [Token.wordsInCapitals_of_recasing h htokens htokens'] at hparsed'
      exact hparsed'.mapBoth_eq.trans hparsed.mapBoth_eq.symm

end Tree
end Formula

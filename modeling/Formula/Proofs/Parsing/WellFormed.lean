-- SUMMARY: Every node of a parsed tree has the operands that its kind asks for, and operators and functions are bound.
import Formula.Proofs.Parsing.Shape

/-!
# Well-formed trees

The kind of a token decides how many operands its node has, and which tokens are bound to what
(`Tree.HasForm`). Parsed trees are well formed, whatever the operators and functions of the language.
-/

namespace Formula
namespace Tree

/-- The node has the operands that its kind asks for. An operator is bound to one of its own place
    and a function to one that accepts the number of operands. -/
def HasForm : Tree → Prop
  | node token children =>
    match token.kind with
    | .number | .text | .name => children = []
    | .prefixOperator =>
      (∃ operator, token.binding = some (.operator operator) ∧ operator.rule.fixity = .before) ∧
        children.length = 1
    | .postfixOperator =>
      (∃ operator, token.binding = some (.operator operator) ∧ operator.rule.fixity = .after) ∧
        children.length = 1
    | .infixOperator =>
      (∃ operator, token.binding = some (.operator operator) ∧ operator.rule.fixity = .between) ∧
        children.length = 2
    | .function =>
      ∃ function, token.binding = some (.function function) ∧
        function.signature.accepts children.length = true
    | .arrayIndex => children.length = 2
    | .separator => ∃ base field, children = [base, leaf field] ∧ field.kind = .name
    | .arrayOpen | .arrayClose | .parenOpen | .parenClose | .comma => False

/-- All nodes have the form that their kind asks for. -/
def WellFormed (tree : Tree) : Prop := ∀ s ∈ tree.preorder, s.HasForm

/-- All numbers of the tree have values. -/
def Readable (tree : Tree) : Prop := ∀ s ∈ tree.preorder, s.token.Readable

theorem hasForm_leaf {token : Token}
    (h : token.kind = .number ∨ token.kind = .text ∨ token.kind = .name) :
    (leaf token).HasForm := by
  rcases h with h | h | h <;> simp [leaf, HasForm, h]

/-- The parser makes nodes that have the form of their kind. -/
theorem inductive_wellFormed (L : Language) : Parser.Inductive L WellFormed := by
  refine .of_nodes ?leaf ?operator ?call ?index ?field
  case leaf =>
    intro token hkind _
    exact hasForm_leaf hkind
  case operator =>
    intro fixity sign operands hcount
    have hbound : ∃ operator, sign.bound.binding = some (.operator operator) ∧
        operator.rule.fixity = fixity := ⟨sign.operator, rfl, sign.fixity_eq⟩
    cases fixity with
    | before | after | between =>
      simp only [HasForm, sign.bound_kind, Fixity.tokenKind]
      exact ⟨hbound, hcount⟩
  case call =>
    intro callee arguments haccepted
    simp only [HasForm, callee.bound_kind]
    exact ⟨callee.function, rfl, haccepted⟩
  case index =>
    intro bracket array index
    simp [HasForm, Parser.indexToken]
  case field =>
    intro separator field base hseparator hfield
    simp only [HasForm, hseparator]
    exact ⟨⟨base, field, rfl, hfield⟩, hasForm_leaf (.inr (.inr hfield))⟩

/-- Numbers come from the text. -/
theorem inductive_readable (L : Language) : Parser.Inductive L Readable Token.Readable := by
  refine .of_nodes (fun _ _ htoken => htoken) (fun sign _ _ => .of_fixity sign.bound_kind)
    (fun callee _ _ => .of_ne ?call) (fun _ _ _ => .of_ne nofun) ?field
  case call =>
    simp [Tree.token]
  case field =>
    intro separator field base hseparator hfield
    exact ⟨.of_ne (by simp [Tree.token, hseparator]), .of_ne (by simp [leaf, Tree.token, hfield])⟩

variable {L : Language} {text : String} {tree : Tree}

theorem wellFormed_of_parse (h : parse L text = .ok tree) : tree.WellFormed :=
  forall_of_parse (inductive_wellFormed L) h

theorem readable_of_parse (h : parse L text = .ok tree) : tree.Readable :=
  forall_of_scan (inductive_readable L) (fun _ htokens => Token.scan_readable htokens) h

end Tree
end Formula

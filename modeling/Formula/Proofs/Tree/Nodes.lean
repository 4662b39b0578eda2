-- SUMMARY: The nodes of a tree: induction over them, their depths, and the order in which a formula writes their tokens.
import Formula.Tree.Basic

/-!
# Nodes of trees

The nodes of a tree are the trees in its preorder. A formula writes them in another order, that of
`Tree.inorder`: there a node stands between its operands, or before or behind them. In both orders
the nodes of a smaller tree stand together.
-/

namespace Formula
namespace Tree

/-! ## Induction -/

/-- What passes from all children to their parent holds of all trees. -/
theorem induction {P : Tree → Prop}
    (node : ∀ token children, (∀ child ∈ children, P child) → P (.node token children)) :
    ∀ tree, P tree
  | .node token children => node token children fun child _ => induction node child

/-! ## Nodes -/

theorem preorder_node (token : Token) (children : List Tree) :
    preorder (.node token children) = .node token children :: preorderAll children := by
  simp only [preorder]

theorem mem_preorder_self (tree : Tree) : tree ∈ tree.preorder := by
  obtain ⟨token, children⟩ := tree
  rw [preorder_node]
  exact List.mem_cons_self

theorem mem_preorderAll {s : Tree} {trees : List Tree} :
    s ∈ preorderAll trees ↔ ∃ tree ∈ trees, s ∈ tree.preorder := by
  induction trees with
  | nil => simp [preorderAll]
  | cons first rest ih => simp [preorderAll, ih]

theorem mem_preorder_node {s : Tree} {token : Token} {children : List Tree} :
    s ∈ (node token children).preorder ↔
      s = .node token children ∨ ∃ child ∈ children, s ∈ child.preorder := by
  rw [preorder_node, List.mem_cons, mem_preorderAll]

/-- A node of a node is a node of the tree. -/
theorem mem_preorder_trans {s u tree : Tree} (hu : u ∈ s.preorder) (hs : s ∈ tree.preorder) :
    u ∈ tree.preorder := by
  induction tree using induction with
  | node token children ih =>
    rcases mem_preorder_node.mp hs with rfl | ⟨child, hchild, hs⟩
    · exact hu
    · exact mem_preorder_node.mpr (.inr ⟨child, hchild, ih child hchild hs⟩)

/-! ## Depth -/

theorem depth_le_depthAll {tree : Tree} {trees : List Tree} (h : tree ∈ trees) :
    tree.depth ≤ depthAll trees := by
  induction trees with
  | nil => cases h
  | cons first rest ih =>
    simp only [depthAll]
    rcases List.mem_cons.mp h with rfl | hrest
    · exact Nat.le_max_left _ _
    · exact Nat.le_trans (ih hrest) (Nat.le_max_right _ _)

theorem depthAll_append (xs ys : List Tree) :
    depthAll (xs ++ ys) = max (depthAll xs) (depthAll ys) := by
  induction xs with
  | nil => simp [depthAll]
  | cons first rest ih => simp only [List.cons_append, depthAll, ih, Nat.max_assoc]

theorem depth_lt_depth_node {tree : Tree} {token : Token} {trees : List Tree} (h : tree ∈ trees) :
    tree.depth < (node token trees).depth := by
  have := depth_le_depthAll h
  simp only [depth]
  omega

/-! ## Reading in order -/

mutual

/-- The tokens of a tree in the order in which a formula has them. -/
def inorder : Tree → List Token
  | node token children =>
    match token.kind, children with
    | .postfixOperator, children => inorderAll children ++ [token]
    | .infixOperator, left :: rest => inorder left ++ token :: inorderAll rest
    | .arrayIndex, array :: rest => inorder array ++ token :: inorderAll rest
    | .separator, base :: rest => inorder base ++ token :: inorderAll rest
    | _, children => token :: inorderAll children

def inorderAll : List Tree → List Token
  | [] => []
  | tree :: rest => inorder tree ++ inorderAll rest

end

theorem inorderAll_append (xs ys : List Tree) :
    inorderAll (xs ++ ys) = inorderAll xs ++ inorderAll ys := by
  induction xs with
  | nil => rfl
  | cons x xs ih => simp only [List.cons_append, inorderAll, ih, List.append_assoc]

/-- The token of a node stands between some of its children and the others. -/
theorem inorder_node (token : Token) (children : List Tree) :
    ∃ before behind, children = before ++ behind ∧
      inorder (.node token children) = inorderAll before ++ token :: inorderAll behind := by
  unfold inorder
  split
  · exact ⟨_, [], (List.append_nil _).symm, rfl⟩
  · exact ⟨[_], _, rfl, by simp [inorderAll]⟩
  · exact ⟨[_], _, rfl, by simp [inorderAll]⟩
  · exact ⟨[_], _, rfl, by simp [inorderAll]⟩
  · exact ⟨[], _, rfl, rfl⟩

theorem inorder_within_all {child : Tree} {trees : List Tree} (h : child ∈ trees) :
    child.inorder <:+: inorderAll trees := by
  obtain ⟨before, behind, rfl⟩ := List.append_of_mem h
  refine ⟨inorderAll before, inorderAll behind, ?_⟩
  rw [inorderAll_append, inorderAll, List.append_assoc]

theorem inorder_within_node {child : Tree} {token : Token} {children : List Tree}
    (h : child ∈ children) : child.inorder <:+: inorder (.node token children) := by
  obtain ⟨before, behind, rfl, horder⟩ := inorder_node token children
  rw [horder]
  rcases List.mem_append.mp h with h | h
  · exact (inorder_within_all h).trans (List.prefix_append _ _).isInfix
  · exact ((inorder_within_all h).trans (List.suffix_cons _ _).isInfix).trans
      (List.suffix_append _ _).isInfix

/-- The tokens of a node stand together. -/
theorem inorder_within {s tree : Tree} (h : s ∈ tree.preorder) : s.inorder <:+: tree.inorder := by
  induction tree using induction with
  | node token children ih =>
    rcases mem_preorder_node.mp h with rfl | ⟨child, hchild, hs⟩
    · exact List.infix_refl _
    · exact (ih child hchild hs).trans (inorder_within_node hchild)

theorem token_mem_inorder {s tree : Tree} (h : s ∈ tree.preorder) : s.token ∈ tree.inorder := by
  obtain ⟨token, children⟩ := s
  obtain ⟨before, behind, _, horder⟩ := inorder_node token children
  apply (inorder_within h).subset
  rw [horder]
  exact List.mem_append_right _ List.mem_cons_self

end Tree
end Formula

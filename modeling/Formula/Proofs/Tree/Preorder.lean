-- SUMMARY: A walk visits each place of a tree once, in preorder, and the height that an operand carries is that of its tree.
import Formula.Proofs.Tree.Nodes
import Formula.Tree.Parser

/-!
# Walks in preorder

What a walk has still to visit are the preorders of the trees that wait, from the last one to the
first (`Walk.ahead`). A step takes the first node off it (`Walk.next_ahead`): the children of that
node wait in reverse, so the preorder of the first of them is next. Every later step follows from
this one, and so does the end of the walk (`Walk.next_after`).

Equal trees may be at several places of a tree, and then the walk visits them at each. So a place is
told by its path, the child indexes that lead to it. `paths` has the places in the order of the
walk, which is the lexicographic one.
-/

namespace Formula
namespace Tree

/-! ## Walks -/

theorem preorderAll_append (xs ys : List Tree) :
    preorderAll (xs ++ ys) = preorderAll xs ++ preorderAll ys := by
  induction xs with
  | nil => rfl
  | cons x xs ih => simp only [List.cons_append, preorderAll, ih, List.append_assoc]

namespace Walk

/-- What a walk has still to visit. -/
def ahead (walk : Walk) : List Tree := preorderAll walk.waiting.toList.reverse

theorem ahead_push (waiting : Array Tree) (tree : Tree) :
    ahead ⟨waiting.push tree⟩ = tree.preorder ++ ahead ⟨waiting⟩ := by
  simp only [ahead, Array.toList_push, List.reverse_append, List.reverse_singleton,
    List.singleton_append, preorderAll]

theorem ahead_reverse (waiting : Array Tree) (trees : List Tree) :
    ahead ⟨waiting ++ trees.reverse⟩ = preorderAll trees ++ ahead ⟨waiting⟩ := by
  simp only [ahead, Array.toList_appendList, List.reverse_append, List.reverse_reverse,
    preorderAll_append]

/-- A step visits the first node ahead, if there is one, and leaves the others ahead. -/
theorem next_ahead (walk : Walk) :
    walk.next.1 = walk.ahead.head? ∧ walk.next.2.ahead = walk.ahead.tail := by
  rcases walk.next_cases with ⟨rfl, hnext⟩ | ⟨waiting, ⟨token, children⟩, rfl, hnext⟩
  · rw [hnext]
    exact ⟨rfl, rfl⟩
  · rw [hnext, ahead_push, preorder_node]
    exact ⟨rfl, ahead_reverse waiting children⟩

/-- The walk after a number of steps. -/
def after (walk : Walk) : Nat → Walk
  | 0 => walk
  | steps + 1 => walk.next.2.after steps

theorem ahead_after (walk : Walk) (steps : Nat) :
    (walk.after steps).ahead = walk.ahead.drop steps := by
  induction steps generalizing walk with
  | zero => rfl
  | succ steps ih => rw [after, ih, walk.next_ahead.2, List.drop_tail]

theorem next_after (walk : Walk) (steps : Nat) :
    (walk.after steps).next.1 = walk.ahead[steps]? := by
  rw [(next_ahead _).1, ahead_after, List.head?_drop]

theorem toList_eq_ahead (walk : Walk) : walk.toList = walk.ahead := by
  fun_induction toList walk with
  | case1 walk _ hnext =>
    obtain ⟨hfirst, -⟩ := walk.next_ahead
    rw [hnext] at hfirst
    exact (List.head?_eq_none_iff.mp hfirst.symm).symm
  | case2 walk tree rest hnext ih =>
    obtain ⟨hfirst, hrest⟩ := walk.next_ahead
    rw [hnext] at hfirst hrest
    obtain ⟨others, hahead⟩ := List.head?_eq_some_iff.mp hfirst.symm
    rw [ih, hrest, hahead, List.tail_cons]

end Walk

theorem ahead_walk (tree : Tree) : tree.walk.ahead = tree.preorder := by
  rw [walk, ← List.append_nil tree.preorder]
  exact Walk.ahead_push #[] tree

theorem length_preorderAll {trees : List Tree}
    (h : ∀ tree ∈ trees, tree.preorder.length = tree.size) :
    (preorderAll trees).length = sizeAll trees := by
  induction trees with
  | nil => rfl
  | cons first rest ih =>
    obtain ⟨hfirst, hrest⟩ := List.forall_mem_cons.mp h
    rw [preorderAll, List.length_append, hfirst, ih hrest, sizeAll]

theorem length_preorder (tree : Tree) : tree.preorder.length = tree.size := by
  induction tree using induction with
  | node token children ih =>
    rw [preorder_node, List.length_cons, length_preorderAll ih, size, Nat.add_comm]

/-! ## Places -/

mutual

/-- The paths to all places of a tree, in preorder. -/
def paths : Tree → List (List Nat)
  | node _ children => [] :: pathsFrom 0 children

/-- The paths into the children from the one with the given index on. -/
def pathsFrom : Nat → List Tree → List (List Nat)
  | _, [] => []
  | index, tree :: rest => (paths tree).map (index :: ·) ++ pathsFrom (index + 1) rest

end

theorem paths_node (token : Token) (children : List Tree) :
    paths (.node token children) = [] :: pathsFrom 0 children := by
  rw [paths]

theorem at?_node_eq_some_iff {token : Token} {children : List Tree} {index : Nat} {path : List Nat}
    {s : Tree} :
    (node token children).at? (index :: path) = some s ↔
      ∃ child, children[index]? = some child ∧ child.at? path = some s := by
  rw [at?, Tree.children]
  cases children[index]? with
  | none => simp
  | some child => simp

theorem mem_pathsFrom {trees : List Tree} {first : Nat} {path : List Nat} :
    path ∈ pathsFrom first trees ↔
      ∃ index tree below, trees[index]? = some tree ∧ below ∈ tree.paths ∧
        path = (first + index) :: below := by
  induction trees generalizing first with
  | nil => simp [pathsFrom]
  | cons tree rest ih =>
    rw [pathsFrom, List.mem_append, List.mem_map, ih]
    constructor
    · rintro (⟨below, hbelow, rfl⟩ | ⟨index, child, below, hchild, hbelow, rfl⟩)
      · exact ⟨0, tree, below, rfl, hbelow, rfl⟩
      · refine ⟨index + 1, child, below, hchild, hbelow, ?_⟩
        rw [Nat.add_right_comm, Nat.add_assoc]
    · rintro ⟨index, child, below, hchild, hbelow, rfl⟩
      cases index with
      | zero =>
        cases hchild
        exact .inl ⟨below, hbelow, rfl⟩
      | succ index =>
        refine .inr ⟨index, child, below, hchild, hbelow, ?_⟩
        rw [Nat.add_right_comm, Nat.add_assoc]

theorem mem_paths_node {token : Token} {children : List Tree} {path : List Nat} :
    path ∈ (node token children).paths ↔
      path = [] ∨ ∃ index child below, children[index]? = some child ∧ below ∈ child.paths ∧
        path = index :: below := by
  simp only [paths_node, List.mem_cons, mem_pathsFrom, Nat.zero_add]

theorem mem_paths_iff {tree : Tree} {path : List Nat} :
    path ∈ tree.paths ↔ ∃ s, tree.at? path = some s := by
  induction tree using induction generalizing path with
  | node token children ih =>
    rw [mem_paths_node]
    constructor
    · rintro (rfl | ⟨index, child, below, hchild, hbelow, rfl⟩)
      · exact ⟨.node token children, by rw [at?]⟩
      · obtain ⟨s, hs⟩ := (ih child (List.mem_of_getElem? hchild)).mp hbelow
        exact ⟨s, at?_node_eq_some_iff.mpr ⟨child, hchild, hs⟩⟩
    · rintro ⟨s, hs⟩
      cases path with
      | nil => exact .inl rfl
      | cons index below =>
        obtain ⟨child, hchild, hs⟩ := at?_node_eq_some_iff.mp hs
        have hbelow := (ih child (List.mem_of_getElem? hchild)).mpr ⟨s, hs⟩
        exact .inr ⟨index, child, below, hchild, hbelow, rfl⟩

/-- The paths are in lexicographic order, so there are no two that are the same. -/
theorem pairwise_pathsFrom {trees : List Tree} (first : Nat)
    (h : ∀ tree ∈ trees, tree.paths.Pairwise (List.Lex (· < ·))) :
    (pathsFrom first trees).Pairwise (List.Lex (· < ·)) := by
  induction trees generalizing first with
  | nil => exact .nil
  | cons tree rest ih =>
    obtain ⟨htree, hrest⟩ := List.forall_mem_cons.mp h
    rw [pathsFrom, List.pairwise_append, List.pairwise_map]
    refine ⟨htree.imp .cons, ih (first + 1) hrest, fun path hpath later hlater => ?_⟩
    obtain ⟨below, -, rfl⟩ := List.mem_map.mp hpath
    obtain ⟨index, _, _, -, -, rfl⟩ := mem_pathsFrom.mp hlater
    exact .rel (by omega)

theorem pairwise_paths (tree : Tree) : tree.paths.Pairwise (List.Lex (· < ·)) := by
  induction tree using induction with
  | node token children ih =>
    rw [paths_node]
    refine .cons (fun path hpath => ?_) (pairwise_pathsFrom 0 ih)
    obtain ⟨_, _, _, -, -, rfl⟩ := mem_pathsFrom.mp hpath
    exact .nil

/-- Below a node, the paths into its children lead to the nodes of their preorders, also where some
    of the first children are left out. -/
theorem map_at?_pathsFrom {token : Token} {children trees : List Tree} {first : Nat}
    (hdrop : children.drop first = trees)
    (h : ∀ tree ∈ trees, tree.paths.map tree.at? = tree.preorder.map some) :
    (pathsFrom first trees).map (node token children).at? = (preorderAll trees).map some := by
  induction trees generalizing first with
  | nil => rfl
  | cons tree rest ih =>
    obtain ⟨htree, hrest⟩ := List.forall_mem_cons.mp h
    have hfirst : children[first]? = some tree := by
      rw [← List.head?_drop, hdrop, List.head?_cons]
    have hbehind : children.drop (first + 1) = rest := by
      rw [← List.tail_drop, hdrop, List.tail_cons]
    rw [pathsFrom, preorderAll, List.map_append, List.map_append, List.map_map, ← htree,
      ih hbehind hrest]
    congr 1
    refine List.map_congr_left fun path _ => ?_
    rw [Function.comp_apply, at?, Tree.children, hfirst]

/-- The nodes at the paths are the nodes in preorder. -/
theorem map_at?_paths (tree : Tree) : tree.paths.map tree.at? = tree.preorder.map some := by
  induction tree using induction with
  | node token children ih =>
    rw [paths_node, preorder_node, List.map_cons, List.map_cons,
      map_at?_pathsFrom List.drop_zero ih, at?]

/-! ## Depth -/

theorem depthAll_eq_max? (trees : List Tree) : depthAll trees = (trees.map depth).max?.getD 0 := by
  induction trees with
  | nil => rfl
  | cons tree rest ih =>
    rw [depthAll, ih, List.map_cons, List.max?_cons, Option.getD_some]
    cases (rest.map depth).max? with
    | none => exact Nat.max_zero _
    | some _ => rfl

theorem length_lt_depth {tree : Tree} {path : List Nat} (h : path ∈ tree.paths) :
    path.length < tree.depth := by
  induction tree using induction generalizing path with
  | node token children ih =>
    rw [depth]
    rcases mem_paths_node.mp h with rfl | ⟨_, child, below, hchild, hbelow, rfl⟩
    · exact Nat.lt_add_right _ Nat.one_pos
    · have hmem := List.mem_of_getElem? hchild
      have hshorter := ih child hmem hbelow
      have hdepth := depth_le_depthAll hmem
      rw [List.length_cons]
      omega

theorem exists_depth_eq_depthAll {trees : List Tree} (h : trees ≠ []) :
    ∃ tree ∈ trees, tree.depth = depthAll trees := by
  rw [depthAll_eq_max?]
  cases hmax : (trees.map depth).max? with
  | none => exact absurd (List.map_eq_nil_iff.mp (List.max?_eq_none_iff.mp hmax)) h
  | some deepest => exact List.mem_map.mp (List.max?_mem hmax)

theorem exists_longest_path (tree : Tree) :
    ∃ path ∈ tree.paths, path.length + 1 = tree.depth := by
  induction tree using induction with
  | node token children ih =>
    rw [depth]
    by_cases hleaf : children = []
    · rw [hleaf]
      exact ⟨[], mem_paths_node.mpr (.inl rfl), rfl⟩
    · obtain ⟨child, hmem, hdepth⟩ := exists_depth_eq_depthAll hleaf
      obtain ⟨index, hchild⟩ := List.mem_iff_getElem?.mp hmem
      obtain ⟨below, hbelow, hlength⟩ := ih child hmem
      refine ⟨index :: below, ?_, ?_⟩
      · exact mem_paths_node.mpr (.inr ⟨index, child, below, hchild, hbelow, rfl⟩)
      · rw [List.length_cons, hlength, hdepth, Nat.add_comm]

end Tree

/-- The height that is worked out from heights is the one that the depths of the trees give. -/
theorem Operand.height_node (token : Token) (operands : List Operand) :
    (Operand.node token operands).height = 1 + (operands.map (·.height)).max?.getD 0 := by
  have hheights : operands.map (·.height) = (operands.map (·.tree)).map Tree.depth := by
    rw [List.map_map]
    exact List.map_congr_left fun operand _ => operand.height_eq
  rw [hheights, ← Tree.depthAll_eq_max?, ← maxHeight_eq]
  rfl

namespace Tree

/-- Each step of the walk through a tree visits the next node of its preorder, until there have been
    as many steps as there are nodes. These are the nodes at the paths that lead to one, each of the
    paths once and in lexicographic order. The height that an operand carries follows from those of
    the operands below it; it is one more than the greatest depth of its children, and the length of
    the longest way down. -/
theorem walk_and_height_eq :
    (∀ tree : Tree,
      (∀ steps, (tree.walk.after steps).next.1 = tree.preorder[steps]?) ∧
      (∀ steps, (tree.walk.after steps).next.1 = none ↔ tree.size ≤ steps) ∧
      tree.descendants = tree.preorder ∧
      tree.preorder.map some = tree.paths.map tree.at? ∧
      (∀ path, path ∈ tree.paths ↔ ∃ s, tree.at? path = some s) ∧
      tree.paths.Pairwise (List.Lex (· < ·))) ∧
    (∀ (token : Token) (operands : List Operand),
      (Operand.node token operands).height = 1 + (operands.map (·.height)).max?.getD 0) ∧
    ∀ operand : Operand,
      operand.height = 1 + (operand.tree.children.map depth).max?.getD 0 ∧
      (∀ path ∈ operand.tree.paths, path.length + 1 ≤ operand.height) ∧
      ∃ path ∈ operand.tree.paths, path.length + 1 = operand.height := by
  have hstep (tree : Tree) (steps : Nat) :
      (tree.walk.after steps).next.1 = tree.preorder[steps]? := by
    rw [Walk.next_after, ahead_walk]
  refine ⟨fun tree => ⟨hstep tree, fun steps => ?_, ?_, ?_, fun _ => mem_paths_iff, ?_⟩, ?_, ?_⟩
  · rw [hstep, List.getElem?_eq_none_iff, length_preorder]
  · rw [descendants, Walk.toList_eq_ahead, ahead_walk]
  · exact (map_at?_paths tree).symm
  · exact pairwise_paths tree
  · exact Operand.height_node
  · intro operand
    rw [operand.height_eq]
    refine ⟨?_, fun _ => length_lt_depth, exists_longest_path operand.tree⟩
    obtain ⟨⟨token, children⟩⟩ := operand
    rw [depth, depthAll_eq_max?, Tree.children]

-- The leaf stands at two places, so it is visited twice.
example :
    let leaf := leaf { kind := .name, lexeme := "a", position := 0 }
    let sum := node { kind := .infixOperator, lexeme := "+", position := 1 } [leaf, leaf]
    (List.range 4).map (fun steps => (sum.walk.after steps).next.1.map (·.token.lexeme)) =
      [some "+", some "a", some "a", none] := rfl

end Tree
end Formula

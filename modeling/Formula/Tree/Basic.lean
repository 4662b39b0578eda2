-- SUMMARY: Expression trees: a token with its operands, the number of its nodes, its depth, and the walk through its nodes.
import Formula.Token.Basic

/-! # Expression trees

A tree is a token and the trees of its operands in order. `Tree.preorder` lists the nodes by
recursion; `Tree.descendants` lists them by a walk that keeps the trees still to be visited. -/

namespace Formula

inductive Tree where
  | node (token : Token) (children : List Tree)

namespace Tree

def token : Tree → Token
  | node token _ => token

def children : Tree → List Tree
  | node _ children => children

def leaf (token : Token) : Tree := node token []

/-! ## Size and depth -/

mutual

/-- The number of nodes. -/
def size : Tree → Nat
  | node _ children => 1 + sizeAll children

def sizeAll : List Tree → Nat
  | [] => 0
  | tree :: rest => size tree + sizeAll rest

end

mutual

/-- The number of nodes on the longest way down; a leaf has depth 1. -/
def depth : Tree → Nat
  | node _ children => 1 + depthAll children

/-- The depth of the deepest tree. -/
def depthAll : List Tree → Nat
  | [] => 0
  | tree :: rest => max (depth tree) (depthAll rest)

end

theorem sizeAll_append (a b : List Tree) : sizeAll (a ++ b) = sizeAll a + sizeAll b := by
  induction a with
  | nil => simp [sizeAll]
  | cons tree rest ih => simp only [List.cons_append, sizeAll, ih]; omega

theorem sizeAll_reverse (trees : List Tree) : sizeAll trees.reverse = sizeAll trees := by
  induction trees with
  | nil => rfl
  | cons tree rest ih =>
    rw [List.reverse_cons, sizeAll_append, ih]
    simp only [sizeAll]
    omega

/-! ## Order of the nodes -/

mutual

/-- A tree and all trees below it, each before its children. -/
def preorder : Tree → List Tree
  | node token children => node token children :: preorderAll children

def preorderAll : List Tree → List Tree
  | [] => []
  | tree :: rest => preorder tree ++ preorderAll rest

end

/-! ## Walks -/

/-- A walk through trees: those that are still to be visited, the next one last. -/
structure Walk where
  waiting : Array Tree

namespace Walk

/-- The next tree of a walk, and the walk from there on. The children of the tree take its place,
    and the first of them comes last. -/
def next (walk : Walk) : Option Tree × Walk :=
  match walk.waiting.back? with
  | none => (none, walk)
  | some tree => (some tree, ⟨walk.waiting.pop ++ tree.children.reverse⟩)

/-- A walk stays at its end, and otherwise visits the tree that waits last. -/
theorem next_cases (walk : Walk) :
    (walk = ⟨#[]⟩ ∧ walk.next = (none, walk)) ∨
      ∃ (waiting : Array Tree) (tree : Tree), walk = ⟨waiting.push tree⟩ ∧
        walk.next = (some tree, ⟨waiting ++ tree.children.reverse⟩) := by
  obtain ⟨waiting⟩ := walk
  cases hlast : waiting.back? with
  | none =>
    obtain rfl := Array.back?_eq_none_iff.mp hlast
    exact .inl ⟨rfl, rfl⟩
  | some tree =>
    obtain ⟨others, rfl⟩ := Array.back?_eq_some_iff.mp hlast
    refine .inr ⟨others, tree, rfl, ?_⟩
    simp only [next, hlast, Array.pop_push]

theorem sizeAll_next {walk rest : Walk} {tree : Tree} (h : walk.next = (some tree, rest)) :
    sizeAll rest.waiting.toList + 1 = sizeAll walk.waiting.toList := by
  rcases walk.next_cases with ⟨-, hnext⟩ | ⟨waiting, ⟨token, children⟩, rfl, hnext⟩
  · cases hnext.symm.trans h
  · cases hnext.symm.trans h
    simp only [Array.toList_appendList, Array.toList_push, sizeAll_append, sizeAll_reverse,
      Tree.children, sizeAll, size]
    omega

/-- The trees that a walk visits, in order. -/
def toList (walk : Walk) : List Tree :=
  match _h : walk.next with
  | (none, _) => []
  | (some tree, rest) => tree :: rest.toList
termination_by sizeAll walk.waiting.toList
decreasing_by exact Nat.lt_of_succ_le (Nat.le_of_eq (sizeAll_next _h))

end Walk

/-- The walk through a tree and all trees below it. -/
def walk (tree : Tree) : Walk := ⟨#[tree]⟩

/-- A tree and all trees below it, in the order of the walk. -/
def descendants (tree : Tree) : List Tree := tree.walk.toList

/-! ## Equality -/

mutual

/-- Whether two trees have the same shape and the same tokens. -/
def same : Tree → Tree → Bool
  | node a as, node b bs => a.same b && sameAll as bs

def sameAll : List Tree → List Tree → Bool
  | [], [] => true
  | a :: as, b :: bs => same a b && sameAll as bs
  | _, _ => false

end

/-! ## References -/

mutual

/-- The names that a tree refers to, in the order of their places. The name of a field is no
    reference. -/
def references : Tree → List String
  | node token children =>
    match token.kind, children with
    | .name, _ => [token.lexeme]
    | .separator, base :: _ => references base
    | .separator, [] => []
    | _, children => referencesAll children

def referencesAll : List Tree → List String
  | [] => []
  | tree :: rest => references tree ++ referencesAll rest

end

/-! ## Paths -/

/-- The tree below this one that a list of child indexes leads to. -/
def at? : Tree → List Nat → Option Tree
  | tree, [] => some tree
  | tree, index :: path =>
    match tree.children[index]? with
    | some child => child.at? path
    | none => none

end Tree
end Formula

-- SUMMARY: Changing the tokens of a tree, and replacing its operands by other trees.
import Formula.Proofs.Tree.Nodes

/-!
# Replacing operands

`Tree.replace` puts a tree in the place of every node whose token is chosen. The name of a field is
no operand, so it stays. `Tree.mapTokens` changes the tokens and keeps the shape.
-/

namespace Formula
namespace Tree

/-! ## Tokens -/

mutual

/-- The tree with other tokens. -/
def mapTokens (f : Token → Token) : Tree → Tree
  | node token children => node (f token) (mapTokensAll f children)

def mapTokensAll (f : Token → Token) : List Tree → List Tree
  | [] => []
  | tree :: rest => mapTokens f tree :: mapTokensAll f rest

end

theorem mapTokensAll_eq (f : Token → Token) (trees : List Tree) :
    mapTokensAll f trees = trees.map (mapTokens f) := by
  induction trees with
  | nil => rfl
  | cons first rest ih => rw [mapTokensAll, ih, List.map_cons]

theorem mapTokens_node (f : Token → Token) (token : Token) (children : List Tree) :
    mapTokens f (node token children) = node (f token) (children.map (mapTokens f)) := by
  rw [mapTokens, mapTokensAll_eq]

/-! ## Operands -/

mutual

/-- The tree with a new operand in the place of every node whose token is chosen. -/
def replace (chosen : Token → Bool) (new : Tree) : Tree → Tree
  | node token children =>
    if chosen token then new
    else
      match token.kind, children with
      | .separator, base :: fields => node token (replace chosen new base :: fields)
      | _, children => node token (replaceAll chosen new children)

def replaceAll (chosen : Token → Bool) (new : Tree) : List Tree → List Tree
  | [] => []
  | tree :: rest => replace chosen new tree :: replaceAll chosen new rest

end

section Replace

variable {chosen : Token → Bool} {new : Tree} {token : Token}

theorem replaceAll_eq (chosen : Token → Bool) (new : Tree) (trees : List Tree) :
    replaceAll chosen new trees = trees.map (replace chosen new) := by
  induction trees with
  | nil => rfl
  | cons first rest ih => rw [replaceAll, ih, List.map_cons]

theorem replace_chosen (h : chosen token = true) (children : List Tree) :
    replace chosen new (node token children) = new := by
  rw [replace.eq_def]
  simp only [h, if_true]

theorem replace_node (h : chosen token = false) (hkind : token.kind ≠ .separator)
    (children : List Tree) :
    replace chosen new (node token children) =
      node token (children.map (replace chosen new)) := by
  rw [replace.eq_def]
  simp only [h, Bool.false_eq_true, if_false]
  split
  · exact absurd (by assumption) hkind
  · rw [replaceAll_eq]

/-- The name of a field is kept. -/
theorem replace_field (h : chosen token = false) (hkind : token.kind = .separator) (base : Tree)
    (fields : List Tree) :
    replace chosen new (node token (base :: fields)) =
      node token (replace chosen new base :: fields) := by
  rw [replace.eq_def]
  simp only [h, hkind, Bool.false_eq_true, if_false]

end Replace

/-! ## Occurrences -/

mutual

/-- How many operands have a chosen token. -/
def occurrences (chosen : Token → Bool) : Tree → Nat
  | node token children =>
    (chosen token).toNat +
      match token.kind, children with
      | .separator, base :: _ => occurrences chosen base
      | _, children => occurrencesAll chosen children

def occurrencesAll (chosen : Token → Bool) : List Tree → Nat
  | [] => 0
  | tree :: rest => occurrences chosen tree + occurrencesAll chosen rest

end

section Occurrences

variable {chosen : Token → Bool} {token : Token}

theorem occurrencesAll_append (xs ys : List Tree) :
    occurrencesAll chosen (xs ++ ys) = occurrencesAll chosen xs + occurrencesAll chosen ys := by
  induction xs with
  | nil => simp [occurrencesAll]
  | cons x xs ih => simp only [List.cons_append, occurrencesAll, ih, Nat.add_assoc]

theorem occurrences_leaf (token : Token) :
    occurrences chosen (leaf token) = (chosen token).toNat := by
  simp [leaf, occurrences, occurrencesAll]

theorem occurrences_node (h : chosen token = false) (hkind : token.kind ≠ .separator)
    (children : List Tree) :
    occurrences chosen (node token children) = occurrencesAll chosen children := by
  rw [occurrences.eq_def]
  simp only [h, Bool.toNat_false, Nat.zero_add]
  split
  · exact absurd (by assumption) hkind
  · rfl

theorem occurrences_field (h : chosen token = false) (hkind : token.kind = .separator) (base : Tree)
    (fields : List Tree) :
    occurrences chosen (node token (base :: fields)) = occurrences chosen base := by
  rw [occurrences.eq_def]
  simp only [h, hkind, Bool.toNat_false, Nat.zero_add]

end Occurrences

end Tree
end Formula

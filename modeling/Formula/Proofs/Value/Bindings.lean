-- SUMMARY: Changing what the tokens in a value are bound to: none of its views sees it.
import Formula.Proofs.Tree.Replacement
import Formula.Value.Order

/-!
# Bindings in values

A value can be a tree or contain trees, and the tokens of these are bound to operators and
functions. `Value.rebind` gives them other bindings. The type, the text and all other views of a
value stay the same, as the text of a tree does not show the bindings.
-/

namespace Formula

/-- The token with another binding. -/
def Token.rebind (binding : Token → Option Binding) (token : Token) : Token :=
  { token with binding := binding token }

variable {binding : Token → Option Binding}

/-! ## Trees -/

namespace Tree

/-- The tree with other bindings. -/
def rebind (binding : Token → Option Binding) : Tree → Tree := mapTokens (Token.rebind binding)

@[simp] theorem rebind_node (token : Token) (children : List Tree) :
    (node token children).rebind binding =
      node (token.rebind binding) (children.map (rebind binding)) :=
  mapTokens_node _ token children

theorem toJsonAll_eq (trees : List Tree) : toJsonAll trees = trees.map toJson := by
  induction trees with
  | nil => rfl
  | cons tree rest ih => rw [toJsonAll, ih, List.map_cons]

theorem toJson_rebind (tree : Tree) : (tree.rebind binding).toJson = tree.toJson := by
  induction tree using induction with
  | node token children ih =>
    rw [rebind_node]
    cases children with
    | nil => rfl
    | cons child rest =>
      have hall : toJsonAll (rest.map (rebind binding)) = toJsonAll rest := by
        rw [toJsonAll_eq, toJsonAll_eq, List.map_map]
        exact List.map_congr_left fun child hchild => ih child (List.mem_cons_of_mem _ hchild)
      simp only [List.map_cons, toJson, hall, ih child List.mem_cons_self]
      rfl

@[simp] theorem text_rebind (tree : Tree) : (tree.rebind binding).text = tree.text := by
  rw [text, toJson_rebind, text]

/-- The tree without its bindings. -/
def bare (tree : Tree) : Tree := tree.rebind fun _ => none

/-- Other bindings that do not depend on those of the tree can be given without them as well. -/
theorem rebind_bare {tree : Tree}
    (h : ∀ s ∈ tree.preorder,
      (s.token.rebind fun _ => none).rebind binding = s.token.rebind binding) :
    tree.bare.rebind binding = tree.rebind binding := by
  induction tree using induction with
  | node token children ih =>
    have htoken := h _ (mem_preorder_self _)
    simp only [Tree.token] at htoken
    simp only [bare, rebind_node, List.map_map, htoken]
    refine congrArg _ (List.map_congr_left fun child hchild => ih child hchild fun s hs => ?_)
    exact h s (mem_preorder_node.mpr (.inr ⟨child, hchild, hs⟩))

theorem bare_rebind (tree : Tree) : (tree.rebind binding).bare = tree.bare := by
  induction tree using induction with
  | node token children ih =>
    simp only [bare, rebind_node, List.map_map]
    exact congrArg _ (List.map_congr_left ih)

end Tree

/-! ## Values -/

namespace Value

mutual

/-- The value with other bindings in its trees. -/
def rebind (binding : Token → Option Binding) : Value → Value
  | tree value => tree (value.rebind binding)
  | array items => array (rebindItems binding items)
  | record fields => record (rebindFields binding fields)
  | text value => text value
  | number value => number value
  | boolean value => boolean value
  | instant value => instant value
  | span value => span value
  | binary bytes => binary bytes
  | null => null

def rebindItems (binding : Token → Option Binding) : List Value → List Value
  | [] => []
  | item :: rest => rebind binding item :: rebindItems binding rest

def rebindFields (binding : Token → Option Binding) :
    List (String × Value) → List (String × Value)
  | [] => []
  | (name, value) :: rest => (name, rebind binding value) :: rebindFields binding rest

end

theorem rebindItems_eq (items : List Value) :
    rebindItems binding items = items.map (rebind binding) := by
  induction items with
  | nil => rfl
  | cons item rest ih => rw [rebindItems, ih, List.map_cons]

/-- The field of a name has other bindings as well. -/
theorem find?_rebindFields (fields : List (String × Value)) (name : String) :
    Dictionary.find? (rebindFields binding fields) name =
      (Dictionary.find? fields name).map (rebind binding) := by
  induction fields with
  | nil => rfl
  | cons field rest ih =>
    simp only [rebindFields, Dictionary.find?, ih]
    split <;> rfl

/-- The value without the bindings in its trees. -/
def bare (value : Value) : Value := value.rebind fun _ => none

mutual

theorem bare_rebind : ∀ value : Value, (value.rebind binding).bare = value.bare
  | tree value => congrArg tree value.bare_rebind
  | array items => congrArg array (bareItems_rebind items)
  | record fields => congrArg record (bareFields_rebind fields)
  | text _ | number _ | boolean _ | instant _ | span _ | binary _ | null => rfl

theorem bareItems_rebind : ∀ items : List Value,
    rebindItems (fun _ => none) (rebindItems binding items) = rebindItems (fun _ => none) items
  | [] => rfl
  | item :: rest => by
    have hitem := bare_rebind item
    rw [bare, bare] at hitem
    simp only [rebindItems, hitem, bareItems_rebind rest]

theorem bareFields_rebind : ∀ fields : List (String × Value),
    rebindFields (fun _ => none) (rebindFields binding fields) =
      rebindFields (fun _ => none) fields
  | [] => rfl
  | (name, value) :: rest => by
    have hvalue := bare_rebind value
    rw [bare, bare] at hvalue
    simp only [rebindFields, hvalue, bareFields_rebind rest]

end

/-! ## Views -/

@[simp] theorem type_rebind (value : Value) : (value.rebind binding).type = value.type := by
  cases value <;> rfl

@[simp] theorem isNull_rebind (value : Value) : (value.rebind binding).isNull = value.isNull := by
  rw [isNull, type_rebind, isNull]

mutual

theorem toText_rebind : ∀ value : Value, (value.rebind binding).toText = value.toText
  | tree value => value.text_rebind
  | array items => congrArg (fun text => "[" ++ text ++ "]") (itemsText_rebind items)
  | record fields =>
    congrArg (fun text => "\x7b" ++ text ++ "\x7d") (fieldsText_rebind fields)
  | text _ | number _ | boolean _ | instant _ | span _ | binary _ | null => rfl

theorem itemsText_rebind : ∀ items : List Value,
    itemsText (rebindItems binding items) = itemsText items
  | [] => rfl
  | [item] => toText_rebind item
  | item :: next :: rest => by
    have hrest := itemsText_rebind (next :: rest)
    simp only [rebindItems, itemsText, toText_rebind item] at hrest ⊢
    rw [hrest]

theorem fieldsText_rebind : ∀ fields : List (String × Value),
    fieldsText (rebindFields binding fields) = fieldsText fields
  | [] => rfl
  | [(name, value)] => congrArg (fun text => name ++ ": " ++ text) (toText_rebind value)
  | (name, value) :: next :: rest => by
    have hrest := fieldsText_rebind (next :: rest)
    simp only [rebindFields, fieldsText, toText_rebind value] at hrest ⊢
    rw [hrest]

end

attribute [simp] toText_rebind

@[simp] theorem toNumber_rebind (value : Value) :
    (value.rebind binding).toNumber = value.toNumber := by
  cases value <;> rfl

@[simp] theorem toBool_rebind (value : Value) : (value.rebind binding).toBool = value.toBool := by
  cases value <;> rfl

@[simp] theorem toTree?_rebind (value : Value) :
    (value.rebind binding).toTree? = value.toTree?.map (Tree.rebind binding) := by
  cases value <;> rfl

theorem toInstant_rebind (value : Value) :
    (value.rebind binding).toInstant = value.toInstant := by
  cases value <;> rfl

theorem toSpan_rebind (value : Value) : (value.rebind binding).toSpan = value.toSpan := by
  cases value <;> rfl

@[simp] theorem compare_rebind (a b : Value) :
    (a.rebind binding).compare (b.rebind binding) = a.compare b := by
  have htexts : compareText (a.rebind binding).toText (b.rebind binding).toText =
      compareText a.toText b.toText := by
    rw [toText_rebind, toText_rebind]
  cases a with
  | number value => exact congrArg value.compare b.toNumber_rebind
  | boolean value => exact congrArg (compareBool value) b.toBool_rebind
  | instant value => exact congrArg value.compare b.toInstant_rebind
  | span value => exact congrArg value.compare b.toSpan_rebind
  | null => simp only [rebind, compare, isNull_rebind]
  | text | array | record | binary | tree => exact htexts

@[simp] theorem equal_rebind (a b : Value) :
    (a.rebind binding).equal (b.rebind binding) = a.equal b := by
  rw [equal, type_rebind, type_rebind, compare_rebind, equal]

end Value
end Formula

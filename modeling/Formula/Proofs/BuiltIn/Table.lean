-- SUMMARY: A table of functions or operators has those that were added to it, each under its name, and the built-in ones have different names.
import Formula.BuiltIn.Functions
import Mathlib.Data.List.Nodup

/-!
# Tables of functions and operators

What a table finds follows from the functions that were added to it, so it is enough to look at
their list: of functions with different names each is found under its own name
(`FunctionTable.find?_extend_of_mem`), and nothing else is in the table
(`BuiltIn.mem_of_find?_functionTable`). Operators may share a name if they stand in different
places.
-/

namespace Formula

/-! ## Functions that are added -/

namespace FunctionTable

variable {table : FunctionTable} {function : LibraryFunction}
  {functions : List (String × LibraryFunction)} {name : String}

theorem forall_insert (P : LibraryFunction → Prop) (htable : ∀ entry ∈ table.entries, P entry.2)
    (hfunction : P function) (name : String) :
    ∀ entry ∈ (table.insert name function).entries, P entry.2 :=
  Dictionary.forall_insert P htable hfunction _

/-- What holds of all functions of a table and of new ones holds of all when they are added. -/
theorem forall_extend (P : LibraryFunction → Prop) (htable : ∀ entry ∈ table.entries, P entry.2)
    (hfunctions : ∀ entry ∈ functions, P entry.2) :
    ∀ entry ∈ (table.extend functions).entries, P entry.2 := by
  induction functions generalizing table with
  | nil => exact htable
  | cons entry rest ih =>
    obtain ⟨hentry, hrest⟩ := List.forall_mem_cons.mp hfunctions
    exact ih (forall_insert P htable hentry _) hrest

theorem find?_insert (table : FunctionTable) (name : String) (function : LibraryFunction)
    (other : String) : (table.insert name function).find? other =
      if Text.upper name = Text.upper other then some function else table.find? other :=
  Dictionary.find?_insert _ _ _ _

/-- Functions with other names do not change what a name stands for. -/
theorem find?_extend_of_ne
    (h : ∀ entry ∈ functions, Text.upper entry.1 ≠ Text.upper name) :
    (table.extend functions).find? name = table.find? name := by
  induction functions generalizing table with
  | nil => rfl
  | cons entry rest ih =>
    obtain ⟨hentry, hrest⟩ := List.forall_mem_cons.mp h
    have hinsert : (table.insert entry.1 entry.2).find? name = table.find? name := by
      rw [find?_insert, if_neg hentry]
    exact (ih hrest).trans hinsert

/-- Of functions with different names each is found under its own. -/
theorem find?_extend_of_mem (hdistinct : (functions.map (Text.upper ·.1)).Nodup)
    (h : (name, function) ∈ functions) :
    (table.extend functions).find? name = some function := by
  induction functions generalizing table with
  | nil => cases h
  | cons entry rest ih =>
    obtain ⟨hfirst, hrest⟩ := List.nodup_cons.mp hdistinct
    rcases List.mem_cons.mp h with rfl | hlater
    · have hothers : ∀ entry ∈ rest, Text.upper entry.1 ≠ Text.upper name := by
        intro entry hentry hsame
        apply hfirst
        exact List.mem_map.mpr ⟨entry, hentry, hsame⟩
      have hinsert : (table.insert name function).find? name = some function := by
        rw [find?_insert, if_pos rfl]
      exact (find?_extend_of_ne hothers).trans hinsert
    · exact ih hrest hlater

end FunctionTable

/-! ## Operators that are added -/

namespace OperatorTable

/-- Of operators with different names or places each is found under its name in its place. -/
theorem find?_extend_of_mem {table : OperatorTable} {operators : List (String × Operator)}
    {name : String} {operator : Operator}
    (hdistinct : (operators.map fun entry => (entry.2.rule.fixity, Text.upper entry.1)).Nodup)
    (h : (name, operator) ∈ operators) :
    (table.extend operators).find? operator.rule.fixity name = some operator := by
  induction operators generalizing table with
  | nil => cases h
  | cons entry rest ih =>
    obtain ⟨hfirst, hrest⟩ := List.nodup_cons.mp hdistinct
    rcases List.mem_cons.mp h with rfl | hlater
    · have hothers : ∀ entry ∈ rest, entry.2.rule.fixity = operator.rule.fixity →
          Text.upper entry.1 ≠ Text.upper name := by
        intro entry hentry hfixity hsame
        apply hfirst
        exact List.mem_map.mpr ⟨entry, hentry, by rw [hfixity, hsame]⟩
      have hinsert : (table.insert name operator).find? operator.rule.fixity name =
          some operator := by
        rw [find?_insert, if_pos ⟨rfl, rfl⟩]
      exact (find?_extend hothers).trans hinsert
    · exact ih hrest hlater

end OperatorTable

/-! ## The built-in functions and operators -/

namespace BuiltIn

variable {name : String} {function : LibraryFunction} {operator : Operator}

theorem functions_distinct : (functions.map (Text.upper ·.1)).Nodup := by decide +kernel

/-- Each built-in function is found under its name. -/
theorem find?_functionTable (h : (name, function) ∈ functions) :
    functionTable.find? name = some function :=
  FunctionTable.find?_extend_of_mem functions_distinct h

theorem mem_of_find?_functionTable (h : functionTable.find? name = some function) :
    ∃ key, (key, function) ∈ functions :=
  FunctionTable.forall_extend (fun function => ∃ key, (key, function) ∈ functions)
    (fun _ hentry => absurd hentry (List.not_mem_nil)) (fun entry hentry => ⟨entry.1, hentry⟩) _
    (Dictionary.mem_of_find? h)

theorem operators_distinct :
    (operators.map fun entry => (entry.2.rule.fixity, Text.upper entry.1)).Nodup := by
  decide +kernel

/-- Each built-in operator is found under its name in its place. -/
theorem find?_operatorTable (h : (name, operator) ∈ operators) :
    operatorTable.find? operator.rule.fixity name = some operator :=
  OperatorTable.find?_extend_of_mem operators_distinct h

/-- The precedences of the built-in operators depend on one setting only. -/
theorem precedenceIn_congr {settings settings' : Settings}
    (hsame : settings.powerPrecedence = settings'.powerPrecedence) {fixity : Fixity}
    (h : operatorTable.find? fixity name = some operator) :
    operator.rule.precedenceIn settings = operator.rule.precedenceIn settings' := by
  let Same := fun operator : Operator =>
    operator.rule.precedenceIn settings = operator.rule.precedenceIn settings'
  have hoperators : ∀ entry ∈ operators, Same entry.2 := by
    simp [Same, operators, OperatorRule.precedenceIn, OperatorRule.between, OperatorRule.before,
      OperatorRule.rightAssociative, OperatorRule.onTrees, OperatorRule.adjustedBy, hsame]
  exact OperatorTable.forall_extend Same (OperatorTable.forall_empty Same) hoperators fixity _
    (Dictionary.mem_of_find? h)

end BuiltIn
end Formula

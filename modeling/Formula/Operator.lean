-- SUMMARY: Operators: their place beside the operands, precedence and laziness, what they do, and tables of them by name.
import Formula.Dictionary
import Formula.Settings
import Formula.Text.Case

/-! # Operators

An operator is a rule, which the parser follows, and an action, which the evaluator carries out.
The built-in actions are named here and defined with the evaluator; an action of the host is a
number that the host gives a meaning.

An operator table has one part for each place an operator can stand in. Names are kept in upper
case, so they match in any letter case. -/

namespace Formula

/-- Where an operator stands: before its operand, after it, or between two. -/
inductive Fixity where
  | before
  | after
  | between
deriving DecidableEq

namespace Fixity

def operandCount : Fixity → Nat
  | before => 1
  | after => 1
  | between => 2

end Fixity

/-! ## Precedence levels -/

namespace Precedence

def disjunction : Int := 2
def conjunction : Int := 4
def comparison : Int := 10
def additive : Int := 20
def multiplicative : Int := 30
def power : Int := 40
def unary : Int := 60
def trailing : Int := 100

end Precedence

/-! ## Operators -/

/-- What the parser has to know of an operator. A lazy operator gets its operands as trees. The
    precedence is the declared one, unless the operator has another one that depends on the
    settings. -/
structure OperatorRule where
  fixity : Fixity
  precedence : Int
  adjusted : Option (Settings → Int)
  leftAssociative : Bool
  lazy : Bool

namespace OperatorRule

/-- An operator before its operand. -/
def before : OperatorRule := ⟨.before, Precedence.unary, none, false, false⟩

/-- An operator after its operand. -/
def after : OperatorRule := ⟨.after, Precedence.trailing, none, true, false⟩

/-- A left-associative operator between two operands. -/
def between (precedence : Int) : OperatorRule := ⟨.between, precedence, none, true, false⟩

def rightAssociative (rule : OperatorRule) : OperatorRule := { rule with leftAssociative := false }

def onTrees (rule : OperatorRule) : OperatorRule := { rule with lazy := true }

def withPrecedence (rule : OperatorRule) (precedence : Int) : OperatorRule :=
  { rule with precedence := precedence }

/-- The operator with a precedence that the settings decide. -/
def adjustedBy (rule : OperatorRule) (precedence : Settings → Int) : OperatorRule :=
  { rule with adjusted := some precedence }

/-- The precedence that counts under the settings. -/
def precedenceIn (rule : OperatorRule) (settings : Settings) : Int :=
  match rule.adjusted with
  | some precedence => precedence settings
  | none => rule.precedence

def operandCount (rule : OperatorRule) : Nat := rule.fixity.operandCount

end OperatorRule

/-- What an operator does. -/
inductive OperatorAction where
  | add | subtract | multiply | divide | remainder | power
  | negate | keepSign
  | equal | notEqual | less | lessOrEqual | greater | greaterOrEqual
  | and | or | not
  | host (number : Nat)
deriving DecidableEq

structure Operator where
  rule : OperatorRule
  action : OperatorAction

/-! ## Tables -/

/-- Operators by place and upper-case name, and the length of the longest name. An operator stands
    in the part for its own place. -/
structure OperatorTable where
  before : Dictionary Operator
  after : Dictionary Operator
  between : Dictionary Operator
  longestName : Nat
  fixity_before : ∀ entry ∈ before, entry.2.rule.fixity = .before
  fixity_after : ∀ entry ∈ after, entry.2.rule.fixity = .after
  fixity_between : ∀ entry ∈ between, entry.2.rule.fixity = .between

namespace OperatorTable

def empty : OperatorTable where
  before := []
  after := []
  between := []
  longestName := 0
  fixity_before := by simp
  fixity_after := by simp
  fixity_between := by simp

/-- The part of the table for a place. -/
def part (table : OperatorTable) : Fixity → Dictionary Operator
  | .before => table.before
  | .after => table.after
  | .between => table.between

theorem fixity_part (table : OperatorTable) (fixity : Fixity) :
    ∀ entry ∈ table.part fixity, entry.2.rule.fixity = fixity := by
  cases fixity with
  | before => exact table.fixity_before
  | after => exact table.fixity_after
  | between => exact table.fixity_between

/-- Adds an operator in the place its rule names. -/
def insert (table : OperatorTable) (name : String) (operator : Operator) : OperatorTable :=
  let key := Text.upper name
  let longest := max table.longestName key.length
  match h : operator.rule.fixity with
  | .before =>
    { table with
      before := Dictionary.insert table.before key operator
      longestName := longest
      fixity_before :=
        Dictionary.forall_insert (fun o : Operator => o.rule.fixity = .before)
          table.fixity_before h key }
  | .after =>
    { table with
      after := Dictionary.insert table.after key operator
      longestName := longest
      fixity_after :=
        Dictionary.forall_insert (fun o : Operator => o.rule.fixity = .after)
          table.fixity_after h key }
  | .between =>
    { table with
      between := Dictionary.insert table.between key operator
      longestName := longest
      fixity_between :=
        Dictionary.forall_insert (fun o : Operator => o.rule.fixity = .between)
          table.fixity_between h key }

/-- Adds operators one after the other. -/
def extend (table : OperatorTable) (operators : List (String × Operator)) : OperatorTable :=
  operators.foldl (fun t entry => t.insert entry.1 entry.2) table

/-- The operator of a name in a place. -/
def find? (table : OperatorTable) (fixity : Fixity) (name : String) : Option Operator :=
  Dictionary.find? (table.part fixity) (Text.upper name)

theorem fixity_of_find? {table : OperatorTable} {fixity : Fixity} {name : String}
    {operator : Operator} (h : table.find? fixity name = some operator) :
    operator.rule.fixity = fixity :=
  table.fixity_part fixity _ (Dictionary.mem_of_find? h)

theorem part_insert (table : OperatorTable) (name : String) (operator : Operator)
    (fixity : Fixity) :
    (table.insert name operator).part fixity =
      if operator.rule.fixity = fixity then
        Dictionary.insert (table.part fixity) (Text.upper name) operator
      else table.part fixity := by
  obtain ⟨⟨place, _, _, _, _⟩, _⟩ := operator
  cases place <;> cases fixity <;> rfl

theorem find?_insert (table : OperatorTable) (name : String) (operator : Operator)
    (fixity : Fixity) (other : String) :
    (table.insert name operator).find? fixity other =
      if operator.rule.fixity = fixity ∧ Text.upper name = Text.upper other then some operator
      else table.find? fixity other := by
  unfold find?
  rw [part_insert]
  split
  · rename_i hfixity
    simp [Dictionary.find?_insert, hfixity]
  · rename_i hfixity
    simp [hfixity]

/-- Operators with other names or in other places do not change what a name stands for. -/
theorem find?_extend {table : OperatorTable} {operators : List (String × Operator)}
    {fixity : Fixity} {name : String}
    (h : ∀ entry ∈ operators, entry.2.rule.fixity = fixity →
      Text.upper entry.1 ≠ Text.upper name) :
    (table.extend operators).find? fixity name = table.find? fixity name := by
  induction operators generalizing table with
  | nil => rfl
  | cons entry rest ih =>
    obtain ⟨hentry, hrest⟩ := List.forall_mem_cons.mp h
    have hinsert : (table.insert entry.1 entry.2).find? fixity name = table.find? fixity name := by
      rw [find?_insert, if_neg]
      exact fun hsame => hentry hsame.1 hsame.2
    exact (ih hrest).trans hinsert

/-- What holds of all operators of a table and of a new one holds of all when it is added. -/
theorem forall_insert (P : Operator → Prop) {table : OperatorTable} {operator : Operator}
    (htable : ∀ fixity, ∀ entry ∈ table.part fixity, P entry.2) (hoperator : P operator)
    (name : String) : ∀ fixity, ∀ entry ∈ (table.insert name operator).part fixity, P entry.2 := by
  intro fixity
  rw [part_insert]
  split
  · exact Dictionary.forall_insert P (htable fixity) hoperator _
  · exact htable fixity

theorem forall_extend (P : Operator → Prop) {table : OperatorTable}
    {operators : List (String × Operator)}
    (htable : ∀ fixity, ∀ entry ∈ table.part fixity, P entry.2)
    (hoperators : ∀ entry ∈ operators, P entry.2) :
    ∀ fixity, ∀ entry ∈ (table.extend operators).part fixity, P entry.2 := by
  induction operators generalizing table with
  | nil => exact htable
  | cons entry rest ih =>
    obtain ⟨hentry, hrest⟩ := List.forall_mem_cons.mp hoperators
    exact ih (forall_insert P htable hentry entry.1) hrest

theorem forall_empty (P : Operator → Prop) :
    ∀ fixity, ∀ entry ∈ empty.part fixity, P entry.2 := by
  intro fixity entry hentry
  cases fixity <;> cases hentry

def has (table : OperatorTable) (fixity : Fixity) (name : String) : Bool :=
  (table.find? fixity name).isSome

/-- Whether the name is an operator in any place. -/
def hasAny (table : OperatorTable) (name : String) : Bool :=
  table.has .before name || table.has .after name || table.has .between name

end OperatorTable
end Formula

-- SUMMARY: What the reading of a formula depends on: settings, operators and functions.
import Formula.Operator
import Formula.Settings
import Formula.Signature

/-! # Languages

A language is the part of a configuration that decides which texts are formulas and how they are
read: the operators, the functions, and the settings that allow or limit forms. -/

namespace Formula

structure Language where
  settings : Settings
  operators : OperatorTable
  functions : FunctionTable

namespace Language

/-- The precedence an operator has in the language. -/
def precedenceOf (language : Language) (operator : Operator) : Int :=
  operator.rule.precedenceIn language.settings

end Language
end Formula

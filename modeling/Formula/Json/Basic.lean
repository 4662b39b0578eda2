-- SUMMARY: JSON values.
import Formula.Dictionary

/-! # JSON values

Numbers are whole or floating. The fields of an object are in the order of their names. -/

namespace Formula

inductive Json where
  | null
  | bool (value : Bool)
  | integer (value : Int)
  | float (value : Float)
  | text (value : String)
  | array (items : List Json)
  | object (fields : List (String × Json))

instance : Inhabited Json := ⟨.null⟩

namespace Json

/-- An object of the given fields. -/
def ofFields (fields : List (String × Json)) : Json := object (Dictionary.ofEntries fields)

end Json
end Formula

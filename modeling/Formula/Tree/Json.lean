-- SUMMARY: Expression trees as JSON.
import Formula.Json.Writer
import Formula.Tree.Basic

/-! # Trees as JSON

A tree is an object with the kind, lexeme and position of its token, and its children if it has
any. -/

namespace Formula
namespace Tree

mutual

def toJson : Tree → Json
  | node token children =>
    let fields := [
      ("position", Json.integer token.position),
      ("type", Json.text token.kind.label),
      ("value", Json.text token.lexeme)]
    match children with
    | [] => .object fields
    | child :: rest => .object (("children", .array (toJson child :: toJsonAll rest)) :: fields)

def toJsonAll : List Tree → List Json
  | [] => []
  | tree :: rest => toJson tree :: toJsonAll rest

end

/-- The text of a tree. -/
def text (tree : Tree) : String := tree.toJson.compact

end Tree
end Formula

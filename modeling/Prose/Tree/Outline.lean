import Prose.Json.Print
import Prose.Text.Quoted
import Prose.Tree.Basic

namespace Prose
namespace Tree

/-!
# Outlines

An outline shows one node to a line, indented by two blanks for each level: the name of its type, then
its text in quotes, then its annotations as compact JSON.
-/

def outlineLine (depth : Nat) (type : NodeType) (text : Option String) (data : Json.Fields) :
    String :=
  String.ofList (List.replicate (2 * depth) ' ') ++ type.name ++
    (match text with
      | some value => " " ++ Text.Quoted.encode value
      | none => "") ++
    (if data.isEmpty then "" else " " ++ (Json.object data).compact)

mutual

/-- The lines of a tree whose root stands at some depth. -/
def outlineLines (depth : Nat) : Tree → List String
  | .branch type data children =>
    outlineLine depth type none data :: outlineLinesAll (depth + 1) children
  | .leaf type data value => [outlineLine depth type (some value) data]

def outlineLinesAll (depth : Nat) : List Tree → List String
  | [] => []
  | tree :: rest => outlineLines depth tree ++ outlineLinesAll depth rest

end

/-- The outline of a tree; each line ends in a line feed. -/
def outline (tree : Tree) : String :=
  String.join ((outlineLines 0 tree).map fun line => line ++ "\n")

end Tree
end Prose

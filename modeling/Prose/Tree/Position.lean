import Prose.Tree.Basic

namespace Prose
namespace Tree

/-!
# Positions

Every node is annotated with the range of bytes that its text takes in the text of the whole tree.
-/

/-- A range of bytes as an annotation. -/
def range (first last : Nat) : Json := .ofFields [("start", .ofNat first), ("end", .ofNat last)]

mutual

/-- Annotate a tree whose text begins at some byte: the tree, and the byte behind its text. -/
def positionFrom (start : Nat) : Tree → Tree × Nat
  | .branch type data children =>
    let (children, last) := positionAll start children
    (.branch type (data.insert "position" (range start last)) children, last)
  | .leaf type data value =>
    let last := start + value.utf8ByteSize
    (.leaf type (data.insert "position" (range start last)) value, last)

/-- Annotate trees whose texts follow each other. -/
def positionAll (start : Nat) : List Tree → List Tree × Nat
  | [] => ([], start)
  | tree :: rest =>
    let (tree, middle) := positionFrom start tree
    let (rest, last) := positionAll middle rest
    (tree :: rest, last)

end

/-- Annotate every node of a tree with its range of bytes. -/
def withPositions (tree : Tree) : Tree := (positionFrom 0 tree).1

end Tree
end Prose

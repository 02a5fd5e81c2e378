import Prose.Tree.Node

namespace Prose

/-!
# Trees

A tree is a node whose children are trees.  Its text is that of its leaves, one after the other.
-/

/-- A tree of typed nodes. -/
inductive Tree where
  | branch (type : NodeType) (data : Json.Fields) (children : List Tree)
  | leaf (type : NodeType) (data : Json.Fields) (value : String)
deriving Repr

namespace Tree

def node : Tree → Node Tree
  | .branch type data children => ⟨type, .children children, data⟩
  | .leaf type data value => ⟨type, .text value, data⟩

def ofNode (node : Node Tree) : Tree :=
  match node.content with
  | .children nodes => .branch node.type node.data nodes
  | .text value => .leaf node.type node.data value

@[simp] theorem ofNode_node (tree : Tree) : ofNode tree.node = tree := by
  cases tree <;> rfl

@[simp] theorem node_ofNode (node : Node Tree) : (ofNode node).node = node := by
  obtain ⟨type, content, data⟩ := node
  cases content <;> rfl

def type : Tree → NodeType
  | .branch type _ _ => type
  | .leaf type _ _ => type

def data : Tree → Json.Fields
  | .branch _ data _ => data
  | .leaf _ data _ => data

def children : Tree → List Tree
  | .branch _ _ children => children
  | .leaf .. => []

def is (tree : Tree) (name : String) : Bool := tree.type.name = name

def annotate (tree : Tree) (key : String) (value : Json) : Tree :=
  match tree with
  | .branch type data children => .branch type (data.insert key value) children
  | .leaf type data text => .leaf type (data.insert key value) text

mutual

/-- The texts of the leaves in document order. -/
def pieces : Tree → List String
  | .branch _ _ children => piecesAll children
  | .leaf _ _ value => [value]

def piecesAll : List Tree → List String
  | [] => []
  | tree :: rest => tree.pieces ++ piecesAll rest

end

def text (tree : Tree) : String := String.join tree.pieces

mutual

/-- The subtrees, each in front of those below it. -/
def subtrees : Tree → List Tree
  | .branch type data children => .branch type data children :: subtreesAll children
  | .leaf type data value => [.leaf type data value]

def subtreesAll : List Tree → List Tree
  | [] => []
  | tree :: rest => tree.subtrees ++ subtreesAll rest

end

end Tree
end Prose

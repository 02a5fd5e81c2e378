import Prose.Json.Basic
import Prose.Model

namespace Prose

/-!
# Nodes

A node has a type, annotations, and a content that is either a list of children or a text.  What its
children are is left open: whole trees, or references to nodes kept elsewhere.  A new node holds what
the shape of its type asks for, and no operation replaces one sort of content by the other.
-/

/-- What a node holds. -/
inductive Content (χ : Type) where
  | children (nodes : List χ)
  | text (value : String)
deriving DecidableEq, Repr

/-- A node whose children are of type `χ`. -/
structure Node (χ : Type) where
  type : NodeType
  content : Content χ
  data : Json.Fields
deriving Repr

namespace Node

variable {χ : Type}

def create (type : NodeType) : Node χ :=
  match type.shape with
  | .parent => ⟨type, .children [], []⟩
  | .text => ⟨type, .text "", []⟩

/-- The error of an operation that the node's content does not admit. -/
def mismatch (node : Node χ) (operation : String) : Error :=
  .shapeMismatch node.type.name node.type.shape operation

/-- Put a child behind the others. -/
def append (node : Node χ) (child : χ) : Except Error (Node χ) :=
  match node.content with
  | .children nodes => .ok { node with content := .children (nodes ++ [child]) }
  | .text _ => .error (node.mismatch "children")

def prepend (node : Node χ) (child : χ) : Except Error (Node χ) :=
  match node.content with
  | .children nodes => .ok { node with content := .children (child :: nodes) }
  | .text _ => .error (node.mismatch "children")

/-- Take out the child at an index: the child and the node without it. -/
def remove (node : Node χ) (index : Nat) : Option (χ × Node χ) :=
  match node.content with
  | .children nodes =>
    nodes[index]?.map fun child => (child, { node with content := .children (nodes.eraseIdx index) })
  | .text _ => none

def setText (node : Node χ) (value : String) : Except Error (Node χ) :=
  match node.content with
  | .text _ => .ok { node with content := .text value }
  | .children _ => .error (node.mismatch "a text value")

/-- The children; none for a node with a text. -/
def children (node : Node χ) : List χ :=
  match node.content with
  | .children nodes => nodes
  | .text _ => []

def text? (node : Node χ) : Option String :=
  match node.content with
  | .children _ => none
  | .text value => some value

/-- Whether there is neither a child nor any text. -/
def isEmpty (node : Node χ) : Bool :=
  match node.content with
  | .children nodes => nodes.isEmpty
  | .text value => value.isEmpty

def annotate (node : Node χ) (key : String) (value : Json) : Node χ :=
  { node with data := node.data.insert key value }

def forget (node : Node χ) (key : String) : Node χ := { node with data := node.data.erase key }

/-- The content is of the sort that the type's shape asks for. -/
def WellShaped (node : Node χ) : Prop :=
  match node.content with
  | .children _ => node.type.shape = .parent
  | .text _ => node.type.shape = .text

end Node
end Prose

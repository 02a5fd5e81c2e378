import Prose.Error
import Prose.Text.Described

namespace Prose

/-!
# Object models

A model lists the node types that trees may be built from.  A type has a name and a shape; a later
registration of a name replaces the earlier one.  Types are kept in the order of their names.
-/

/-- A type of node. -/
structure NodeType where
  name : String
  shape : Shape
deriving DecidableEq, Repr

namespace NodeType

/-- Whether nodes of the type hold children. -/
def isParent (type : NodeType) : Bool := type.shape = .parent

def describe (type : NodeType) : String :=
  Text.described "NodeType"
    [("name", Text.Quoted.encode type.name),
     ("shape", match type.shape with | .parent => "Parent" | .text => "Text")]

end NodeType

namespace Kind

/-! The names of the standard node types: the levels of a document, and the leaves it is made of. -/

def root := "RootNode"
def paragraph := "ParagraphNode"
def sentence := "SentenceNode"
def word := "WordNode"
def whiteSpace := "WhiteSpaceNode"
def punctuation := "PunctuationNode"
def symbol := "SymbolNode"
def source := "SourceNode"
def text := "TextNode"

end Kind

/-- The node types that trees may be built from. -/
structure Model where
  types : List NodeType
deriving Repr

namespace Model

def empty : Model := ⟨[]⟩

/-- Put a type into an ordered list, in place of one with its name. -/
def place (type : NodeType) : List NodeType → List NodeType
  | [] => [type]
  | other :: rest =>
    if type.name < other.name then type :: other :: rest
    else if type.name = other.name then type :: rest
    else other :: place type rest

def register (model : Model) (name : String) (shape : Shape) : Model :=
  ⟨place ⟨name, shape⟩ model.types⟩

def find? (model : Model) (name : String) : Option NodeType :=
  model.types.find? fun type => type.name = name

def contains (model : Model) (name : String) : Bool := (model.find? name).isSome

/-- The type registered under a name; an unknown name is an error. -/
def resolve (model : Model) (name : String) : Except Error NodeType :=
  match model.find? name with
  | some type => .ok type
  | none => .error (.unknownNodeType name)

def names (model : Model) : List String := model.types.map NodeType.name

def describe (model : Model) (bound : Bool) : String :=
  Text.described "ObjectModel"
    [("types", Text.listed (model.names.map Text.Quoted.encode)), ("bound", Text.truth bound)]

/-- The types of a document. -/
def standard : Model :=
  [(Kind.root, Shape.parent), (Kind.paragraph, .parent), (Kind.sentence, .parent),
   (Kind.word, .text), (Kind.whiteSpace, .text), (Kind.punctuation, .text), (Kind.symbol, .text),
   (Kind.source, .text), (Kind.text, .text)].foldl
    (fun model type => model.register type.1 type.2) empty

end Model
end Prose

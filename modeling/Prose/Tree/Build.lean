import Prose.Cst.Basic
import Prose.Tree.Basic

namespace Prose
namespace Tree

/-!
# Building trees

A concrete syntax tree becomes a tree over a model: each type tag is resolved, and children and values
have to suit the shape of the type.  A node is checked in this order: its type, that it has content,
then its children from left to right; that a text type has no place for children shows once the
first child has been built.
-/

mutual

/-- The tree that a concrete syntax tree describes over a model. -/
def ofCst (model : Model) : Cst → Except Error Tree
  | ⟨name, children, value, data⟩ =>
    match model.resolve name with
    | .error error => .error error
    | .ok type =>
      match children, value with
      | some nodes, none =>
        match type.shape, nodes with
        | .parent, nodes =>
          (ofCstAll model nodes).map fun trees => .branch type (data.getD []) trees
        | .text, [] => .ok (.leaf type (data.getD []) "")
        | .text, first :: _ =>
          match ofCst model first with
          | .error error => .error error
          | .ok _ => .error (.shapeMismatch type.name .text "children")
      | none, some text =>
        match type.shape with
        | .text => .ok (.leaf type (data.getD []) text)
        | .parent => .error (.shapeMismatch type.name .parent "a text value")
      | some _, some _ => .error (.malformedCst name "carries both `children` and `value`")
      | none, none => .error (.malformedCst name "carries neither `children` nor `value`")

def ofCstAll (model : Model) : List Cst → Except Error (List Tree)
  | [] => .ok []
  | node :: rest =>
    match ofCst model node with
    | .error error => .error error
    | .ok tree => (ofCstAll model rest).map fun trees => tree :: trees

end

section

variable {model : Model} {name : String} {type : NodeType} {data : Option Json.Fields}

theorem ofCst_of_unknown {error : Error} (unknown : model.resolve name = .error error)
    (children : Option (List Cst)) (value : Option String) :
    ofCst model ⟨name, children, value, data⟩ = .error error := by
  rw [ofCst, unknown]

theorem ofCst_both (known : model.resolve name = .ok type) (children : List Cst) (text : String) :
    ofCst model ⟨name, some children, some text, data⟩ =
      .error (.malformedCst name "carries both `children` and `value`") := by
  rw [ofCst, known]

theorem ofCst_neither (known : model.resolve name = .ok type) :
    ofCst model ⟨name, none, none, data⟩ =
      .error (.malformedCst name "carries neither `children` nor `value`") := by
  rw [ofCst, known]

theorem ofCst_value_of_text (known : model.resolve name = .ok type) (shape : type.shape = .text)
    (text : String) :
    ofCst model ⟨name, none, some text, data⟩ = .ok (.leaf type (data.getD []) text) := by
  rw [ofCst, known]
  simp only [shape]

theorem ofCst_value_of_parent (known : model.resolve name = .ok type)
    (shape : type.shape = .parent) (text : String) :
    ofCst model ⟨name, none, some text, data⟩ =
      .error (.shapeMismatch type.name .parent "a text value") := by
  rw [ofCst, known]
  simp only [shape]

theorem ofCst_children_of_parent (known : model.resolve name = .ok type)
    (shape : type.shape = .parent) (children : List Cst) :
    ofCst model ⟨name, some children, none, data⟩ =
      (ofCstAll model children).map fun trees => .branch type (data.getD []) trees := by
  rw [ofCst, known]
  simp only [shape]

theorem ofCst_empty_of_text (known : model.resolve name = .ok type) (shape : type.shape = .text) :
    ofCst model ⟨name, some [], none, data⟩ = .ok (.leaf type (data.getD []) "") := by
  rw [ofCst, known]
  simp only [shape]

theorem ofCst_children_of_text (known : model.resolve name = .ok type)
    (shape : type.shape = .text) (first : Cst) (rest : List Cst) :
    ofCst model ⟨name, some (first :: rest), none, data⟩ =
      match ofCst model first with
      | .error error => .error error
      | .ok _ => .error (.shapeMismatch type.name .text "children") := by
  rw [ofCst, known]
  simp only [shape]

end

def someData (data : Json.Fields) : Option Json.Fields := if data.isEmpty then none else some data

mutual

def toCst : Tree → Cst
  | .branch type data children => ⟨type.name, some (toCstAll children), none, someData data⟩
  | .leaf type data value => ⟨type.name, none, some value, someData data⟩

def toCstAll : List Tree → List Cst
  | [] => []
  | tree :: rest => tree.toCst :: toCstAll rest

end

end Tree
end Prose

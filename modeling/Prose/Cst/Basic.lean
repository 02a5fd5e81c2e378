import Prose.Error
import Prose.Json.Basic

namespace Prose

/-!
# Concrete syntax trees

What a parser hands over: untyped nodes with a type tag, children or a value, and annotations.  A node
may carry both or neither of children and value; such a node has no content and cannot be built.
-/

/-- A node of a concrete syntax tree. -/
structure Cst where
  type : String
  children : Option (List Cst)
  value : Option String
  data : Option Json.Fields
deriving Repr, Inhabited

namespace Cst

def parent (type : String) (children : List Cst) : Cst := ⟨type, some children, none, none⟩

def leaf (type : String) (value : String) : Cst := ⟨type, none, some value, none⟩

/-- The content of a node that carries exactly one of children and value. -/
inductive Content where
  | children (nodes : List Cst)
  | value (text : String)

/-- The content of a node, or the defect that it has. -/
def content (node : Cst) : Except Error Content :=
  match node.children, node.value with
  | some children, none => .ok (.children children)
  | none, some value => .ok (.value value)
  | some _, some _ => .error (.malformedCst node.type "carries both `children` and `value`")
  | none, none => .error (.malformedCst node.type "carries neither `children` nor `value`")

/-! ## Equality -/

mutual

/-- Equality of nodes is decided part by part. -/
def decideEq : (a b : Cst) → Decidable (a = b)
  | ⟨t, none, v, d⟩, ⟨u, none, w, e⟩ =>
    decidable_of_iff (t = u ∧ v = w ∧ d = e) (by simp)
  | ⟨t, some a, v, d⟩, ⟨u, some b, w, e⟩ =>
    match decideAllEq a b with
    | isTrue h => decidable_of_iff (t = u ∧ v = w ∧ d = e) (by simp [h])
    | isFalse h => isFalse (by simp [h])
  | ⟨_, none, _, _⟩, ⟨_, some _, _, _⟩ => isFalse (by simp)
  | ⟨_, some _, _, _⟩, ⟨_, none, _, _⟩ => isFalse (by simp)

def decideAllEq : (a b : List Cst) → Decidable (a = b)
  | [], [] => isTrue rfl
  | [], _ :: _ => isFalse (by simp)
  | _ :: _, [] => isFalse (by simp)
  | a :: as, b :: bs =>
    match decideEq a b, decideAllEq as bs with
    | isTrue h, isTrue hs => isTrue (by rw [h, hs])
    | isFalse h, _ => isFalse (by simp [h])
    | _, isFalse hs => isFalse (by simp [hs])

end

instance : DecidableEq Cst := decideEq

/-! ## JSON form -/

mutual

/-- The fields of a node that are present: type, children, value and annotations, in this order. -/
def toJson : Cst → Json
  | ⟨type, children, value, data⟩ =>
    .object
      (("type", .string type) ::
        ((match children with
          | some nodes => [("children", .array (allToJson nodes))]
          | none => []) ++
        ((match value with
          | some text => [("value", .string text)]
          | none => []) ++
        (match data with
          | some fields => [("data", .object fields)]
          | none => []))))

def allToJson : List Cst → List Json
  | [] => []
  | node :: rest => node.toJson :: allToJson rest

end

end Cst
end Prose

import Prose.Tree.Build

namespace Prose

/-!
# Which syntax trees can be built

A concrete syntax tree is built node by node, and the shape of a type is not looked at when a node is
met.  It shows only when something is put into the node: its first child, or its value.  So a text type
with an empty list of children is never found out, and becomes an empty leaf.

`Cst.Fits` is what a node should be: registered, with exactly one of children and value, and with the
one that its type's shape asks for.  `Cst.Admissible` is what building asks of a node.  The two differ
at the hollow nodes only, and the main statement says that this is the whole difference.
-/

namespace Model

def shape? (model : Model) (name : String) : Option Shape := (model.find? name).map NodeType.shape

theorem shape?_of_resolve {model : Model} {name : String} {type : NodeType}
    (resolved : model.resolve name = .ok type) : model.shape? name = some type.shape := by
  unfold resolve at resolved
  cases found : model.find? name with
  | none => rw [found] at resolved; cases resolved
  | some other =>
      rw [found] at resolved
      cases resolved
      simp only [shape?, found, Option.map_some]

theorem shape?_of_resolve_error {model : Model} {name : String} {error : Error}
    (resolved : model.resolve name = .error error) : model.shape? name = none := by
  unfold resolve at resolved
  cases found : model.find? name with
  | none => simp only [shape?, found, Option.map_none]
  | some other => rw [found] at resolved; cases resolved

end Model

namespace Cst

mutual

/-- The nodes of a concrete syntax tree, each in front of those below it. -/
def subtrees : Cst → List Cst
  | ⟨type, children, value, data⟩ =>
    ⟨type, children, value, data⟩ ::
      match children with
      | some list => subtreesAll list
      | none => []

def subtreesAll : List Cst → List Cst
  | [] => []
  | node :: rest => node.subtrees ++ subtreesAll rest

end

/-- A node is as its type asks: the type is registered, the node has exactly one of children and
value, children only below a parent type and a value only below a text type. -/
structure Fits (node : Cst) (model : Model) : Prop where
  registered : (model.shape? node.type).isSome
  one : node.children.isSome ≠ node.value.isSome
  parent_of_children : node.children.isSome → model.shape? node.type = some .parent
  text_of_value : node.value.isSome → model.shape? node.type = some .text

/-- What building asks of a node: an empty list of children suits every type. -/
structure Admissible (node : Cst) (model : Model) : Prop where
  registered : (model.shape? node.type).isSome
  one : node.children.isSome ≠ node.value.isSome
  parent_of_children : ∀ first rest, node.children = some (first :: rest) →
    model.shape? node.type = some .parent
  text_of_value : node.value.isSome → model.shape? node.type = some .text

/-- A node of a text type with an empty list of children in the place of a value. -/
structure Hollow (node : Cst) (model : Model) : Prop where
  text : model.shape? node.type = some .text
  empty : node.children = some []

theorem Fits.admissible {node : Cst} {model : Model} (fits : node.Fits model) :
    node.Admissible model where
  registered := fits.registered
  one := fits.one
  parent_of_children := fun _ _ children => fits.parent_of_children (by rw [children]; rfl)
  text_of_value := fits.text_of_value

theorem Fits.not_hollow {node : Cst} {model : Model} (fits : node.Fits model) :
    ¬ node.Hollow model := by
  intro hollow
  have parent := fits.parent_of_children (by rw [hollow.empty]; rfl)
  rw [hollow.text] at parent
  cases parent

/-- An admissible node that does not fit is hollow. -/
theorem Admissible.fits {node : Cst} {model : Model} (admissible : node.Admissible model)
    (solid : ¬ node.Hollow model) : node.Fits model where
  registered := admissible.registered
  one := admissible.one
  parent_of_children := by
    intro present
    rcases Option.isSome_iff_exists.mp present with ⟨children, found⟩
    cases children with
    | cons first rest => exact admissible.parent_of_children first rest found
    | nil =>
        rcases Option.isSome_iff_exists.mp admissible.registered with ⟨shape, registered⟩
        cases shape with
        | parent => exact registered
        | text => exact False.elim (solid ⟨registered, found⟩)
  text_of_value := admissible.text_of_value

/-- The nodes of a tree all fit exactly if they are all admissible and none is hollow. -/
theorem all_fit_iff (list : List Cst) (model : Model) :
    (∀ node ∈ list, node.Fits model) ↔
      (∀ node ∈ list, node.Admissible model) ∧ ¬ ∃ node ∈ list, node.Hollow model := by
  constructor
  · intro fit
    refine ⟨fun node member => (fit node member).admissible, ?_⟩
    rintro ⟨node, member, hollow⟩
    exact (fit node member).not_hollow hollow
  · rintro ⟨admissible, solid⟩ node member
    exact (admissible node member).fits fun hollow => solid ⟨node, member, hollow⟩

end Cst

namespace Tree

open Cst (Admissible)

/-! ## What building asks for -/

theorem exists_map_ok_iff {α β : Type} (result : Except Error α) (wrap : α → β) :
    (∃ value, result.map wrap = .ok value) ↔ ∃ value, result = .ok value := by
  cases result with
  | error error => simp [Except.map]
  | ok value => simp [Except.map]

/-- A node whose type is unknown is neither built nor admissible. -/
theorem ofCst_ok_iff_of_unknown {model : Model} {error : Error} (node : Cst)
    (unknown : model.resolve node.type = .error error) :
    ¬ (∃ tree, ofCst model node = .ok tree) ∧ ¬ node.Admissible model := by
  rcases node with ⟨name, children, value, data⟩
  constructor
  · rw [ofCst_of_unknown unknown]
    rintro ⟨_, impossible⟩
    cases impossible
  · intro admissible
    have registered := admissible.registered
    rw [Model.shape?_of_resolve_error unknown] at registered
    cases registered

/-- A node without children is built exactly if it is admissible. -/
theorem ofCst_ok_iff_of_none (model : Model) (name : String) (value : Option String)
    (data : Option Json.Fields) :
    (∃ tree, ofCst model ⟨name, none, value, data⟩ = .ok tree) ↔
      Admissible ⟨name, none, value, data⟩ model := by
  cases resolved : model.resolve name with
  | error error =>
      have neither := ofCst_ok_iff_of_unknown ⟨name, none, value, data⟩ resolved
      exact iff_of_false neither.1 neither.2
  | ok type =>
      have known := Model.shape?_of_resolve resolved
      cases value with
      | none =>
          rw [ofCst_neither resolved]
          refine iff_of_false ?_ fun admissible => admissible.one rfl
          rintro ⟨_, impossible⟩
          cases impossible
      | some text =>
          cases shape : type.shape with
          | parent =>
              rw [ofCst_value_of_parent resolved shape]
              refine iff_of_false ?_ fun admissible => ?_
              · rintro ⟨_, impossible⟩
                cases impossible
              · have asked := admissible.text_of_value rfl
                rw [known, shape] at asked
                cases asked
          | text =>
              rw [ofCst_value_of_text resolved shape]
              rw [shape] at known
              refine iff_of_true ⟨_, rfl⟩ ⟨?_, ?_, ?_, fun _ => known⟩
              · rw [known]
                rfl
              · simp
              · intro _ _ impossible
                cases impossible

/-- A node with children is built exactly if it is admissible and its children can be built. -/
theorem ofCst_ok_iff_of_some (model : Model) (name : String) (children : List Cst)
    (value : Option String) (data : Option Json.Fields) :
    (∃ tree, ofCst model ⟨name, some children, value, data⟩ = .ok tree) ↔
      Admissible ⟨name, some children, value, data⟩ model ∧
        ∃ trees, ofCstAll model children = .ok trees := by
  cases resolved : model.resolve name with
  | error error =>
      have neither := ofCst_ok_iff_of_unknown ⟨name, some children, value, data⟩ resolved
      exact iff_of_false neither.1 fun both => neither.2 both.1
  | ok type =>
      have known := Model.shape?_of_resolve resolved
      have registered : (model.shape? name).isSome := by rw [known]; rfl
      cases value with
      | some text =>
          rw [ofCst_both resolved]
          refine iff_of_false ?_ fun both => both.1.one rfl
          rintro ⟨_, impossible⟩
          cases impossible
      | none =>
          cases shape : type.shape with
          | parent =>
              rw [shape] at known
              have admissible : Admissible ⟨name, some children, none, data⟩ model :=
                ⟨registered, by simp, fun _ _ _ => known, fun impossible => by cases impossible⟩
              rw [ofCst_children_of_parent resolved shape, exists_map_ok_iff]
              exact ⟨fun built => ⟨admissible, built⟩, And.right⟩
          | text =>
              rw [shape] at known
              cases children with
              | nil =>
                  rw [ofCst_empty_of_text resolved shape]
                  refine iff_of_true ⟨_, rfl⟩ ⟨⟨registered, by simp, ?_, ?_⟩, [], rfl⟩
                  · intro _ _ impossible
                    cases impossible
                  · intro impossible
                    cases impossible
              | cons first rest =>
                  -- Whether the first child is built or not, the node is not.
                  rw [ofCst_children_of_text resolved shape]
                  refine iff_of_false ?_ ?_
                  · rintro ⟨_, built⟩
                    split at built <;> cases built
                  · rintro ⟨admissible, _⟩
                    have asked := admissible.parent_of_children first rest rfl
                    rw [known] at asked
                    cases asked

theorem ofCstAll_cons_ok_iff (model : Model) (node : Cst) (rest : List Cst) :
    (∃ trees, ofCstAll model (node :: rest) = .ok trees) ↔
      (∃ tree, ofCst model node = .ok tree) ∧ ∃ trees, ofCstAll model rest = .ok trees := by
  rw [ofCstAll]
  cases ofCst model node with
  | error error => simp
  | ok tree =>
      simp only [exists_map_ok_iff]
      exact ⟨fun built => ⟨⟨tree, rfl⟩, built⟩, And.right⟩

mutual

/-- A tree can be built exactly if all its nodes are admissible. -/
theorem ofCst_ok_iff (model : Model) : ∀ cst : Cst,
    (∃ tree, ofCst model cst = .ok tree) ↔ ∀ node ∈ cst.subtrees, node.Admissible model
  | ⟨name, none, value, data⟩ => by
      rw [ofCst_ok_iff_of_none, Cst.subtrees]
      simp
  | ⟨name, some children, value, data⟩ => by
      rw [ofCst_ok_iff_of_some, Cst.subtrees, ofCstAll_ok_iff model children]
      simp only [List.forall_mem_cons]

/-- Several trees can be built exactly if all their nodes are admissible. -/
theorem ofCstAll_ok_iff (model : Model) : ∀ list : List Cst,
    (∃ trees, ofCstAll model list = .ok trees) ↔
      ∀ node ∈ Cst.subtreesAll list, node.Admissible model
  | [] => by simp [ofCstAll, Cst.subtreesAll]
  | node :: rest => by
      rw [ofCstAll_cons_ok_iff, Cst.subtreesAll, List.forall_mem_append, ofCst_ok_iff model node,
        ofCstAll_ok_iff model rest]

end

/-! ## How far this is from fitting -/

/-- A tree is built exactly if all its nodes are admissible.  That this is the same as that all its
nodes fit fails exactly where all are admissible and one of them is hollow. -/
theorem builds_iff_admissible (model : Model) (cst : Cst) :
    ((∃ tree, ofCst model cst = .ok tree) ↔ ∀ node ∈ cst.subtrees, node.Admissible model) ∧
      (((∃ tree, ofCst model cst = .ok tree) ↔ ∀ node ∈ cst.subtrees, node.Fits model) ↔
        ¬ ((∀ node ∈ cst.subtrees, node.Admissible model) ∧
            ∃ node ∈ cst.subtrees, node.Hollow model)) := by
  refine ⟨ofCst_ok_iff model cst, ?_⟩
  rw [ofCst_ok_iff, Cst.all_fit_iff]
  constructor
  · rintro same ⟨admissible, hollow⟩
    exact (same.mp admissible).2 hollow
  · intro solid
    exact ⟨fun admissible => ⟨admissible, fun hollow => solid ⟨admissible, hollow⟩⟩, And.left⟩

/-- A word with an empty list of children is built, though it does not fit. -/
theorem hollow_word_builds :
    (∃ tree, ofCst Model.standard (.parent Kind.word []) = .ok tree) ∧
      ¬ ∀ node ∈ (Cst.parent Kind.word []).subtrees, node.Fits Model.standard := by
  have resolved : Model.standard.resolve Kind.word = .ok ⟨Kind.word, .text⟩ := rfl
  refine ⟨⟨_, ofCst_empty_of_text resolved rfl⟩, fun fit => ?_⟩
  have member : Cst.parent Kind.word [] ∈ (Cst.parent Kind.word []).subtrees := by
    simp [Cst.parent, Cst.subtrees]
  exact (fit _ member).not_hollow ⟨Model.shape?_of_resolve resolved, rfl⟩

end Tree
end Prose

import Prose.Proofs.Tree.Admission

namespace Prose

/-!
# The shape of trees

A tree is well shaped if its parent types have children and its text types have texts.  Whatever is built
of a syntax tree is well shaped.  `Built` lists how a node can be built: every fact about built trees is
read off it, and not off the order in which building makes its checks.
-/

theorem Model.name_of_resolve {model : Model} {name : String} {type : NodeType}
    (resolved : model.resolve name = .ok type) : type.name = name := by
  unfold resolve at resolved
  cases found : model.find? name with
  | none => rw [found] at resolved; cases resolved
  | some other =>
      rw [found] at resolved
      cases resolved
      have same := List.find?_some found
      exact of_decide_eq_true same

namespace Tree

/-! ## How a tree is built -/

/-- The ways in which a tree is built of a node: a branch of its children, a leaf of its value, and for
a text type with an empty list of children an empty leaf. -/
inductive Built (model : Model) : Cst → Tree → Prop where
  | branch {name : String} {type : NodeType} {nodes : List Cst} {trees : List Tree}
      {data : Option Json.Fields} (resolved : model.resolve name = .ok type)
      (shape : type.shape = .parent) (all : ofCstAll model nodes = .ok trees) :
      Built model ⟨name, some nodes, none, data⟩ (.branch type (data.getD []) trees)
  | leaf {name : String} {type : NodeType} {text : String} {data : Option Json.Fields}
      (resolved : model.resolve name = .ok type) (shape : type.shape = .text) :
      Built model ⟨name, none, some text, data⟩ (.leaf type (data.getD []) text)
  | hollow {name : String} {type : NodeType} {data : Option Json.Fields}
      (resolved : model.resolve name = .ok type) (shape : type.shape = .text) :
      Built model ⟨name, some [], none, data⟩ (.leaf type (data.getD []) "")

/-- Whatever is built is built in one of these ways. -/
theorem built_of_ofCst {model : Model} {cst : Cst} {tree : Tree}
    (built : ofCst model cst = .ok tree) : Built model cst tree := by
  rcases cst with ⟨name, children, value, data⟩
  cases resolved : model.resolve name with
  | error error => rw [ofCst_of_unknown resolved] at built; cases built
  | ok type =>
      cases children with
      | none =>
          cases value with
          | none => rw [ofCst_neither resolved] at built; cases built
          | some text =>
              cases shape : type.shape with
              | parent => rw [ofCst_value_of_parent resolved shape] at built; cases built
              | text =>
                  rw [ofCst_value_of_text resolved shape] at built
                  cases built
                  exact .leaf resolved shape
      | some nodes =>
          cases value with
          | some text => rw [ofCst_both resolved] at built; cases built
          | none =>
              cases shape : type.shape with
              | parent =>
                  rw [ofCst_children_of_parent resolved shape] at built
                  cases all : ofCstAll model nodes with
                  | error error => rw [all] at built; cases built
                  | ok trees =>
                      rw [all] at built
                      cases built
                      exact .branch resolved shape all
              | text =>
                  cases nodes with
                  | nil =>
                      rw [ofCst_empty_of_text resolved shape] at built
                      cases built
                      exact .hollow resolved shape
                  | cons first rest =>
                      rw [ofCst_children_of_text resolved shape] at built
                      split at built <;> cases built

theorem ofCstAll_cons_ok {model : Model} {node : Cst} {rest : List Cst} {trees : List Tree}
    (built : ofCstAll model (node :: rest) = .ok trees) :
    ∃ tree more, trees = tree :: more ∧ ofCst model node = .ok tree ∧
      ofCstAll model rest = .ok more := by
  rw [ofCstAll] at built
  cases first : ofCst model node with
  | error error => rw [first] at built; cases built
  | ok tree =>
      cases others : ofCstAll model rest with
      | error error => rw [first, others] at built; cases built
      | ok more =>
          rw [first, others] at built
          cases built
          exact ⟨tree, more, rfl, rfl, rfl⟩

/-! ## The names of the nodes -/

mutual

/-- The nodes of a tree have the types that the nodes it was built of name, in the same order. -/
theorem names_of_ofCst {model : Model} : ∀ (cst : Cst) {tree : Tree}, ofCst model cst = .ok tree →
    tree.subtrees.map (fun part => part.type.name) = cst.subtrees.map Cst.type
  | ⟨name, none, value, data⟩, tree, built => by
      cases built_of_ofCst built with
      | leaf resolved shape =>
          rw [subtrees, Cst.subtrees, List.map_singleton, List.map_singleton]
          exact congrArg ([·]) (Model.name_of_resolve resolved)
  | ⟨name, some nodes, value, data⟩, tree, built => by
      cases built_of_ofCst built with
      | branch resolved shape all =>
          rw [subtrees, Cst.subtrees, List.map_cons, List.map_cons, names_of_ofCstAll nodes all]
          exact congrArg (· :: _) (Model.name_of_resolve resolved)
      | hollow resolved shape =>
          rw [subtrees, Cst.subtrees, List.map_singleton, Cst.subtreesAll, List.map_singleton]
          exact congrArg ([·]) (Model.name_of_resolve resolved)

theorem names_of_ofCstAll {model : Model} : ∀ (nodes : List Cst) {trees : List Tree},
    ofCstAll model nodes = .ok trees →
      (subtreesAll trees).map (fun part => part.type.name) = (Cst.subtreesAll nodes).map Cst.type
  | [], trees, built => by
      rw [ofCstAll] at built
      cases built
      rw [subtreesAll, Cst.subtreesAll, List.map_nil, List.map_nil]
  | node :: rest, trees, built => by
      rcases ofCstAll_cons_ok built with ⟨tree, more, rfl, first, others⟩
      rw [subtreesAll, Cst.subtreesAll, List.map_append, List.map_append, names_of_ofCst node first,
        names_of_ofCstAll rest others]

end

/-! ## Well-shaped trees -/

/-- Every node of a tree has the sort of content that its type asks for. -/
def WellShaped (tree : Tree) : Prop := ∀ part ∈ tree.subtrees, part.node.WellShaped

variable {type : NodeType} {data : Json.Fields} {trees : List Tree}

theorem mem_subtreesAll {part : Tree} :
    part ∈ subtreesAll trees ↔ ∃ tree ∈ trees, part ∈ tree.subtrees := by
  induction trees with
  | nil => simp [subtreesAll]
  | cons tree rest inductionHypothesis => simp [subtreesAll, inductionHypothesis]

/-- What holds of all nodes of a branch: it holds of the root and of all nodes of the children. -/
theorem forall_subtrees_branch {property : Tree → Prop} :
    (∀ part ∈ (branch type data trees).subtrees, property part) ↔
      property (.branch type data trees) ∧
        ∀ tree ∈ trees, ∀ part ∈ tree.subtrees, property part := by
  simp only [subtrees, List.forall_mem_cons, mem_subtreesAll]
  refine and_congr_right fun _ => ⟨fun all tree member part inside => ?_, fun all part found => ?_⟩
  · exact all part ⟨tree, member, inside⟩
  · rcases found with ⟨tree, member, inside⟩
    exact all tree member part inside

theorem wellShaped_branch :
    (branch type data trees).WellShaped ↔ type.shape = .parent ∧ ∀ tree ∈ trees, tree.WellShaped :=
  forall_subtrees_branch

theorem wellShaped_leaf {value : String} :
    (leaf type data value).WellShaped ↔ type.shape = .text := by
  simp only [Tree.WellShaped, subtrees, List.mem_singleton, forall_eq]
  exact Iff.rfl

mutual

theorem wellShaped_of_ofCst {model : Model} : ∀ (cst : Cst) {tree : Tree},
    ofCst model cst = .ok tree → tree.WellShaped
  | ⟨name, none, value, data⟩, tree, built => by
      cases built_of_ofCst built with
      | leaf resolved shape => exact wellShaped_leaf.mpr shape
  | ⟨name, some nodes, value, data⟩, tree, built => by
      cases built_of_ofCst built with
      | branch resolved shape all =>
          exact wellShaped_branch.mpr ⟨shape, wellShaped_of_ofCstAll nodes all⟩
      | hollow resolved shape => exact wellShaped_leaf.mpr shape

theorem wellShaped_of_ofCstAll {model : Model} : ∀ (nodes : List Cst) {trees : List Tree},
    ofCstAll model nodes = .ok trees → ∀ tree ∈ trees, tree.WellShaped
  | [], trees, built => by
      rw [ofCstAll] at built
      cases built
      nofun
  | node :: rest, trees, built => by
      rcases ofCstAll_cons_ok built with ⟨tree, more, rfl, first, others⟩
      rw [List.forall_mem_cons]
      exact ⟨wellShaped_of_ofCst node first, wellShaped_of_ofCstAll rest others⟩

end

end Tree
end Prose

import Prose.Proofs.Tree.Edits
import Prose.Proofs.Tree.Leaves

namespace Prose

/-!
# Building and writing back

Building a tree of a syntax tree and writing a tree as a syntax tree undo each other.

Written back, a tree gives the syntax tree that it was built of, with two exceptions.  Annotations that
are present but empty are no longer there, and a text type that had an empty list of children has an
empty value in its place.

Built anew, a tree that has been written is the same tree again, if the model has its types.  That needs
that the tree is well shaped: a text below a parent type would be refused.  Trees that come out of edits
are well shaped, so it does not matter how a tree was made.
-/

namespace Cst

mutual

/-- A syntax tree without the annotations that are present but empty. -/
def withoutEmptyData : Cst → Cst
  | ⟨type, none, value, data⟩ => ⟨type, none, value, data.filter fun fields => !fields.isEmpty⟩
  | ⟨type, some children, value, data⟩ =>
    ⟨type, some (withoutEmptyDataAll children), value, data.filter fun fields => !fields.isEmpty⟩

def withoutEmptyDataAll : List Cst → List Cst
  | [] => []
  | node :: rest => node.withoutEmptyData :: withoutEmptyDataAll rest

end

/-- No node of a text type has a list of children, not even an empty one. -/
def Solid (cst : Cst) (model : Model) : Prop :=
  ∀ node ∈ cst.subtrees, model.shape? node.type = some .text → node.children = none

/-- The children of a solid node are solid. -/
theorem Solid.of_mem {model : Model} {name : String} {nodes : List Cst} {value : Option String}
    {data : Option Json.Fields} (solid : Solid ⟨name, some nodes, value, data⟩ model) :
    ∀ part ∈ nodes, part.Solid model := by
  intro part member node inside
  refine solid node ?_
  rw [subtrees]
  exact List.mem_cons_of_mem _ (mem_subtreesAll.mpr ⟨part, member, inside⟩)

end Cst

namespace Tree

/-! ## Writing what has been built -/

theorem someData_getD (data : Option Json.Fields) :
    someData (data.getD []) = data.filter fun fields => !fields.isEmpty := by
  cases data with
  | none => rfl
  | some fields =>
      rw [Option.getD_some, someData]
      cases fields with
      | nil => rfl
      | cons field rest => rfl

mutual

/-- What a tree is written as is what it was built of, but for empty annotations. -/
theorem toCst_of_ofCst {model : Model} : ∀ (cst : Cst) {tree : Tree},
    ofCst model cst = .ok tree → cst.Solid model → tree.toCst = cst.withoutEmptyData
  | ⟨name, none, value, data⟩, tree, built, _ => by
      cases built_of_ofCst built with
      | leaf resolved shape =>
          rw [toCst, Cst.withoutEmptyData, someData_getD, Model.name_of_resolve resolved]
  | ⟨name, some nodes, value, data⟩, tree, built, solid => by
      cases built_of_ofCst built with
      | branch resolved shape all =>
          rw [toCst, Cst.withoutEmptyData, someData_getD, Model.name_of_resolve resolved,
            toCstAll_of_ofCstAll nodes all solid.of_mem]
      | hollow resolved shape =>
          have text := Model.shape?_of_resolve resolved
          rw [shape] at text
          cases solid _ (Cst.mem_subtrees_self _) text

theorem toCstAll_of_ofCstAll {model : Model} : ∀ (nodes : List Cst) {trees : List Tree},
    ofCstAll model nodes = .ok trees → (∀ node ∈ nodes, node.Solid model) →
      toCstAll trees = Cst.withoutEmptyDataAll nodes
  | [], trees, built, _ => by
      rw [ofCstAll] at built
      cases built
      rw [toCstAll, Cst.withoutEmptyDataAll]
  | node :: rest, trees, built, solid => by
      rcases ofCstAll_cons_ok built with ⟨tree, more, rfl, first, others⟩
      rw [List.forall_mem_cons] at solid
      rw [toCstAll, Cst.withoutEmptyDataAll, toCst_of_ofCst node first solid.1,
        toCstAll_of_ofCstAll rest others solid.2]

end

/-! ## Building what has been written -/

/-- A model has the types of all nodes of a tree, with the same shapes. -/
def Known (tree : Tree) (model : Model) : Prop :=
  ∀ part ∈ tree.subtrees, model.resolve part.type.name = .ok part.type

theorem known_branch {model : Model} {type : NodeType} {data : Json.Fields} {trees : List Tree} :
    (branch type data trees).Known model ↔
      model.resolve type.name = .ok type ∧ ∀ tree ∈ trees, tree.Known model :=
  forall_subtrees_branch

theorem getD_someData (data : Json.Fields) : (someData data).getD [] = data := by
  cases data with
  | nil => rfl
  | cons field rest => rfl

mutual

/-- A well-shaped tree is built again of what it is written as, over a model that has its types. -/
theorem ofCst_toCst {model : Model} : ∀ (tree : Tree), tree.WellShaped → tree.Known model →
    ofCst model tree.toCst = .ok tree
  | .leaf type data value, shaped, known => by
      have resolved : model.resolve type.name = .ok type :=
        known (.leaf type data value) (by rw [subtrees]; exact List.mem_singleton_self _)
      rw [toCst, ofCst_value_of_text resolved (wellShaped_leaf.mp shaped), getD_someData]
  | .branch type data trees, shaped, known => by
      rw [wellShaped_branch] at shaped
      rw [known_branch] at known
      rw [toCst, ofCst_children_of_parent known.1 shaped.1, getD_someData,
        ofCstAll_toCstAll trees shaped.2 known.2]
      rfl

theorem ofCstAll_toCstAll {model : Model} : ∀ (trees : List Tree),
    (∀ tree ∈ trees, tree.WellShaped) → (∀ tree ∈ trees, tree.Known model) →
      ofCstAll model (toCstAll trees) = .ok trees
  | [], _, _ => by rw [toCstAll, ofCstAll]
  | tree :: rest, shaped, known => by
      rw [List.forall_mem_cons] at shaped known
      rw [toCstAll, ofCstAll, ofCst_toCst tree shaped.1 known.1,
        ofCstAll_toCstAll rest shaped.2 known.2]
      rfl

end

/-! ## Both ways -/

/-- Building and writing are inverse to each other.  A tree that has been built of a solid syntax tree is
written as that syntax tree, but for empty annotations.  A tree that is read from a store is built again
of what it is written as, whatever edits the store comes from, over every model that has its types. -/
theorem build_write_inverse (model : Model) :
    (∀ (cst : Cst) (tree : Tree), ofCst model cst = .ok tree → cst.Solid model →
      tree.toCst = cst.withoutEmptyData) ∧
    (∀ (edits : List Store.Edit) (depth : Nat) (ref : Ref) (tree : Tree),
      (Store.empty.after edits).treeWithin depth ref = some tree → tree.Known model →
        ofCst model tree.toCst = .ok tree) := by
  constructor
  · intro cst tree built solid
    exact toCst_of_ofCst cst built solid
  · intro edits depth ref tree read known
    have shaped : tree.WellShaped := (Store.wellShaped_after edits).treeWithin depth read
    exact ofCst_toCst tree shaped known

/-- A sentence with annotations that are empty, and a sentence that is made by hand: its only word is put
in twice and taken out once. -/
theorem build_write_inverse_sentence :
    let sentence : Cst :=
      ⟨Kind.sentence, some [.leaf Kind.word "Cat"], none, some []⟩
    let edits : List Store.Edit :=
      [.create .standard Kind.sentence, .create .standard Kind.word, .setText 1 "Cat", .append 0 1,
        .prepend 0 1, .remove 0 1, .setText 0 "refused", .annotate 0 (·.insert "lang" (.string "en"))]
    let word : Tree := .leaf ⟨Kind.word, .text⟩ [] "Cat"
    let edited : Tree := .branch ⟨Kind.sentence, .parent⟩ [("lang", .string "en")] [word]
    ofCst .standard sentence = .ok (.branch ⟨Kind.sentence, .parent⟩ [] [word]) ∧
      sentence.Solid .standard ∧
      (branch ⟨Kind.sentence, .parent⟩ [] [word]).toCst = .parent Kind.sentence [.leaf Kind.word "Cat"] ∧
      (Store.empty.after edits).treeWithin 2 0 = some edited ∧ edited.Known .standard ∧
      ofCst .standard edited.toCst = .ok edited := by
  intro sentence edits word edited
  have built : ofCst .standard sentence = .ok (.branch ⟨Kind.sentence, .parent⟩ [] [word]) := rfl
  have solid : sentence.Solid .standard := by
    intro node member text
    simp only [sentence, Cst.leaf, Cst.subtrees, Cst.subtreesAll, List.append_nil, List.mem_cons,
      List.not_mem_nil, or_false] at member
    rcases member with rfl | rfl
    · cases text
    · rfl
  have read : (Store.empty.after edits).treeWithin 2 0 = some edited := rfl
  have known : edited.Known .standard := by
    refine known_branch.mpr ⟨rfl, fun part member => ?_⟩
    rcases List.mem_singleton.mp member with rfl
    intro part member
    simp only [word, subtrees, List.mem_singleton] at member
    rw [member]
    rfl
  exact ⟨built, solid, (build_write_inverse .standard).1 sentence _ built solid, read, known,
    (build_write_inverse .standard).2 edits 2 0 edited read known⟩

end Tree
end Prose

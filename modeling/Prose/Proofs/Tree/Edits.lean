import Prose.Proofs.Tree.Shape
import Prose.Store

namespace Prose

/-!
# Edits

Nodes are made, put below each other, taken out, and given texts and annotations.  Whatever is done to
the nodes of a store, each of them keeps the sort of content that the shape of its own type asks for: a
new node holds that sort, and no edit replaces one sort by the other.  So a tree that is read from an
edited store has children at its parent types and texts at its text types.
-/

namespace Node

variable {χ : Type}

theorem wellShaped_create (type : NodeType) : (create type : Node χ).WellShaped := by
  cases shape : type.shape with
  | parent => simp only [create, shape, WellShaped]
  | text => simp only [create, shape, WellShaped]

/-- A node has become another one.  Its type is the old one, and so is the sort of its content. -/
structure Alters (node changed : Node χ) : Prop where
  type : changed.type = node.type
  wellShaped : node.WellShaped → changed.WellShaped

theorem alters_append {node changed : Node χ} {child : χ} (done : node.append child = .ok changed) :
    node.Alters changed := by
  rcases node with ⟨type, content, data⟩
  cases content <;> cases done
  exact ⟨rfl, fun shaped => shaped⟩

theorem alters_prepend {node changed : Node χ} {child : χ} (done : node.prepend child = .ok changed) :
    node.Alters changed := by
  rcases node with ⟨type, content, data⟩
  cases content <;> cases done
  exact ⟨rfl, fun shaped => shaped⟩

theorem alters_setText {node changed : Node χ} {value : String}
    (done : node.setText value = .ok changed) : node.Alters changed := by
  rcases node with ⟨type, content, data⟩
  cases content <;> cases done
  exact ⟨rfl, fun shaped => shaped⟩

theorem alters_remove {node changed : Node χ} {child : χ} {index : Nat}
    (done : node.remove index = some (child, changed)) : node.Alters changed := by
  rcases node with ⟨type, content, data⟩
  cases content with
  | text value => cases done
  | children nodes =>
      rcases Option.map_eq_some_iff.mp done with ⟨_, _, pair⟩
      cases pair
      exact ⟨rfl, fun shaped => shaped⟩

end Node

namespace Store

/-- What may be done to a store.  A node is made of a type that some model has at the time, alone or as
part of a tree that is built over the model.  The annotations of a node may be changed in any way. -/
inductive Edit where
  | create (model : Model) (type : String)
  | load (model : Model) (cst : Cst)
  | append (parent child : Ref)
  | prepend (parent child : Ref)
  | remove (parent : Ref) (index : Nat)
  | setText (node : Ref) (text : String)
  | annotate (node : Ref) (change : Json.Fields → Json.Fields)

/-- The store that an operation gives; the old one if it fails. -/
def orElse (store : Store) : Except Error Store → Store
  | .ok changed => changed
  | .error _ => store

/-- The store after an edit.  An edit that fails leaves it as it was. -/
def apply (store : Store) : Edit → Store
  | .create model type => store.orElse ((store.create model type).map Prod.fst)
  | .load model cst => store.orElse ((Tree.ofCst model cst).map fun tree => (store.plant tree).1)
  | .append parent child => store.orElse (store.edit parent (·.append child))
  | .prepend parent child => store.orElse (store.edit parent (·.prepend child))
  | .remove parent index =>
    match (store.get? parent).bind (·.remove index) with
    | some (_, node) => store.set parent node
    | none => store
  | .setText node text => store.orElse (store.edit node (·.setText text))
  | .annotate node change =>
    store.orElse (store.edit node fun node => .ok { node with data := change node.data })

def after (store : Store) (edits : List Edit) : Store := edits.foldl apply store

/-- What an edit can make of a store: nothing new, a new node, the nodes of a tree, or another node in
the place of one. -/
inductive Edited (store : Store) : Store → Prop where
  | same : Edited store store
  | made (type : NodeType) : Edited store (store.add (Node.create type)).1
  | planted {tree : Tree} (shaped : tree.WellShaped) : Edited store (store.plant tree).1
  | altered {ref : Ref} {node changed : Node Ref} (found : store.get? ref = some node)
      (alters : node.Alters changed) : Edited store (store.set ref changed)

variable {store : Store}

/-- A change of one node, if it does not fail, puts another node in its place. -/
theorem edited_edit {ref : Ref} {change : Node Ref → Except Error (Node Ref)}
    (alters : ∀ node changed, change node = .ok changed → node.Alters changed) :
    Edited store (store.orElse (store.edit ref change)) := by
  unfold Store.edit
  cases found : store.get? ref with
  | none => exact .same
  | some node =>
      cases done : change node with
      | error error =>
          simp only [done]
          exact .same
      | ok changed =>
          simp only [done]
          exact .altered found (alters node changed done)

theorem edited_apply (store : Store) (edit : Edit) : Edited store (store.apply edit) := by
  cases edit with
  | create model type =>
      rw [Store.apply, Store.create]
      cases model.resolve type with
      | error error => exact .same
      | ok type => exact .made type
  | load model cst =>
      rw [Store.apply]
      cases built : Tree.ofCst model cst with
      | error error => exact .same
      | ok tree => exact .planted (Tree.wellShaped_of_ofCst cst built)
  | append parent child => exact edited_edit fun _ _ => Node.alters_append
  | prepend parent child => exact edited_edit fun _ _ => Node.alters_prepend
  | setText node text => exact edited_edit fun _ _ => Node.alters_setText
  | annotate node change =>
      refine edited_edit fun node changed done => ?_
      cases done
      exact ⟨rfl, fun shaped => shaped⟩
  | remove parent index =>
      rw [Store.apply]
      cases done : (store.get? parent).bind (·.remove index) with
      | none => exact .same
      | some pair =>
          rcases Option.bind_eq_some_iff.mp done with ⟨node, found, removed⟩
          exact .altered found (Node.alters_remove removed)

/-! ## Sorts of content -/

/-- Every node has the sort of content that its type asks for. -/
def WellShaped (store : Store) : Prop := ∀ ref node, store.get? ref = some node → node.WellShaped

theorem wellShaped_empty : empty.WellShaped := by
  intro ref node found
  simp [empty, get?] at found

theorem WellShaped.add (shaped : store.WellShaped) {node : Node Ref} (fresh : node.WellShaped) :
    (store.add node).1.WellShaped := by
  intro ref other found
  rw [Store.add, get?, Array.getElem?_push] at found
  split at found
  · cases found
    exact fresh
  · exact shaped ref other found

theorem WellShaped.set (shaped : store.WellShaped) (ref : Ref) {node : Node Ref}
    (changed : node.WellShaped) : (store.set ref node).WellShaped := by
  intro place other found
  rw [Store.set, get?, Array.getElem?_setIfInBounds] at found
  split at found
  · split at found
    · cases found
      exact changed
    · cases found
  · exact shaped place other found

/-! ## Trees in a store -/

mutual

/-- A store takes in a tree whose nodes have the right sorts of content. -/
theorem WellShaped.plant : ∀ (tree : Tree) {store : Store}, store.WellShaped → tree.WellShaped →
    (store.plant tree).1.WellShaped
  | .leaf type data value, store, shaped, fresh => by
      rw [Store.plant]
      exact shaped.add (Tree.wellShaped_leaf.mp fresh)
  | .branch type data trees, store, shaped, fresh => by
      rw [Tree.wellShaped_branch] at fresh
      rw [Store.plant]
      exact (WellShaped.plantAll trees shaped fresh.2).add fresh.1

theorem WellShaped.plantAll : ∀ (trees : List Tree) {store : Store}, store.WellShaped →
    (∀ tree ∈ trees, tree.WellShaped) → (store.plantAll trees).1.WellShaped
  | [], store, shaped, _ => by
      rw [Store.plantAll]
      exact shaped
  | tree :: rest, store, shaped, fresh => by
      rw [List.forall_mem_cons] at fresh
      rw [Store.plantAll]
      exact WellShaped.plantAll rest (WellShaped.plant tree shaped fresh.1) fresh.2

end

/-- What is read from several places is read from one of them each. -/
theorem exists_of_mapM {α β : Type} {read : α → Option β} {places : List α} {found : List β}
    (all : places.mapM read = some found) : ∀ item ∈ found, ∃ place ∈ places, read place = some item := by
  induction places generalizing found with
  | nil =>
      cases all
      nofun
  | cons place rest inductionHypothesis =>
      rw [List.mapM_cons] at all
      rcases Option.bind_eq_some_iff.mp all with ⟨first, here, further⟩
      rcases Option.bind_eq_some_iff.mp further with ⟨others, there, whole⟩
      cases whole
      rw [List.forall_mem_cons]
      refine ⟨⟨place, List.mem_cons_self, here⟩, fun item member => ?_⟩
      rcases inductionHypothesis there item member with ⟨other, inside, same⟩
      exact ⟨other, List.mem_cons_of_mem _ inside, same⟩

/-- A tree that is read from a well-shaped store is well shaped. -/
theorem WellShaped.treeWithin (shaped : store.WellShaped) (depth : Nat) {ref : Ref} {tree : Tree}
    (read : store.treeWithin depth ref = some tree) : tree.WellShaped := by
  induction depth generalizing ref tree with
  | zero => cases read
  | succ depth inductionHypothesis =>
      rw [Store.treeWithin] at read
      cases found : store.get? ref with
      | none => rw [found] at read; cases read
      | some node =>
          have here := shaped ref node found
          rcases node with ⟨type, content, data⟩
          rw [found] at read
          cases content with
          | text value =>
              cases read
              exact Tree.wellShaped_leaf.mpr here
          | children refs =>
              rcases Option.map_eq_some_iff.mp read with ⟨trees, all, rfl⟩
              refine Tree.wellShaped_branch.mpr ⟨here, fun part member => ?_⟩
              rcases exists_of_mapM all part member with ⟨place, _, below⟩
              exact inductionHypothesis below

/-! ## What edits keep -/

theorem Edited.wellShaped {after : Store} (edited : Edited store after) (shaped : store.WellShaped) :
    after.WellShaped := by
  cases edited with
  | same => exact shaped
  | made type => exact shaped.add (Node.wellShaped_create type)
  | planted fresh => exact WellShaped.plant _ shaped fresh
  | @altered ref node _ found alters =>
      exact shaped.set ref (alters.wellShaped (shaped ref node found))

/-- An edit keeps a store well shaped. -/
theorem WellShaped.apply (shaped : store.WellShaped) (edit : Edit) : (store.apply edit).WellShaped :=
  (edited_apply store edit).wellShaped shaped

theorem wellShaped_after (edits : List Edit) : (empty.after edits).WellShaped := by
  have run : ∀ store : Store, store.WellShaped → (store.after edits).WellShaped := by
    induction edits with
    | nil => exact fun store shaped => shaped
    | cons edit rest inductionHypothesis =>
        exact fun store shaped => inductionHypothesis (store.apply edit) (shaped.apply edit)
  exact run empty wellShaped_empty

end Store
end Prose

import Mathlib.Data.List.Nodup
import Mathlib.Data.List.Perm.Subperm
import Prose.Proofs.Tree.Overwrite

namespace Prose
namespace Store

/-!
# Trees that stand in a store

`Holds` says which nodes of a store a tree is read from: one reference for each of its nodes, in document
order.  A tree is unshared if no reference comes twice among them.  Such a tree is what is read from the
store, however deep it is, since it cannot have more nodes than there are.

Every tree can be put into a store so that it is unshared.
-/

mutual

/-- A tree stands below a reference.  Its nodes are listed, each in front of those below it. -/
inductive Holds (store : Store) : Ref → List Ref → Tree → Prop where
  | leaf {ref : Ref} {type : NodeType} {data : Json.Fields} {value : String}
      (found : store.get? ref = some ⟨type, .text value, data⟩) :
      Holds store ref [ref] (.leaf type data value)
  | branch {ref : Ref} {children below : List Ref} {type : NodeType} {data : Json.Fields}
      {trees : List Tree} (found : store.get? ref = some ⟨type, .children children, data⟩)
      (all : HoldsAll store children below trees) :
      Holds store ref (ref :: below) (.branch type data trees)

/-- Trees stand below several references, one below each. -/
inductive HoldsAll (store : Store) : List Ref → List Ref → List Tree → Prop where
  | nil : HoldsAll store [] [] []
  | cons {ref : Ref} {rest here below : List Ref} {tree : Tree} {trees : List Tree}
      (first : Holds store ref here tree) (others : HoldsAll store rest below trees) :
      HoldsAll store (ref :: rest) (here ++ below) (tree :: trees)

end

/-- A tree stands below a reference, and each of its nodes has one place in it. -/
structure Unshared (store : Store) (ref : Ref) (refs : List Ref) (tree : Tree) : Prop where
  holds : store.Holds ref refs tree
  nodup : refs.Nodup

variable {store after : Store} {ref : Ref} {refs children : List Ref} {tree : Tree}
  {trees : List Tree}

/-! ## The nodes of a tree -/

mutual

/-- There is one reference for each node. -/
theorem Holds.length : ∀ (tree : Tree) {ref : Ref} {refs : List Ref}, store.Holds ref refs tree →
    refs.length = tree.subtrees.length
  | .leaf type data value, ref, refs, holds => by
      cases holds
      rw [Tree.subtrees, List.length_singleton, List.length_singleton]
  | .branch type data trees, ref, refs, holds => by
      cases holds with
      | branch found all =>
          rw [Tree.subtrees, List.length_cons, List.length_cons, HoldsAll.length trees all]

theorem HoldsAll.length : ∀ (trees : List Tree) {children refs : List Ref},
    store.HoldsAll children refs trees → refs.length = (Tree.subtreesAll trees).length
  | [], children, refs, holds => by
      cases holds
      rfl
  | tree :: rest, children, refs, holds => by
      cases holds with
      | cons first others =>
          rw [Tree.subtreesAll, List.length_append, List.length_append, Holds.length tree first,
            HoldsAll.length rest others]

end

mutual

/-- The references are those of nodes. -/
theorem Holds.lt_size : ∀ (tree : Tree) {ref : Ref} {refs : List Ref}, store.Holds ref refs tree →
    ∀ other ∈ refs, other < store.nodes.size
  | .leaf type data value, ref, refs, holds => by
      cases holds with
      | leaf found =>
          rw [List.forall_mem_singleton]
          exact (Array.getElem?_eq_some_iff.mp found).1
  | .branch type data trees, ref, refs, holds => by
      cases holds with
      | branch found all =>
          rw [List.forall_mem_cons]
          exact ⟨(Array.getElem?_eq_some_iff.mp found).1, HoldsAll.lt_size trees all⟩

theorem HoldsAll.lt_size : ∀ (trees : List Tree) {children refs : List Ref},
    store.HoldsAll children refs trees → ∀ other ∈ refs, other < store.nodes.size
  | [], children, refs, holds => by
      cases holds
      nofun
  | tree :: rest, children, refs, holds => by
      cases holds with
      | cons first others =>
          rw [List.forall_mem_append]
          exact ⟨Holds.lt_size tree first, HoldsAll.lt_size rest others⟩

end

/-- An unshared tree does not have more nodes than the store. -/
theorem Unshared.length_le (unshared : store.Unshared ref refs tree) :
    refs.length ≤ store.nodes.size := by
  have inside : refs ⊆ List.range store.nodes.size := fun other member =>
    List.mem_range.mpr (unshared.holds.lt_size tree other member)
  have fits := (List.subperm_of_subset unshared.nodup inside).length_le
  rwa [List.length_range] at fits

/-! ## Reading a tree -/

mutual

/-- A tree is read from the nodes that it stands on, if enough levels are looked at. -/
theorem Holds.treeWithin : ∀ (tree : Tree) {ref : Ref} {refs : List Ref} {depth : Nat},
    store.Holds ref refs tree → refs.length ≤ depth → store.treeWithin depth ref = some tree
  | .leaf type data value, ref, refs, depth, holds, enough => by
      cases holds with
      | leaf found =>
          cases depth with
          | zero => exact absurd enough (by simp)
          | succ depth => rw [Store.treeWithin, found]
  | .branch type data trees, ref, refs, depth, holds, enough => by
      cases holds with
      | branch found all =>
          cases depth with
          | zero => exact absurd enough (by simp)
          | succ depth =>
              rw [List.length_cons, Nat.add_le_add_iff_right] at enough
              rw [Store.treeWithin, found]
              simp only [HoldsAll.treeWithin trees all enough, Option.map_some]

theorem HoldsAll.treeWithin : ∀ (trees : List Tree) {children refs : List Ref} {depth : Nat},
    store.HoldsAll children refs trees → refs.length ≤ depth →
      children.mapM (store.treeWithin depth) = some trees
  | [], children, refs, depth, holds, _ => by
      cases holds
      rfl
  | tree :: rest, children, refs, depth, holds, enough => by
      cases holds with
      | cons first others =>
          rw [List.length_append] at enough
          rw [List.mapM_cons, Holds.treeWithin tree first (by omega),
            HoldsAll.treeWithin rest others (by omega)]
          rfl

end

/-- An unshared tree is the tree that is read from the store. -/
theorem Unshared.tree? (unshared : store.Unshared ref refs tree) : store.tree? ref = some tree :=
  unshared.holds.treeWithin tree (Nat.le_succ_of_le unshared.length_le)

/-! ## Stores that agree -/

mutual

/-- A tree stands in every store that has the same nodes for it. -/
theorem Holds.congr : ∀ (tree : Tree) {ref : Ref} {refs : List Ref}, store.Holds ref refs tree →
    (∀ other ∈ refs, after.get? other = store.get? other) → after.Holds ref refs tree
  | .leaf type data value, ref, refs, holds, same => by
      cases holds with
      | leaf found => exact .leaf ((same ref (List.mem_singleton_self ref)).trans found)
  | .branch type data trees, ref, refs, holds, same => by
      cases holds with
      | branch found all =>
          rw [List.forall_mem_cons] at same
          exact .branch (same.1.trans found) (HoldsAll.congr trees all same.2)

theorem HoldsAll.congr : ∀ (trees : List Tree) {children refs : List Ref},
    store.HoldsAll children refs trees → (∀ other ∈ refs, after.get? other = store.get? other) →
      after.HoldsAll children refs trees
  | [], children, refs, holds, _ => by
      cases holds
      exact .nil
  | tree :: rest, children, refs, holds, same => by
      cases holds with
      | cons first others =>
          rw [List.forall_mem_append] at same
          exact .cons (Holds.congr tree first same.1) (HoldsAll.congr rest others same.2)

end

/-! ## Planted trees -/

theorem get?_add_of_lt {other : Ref} (old : other < store.nodes.size) (node : Node Ref) :
    (store.add node).1.get? other = store.get? other := by
  rw [add, get?, Array.getElem?_push_lt old, get?, Array.getElem?_eq_getElem old]

theorem get?_add_self (store : Store) (node : Node Ref) :
    (store.add node).1.get? store.nodes.size = some node :=
  Array.getElem?_push_size

/-- A store has grown: the nodes that it had are as they were. -/
structure Grown (store after : Store) : Prop where
  size : store.nodes.size ≤ after.nodes.size
  kept : ∀ other, other < store.nodes.size → after.get? other = store.get? other

theorem Grown.refl (store : Store) : Grown store store := ⟨Nat.le_refl _, fun _ _ => rfl⟩

theorem Grown.trans {first second third : Store} (one : Grown first second)
    (two : Grown second third) : Grown first third where
  size := Nat.le_trans one.size two.size
  kept other old := (two.kept other (Nat.lt_of_lt_of_le old one.size)).trans (one.kept other old)

theorem grown_add (store : Store) (node : Node Ref) : Grown store (store.add node).1 where
  size := by rw [add, Array.size_push]; exact Nat.le_succ _
  kept _ old := get?_add_of_lt old node

/-- The new nodes of a store, and no others, carry a tree. -/
structure Fresh (store after : Store) (refs : List Ref) : Prop where
  grown : Grown store after
  fresh : ∀ other ∈ refs, store.nodes.size ≤ other
  nodup : refs.Nodup

mutual

/-- A tree that is planted stands on new nodes of its own. -/
theorem planted : ∀ (tree : Tree) (store : Store), ∃ refs,
    (store.plant tree).1.Holds (store.plant tree).2 refs tree ∧ Fresh store (store.plant tree).1 refs
  | .leaf type data value, store => by
      rw [plant]
      exact ⟨[store.nodes.size], .leaf (get?_add_self store _), grown_add store _,
        List.forall_mem_singleton.mpr (Nat.le_refl _), List.nodup_singleton _⟩
  | .branch type data trees, store => by
      rcases plantedAll trees store with ⟨below, holds, fresh⟩
      rw [plant]
      generalize store.plantAll trees = built at holds fresh
      rcases built with ⟨middle, children⟩
      have old : ∀ other ∈ below, other < middle.nodes.size := holds.lt_size trees
      refine ⟨middle.nodes.size :: below, .branch (get?_add_self middle _) ?_,
        fresh.grown.trans (grown_add middle _), ?_, ?_⟩
      · exact holds.congr trees fun other member => get?_add_of_lt (old other member) _
      · rw [List.forall_mem_cons]
        exact ⟨fresh.grown.size, fresh.fresh⟩
      · refine List.nodup_cons.mpr ⟨fun member => ?_, fresh.nodup⟩
        exact Nat.lt_irrefl _ (old _ member)

theorem plantedAll : ∀ (trees : List Tree) (store : Store), ∃ refs,
    (store.plantAll trees).1.HoldsAll (store.plantAll trees).2 refs trees ∧
      Fresh store (store.plantAll trees).1 refs
  | [], store => by
      rw [plantAll]
      exact ⟨[], .nil, Grown.refl store, nofun, List.nodup_nil⟩
  | tree :: rest, store => by
      rcases planted tree store with ⟨here, holds, fresh⟩
      rcases plantedAll rest (store.plant tree).1 with ⟨below, holdsAll, freshAll⟩
      rw [plantAll]
      have old : ∀ other ∈ here, other < (store.plant tree).1.nodes.size := holds.lt_size tree
      refine ⟨here ++ below, .cons ?_ holdsAll, fresh.grown.trans freshAll.grown, ?_, ?_⟩
      · exact holds.congr tree fun other member => freshAll.grown.kept other (old other member)
      · rw [List.forall_mem_append]
        exact ⟨fresh.fresh, fun other member =>
          Nat.le_trans fresh.grown.size (freshAll.fresh other member)⟩
      · refine List.nodup_append'.mpr ⟨fresh.nodup, freshAll.nodup, fun other member new => ?_⟩
        exact Nat.not_le_of_lt (old other member) (freshAll.fresh other new)

end

/-- A tree that is planted is unshared. -/
theorem unshared_plant (store : Store) (tree : Tree) :
    ∃ refs, (store.plant tree).1.Unshared (store.plant tree).2 refs tree := by
  rcases planted tree store with ⟨refs, holds, fresh⟩
  exact ⟨refs, holds, fresh.nodup⟩

end Store
end Prose

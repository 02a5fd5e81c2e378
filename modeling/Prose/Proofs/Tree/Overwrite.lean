import Prose.Proofs.Tree.Edits
import Prose.Proofs.Tree.Positions
import Prose.Store

namespace Prose
namespace Store

/-!
# Overwriting nodes

The nodes below a reference are overwritten with a tree of the same form.  That changes texts and
annotations, but no links between nodes: every node below the reference is written, all others stay as
they are, and what is below what does not change on the way.

No tree is read where a node is below itself, so the root of a tree is written once.
-/

/-- The children of a node, if there is a node. -/
def links (store : Store) (ref : Ref) : Option (List Ref) := (store.get? ref).map Node.children

/-- A reference is another one or below it. -/
inductive Below (links : Ref → Option (List Ref)) : Ref → Ref → Prop where
  | here (ref : Ref) : Below links ref ref
  | child {ref child other : Ref} {refs : List Ref} (linked : links ref = some refs)
      (member : child ∈ refs) (below : Below links child other) : Below links ref other

mutual

/-- What is below a reference has the form of a tree. -/
def Fits (links : Ref → Option (List Ref)) (ref : Ref) : Tree → Prop
  | .leaf .. => links ref = some []
  | .branch _ _ trees => ∃ refs, links ref = some refs ∧ FitsAll links refs trees

def FitsAll (links : Ref → Option (List Ref)) (refs : List Ref) : List Tree → Prop
  | [] => refs = []
  | tree :: trees => ∃ ref rest, refs = ref :: rest ∧ Fits links ref tree ∧ FitsAll links rest trees

end

/-- There is a node, and its annotations are of some sort. -/
def Marked (store : Store) (good : Json.Fields → Prop) (ref : Ref) : Prop :=
  ∃ node, store.get? ref = some node ∧ good node.data

variable {store : Store} {links : Ref → Option (List Ref)} {ref other : Ref} {node changed : Node Ref}
  {tree : Tree} {good : Json.Fields → Prop}

/-! ## One node -/

theorem get?_set_self (found : store.get? ref = some node) (changed : Node Ref) :
    (store.set ref changed).get? ref = some changed := by
  have inside : ref < store.nodes.size := (Array.getElem?_eq_some_iff.mp found).1
  exact Array.getElem?_setIfInBounds_self_of_lt inside

theorem get?_set_of_ne (different : ref ≠ other) (changed : Node Ref) :
    (store.set ref changed).get? other = store.get? other :=
  Array.getElem?_setIfInBounds_ne different

theorem links_set (found : store.get? ref = some node) (same : changed.children = node.children) :
    (store.set ref changed).links = store.links := by
  funext other
  by_cases here : ref = other
  · subst here
    rw [Store.links, get?_set_self found, Store.links, found, Option.map_some, Option.map_some, same]
  · rw [Store.links, get?_set_of_ne here, Store.links]

theorem Marked.set (marked : store.Marked good other) (fresh : good changed.data) :
    (store.set ref changed).Marked good other := by
  rcases marked with ⟨node, found, old⟩
  by_cases here : ref = other
  · subst here
    exact ⟨changed, get?_set_self found changed, fresh⟩
  · exact ⟨node, (get?_set_of_ne here changed).trans found, old⟩

/-! ## Forms -/

theorem fits_branch {type : NodeType} {data : Json.Fields} {trees : List Tree} :
    Fits links ref (.branch type data trees) ↔
      ∃ refs, links ref = some refs ∧ FitsAll links refs trees := by
  rw [Fits]

theorem fitsAll_cons {refs : List Ref} {trees : List Tree} :
    FitsAll links refs (tree :: trees) ↔
      ∃ ref rest, refs = ref :: rest ∧ Fits links ref tree ∧ FitsAll links rest trees := by
  rw [FitsAll]

theorem not_fitsAll_nil_cons {trees : List Tree} : ¬ FitsAll links [] (tree :: trees) := by
  intro fits
  rcases fitsAll_cons.mp fits with ⟨_, _, split, _⟩
  cases split

/-- A tree that is read from a store has the form of what it is read from. -/
theorem fits_of_treeWithin {depth : Nat} (read : store.treeWithin depth ref = some tree) :
    Fits store.links ref tree := by
  induction depth generalizing ref tree with
  | zero => cases read
  | succ depth inductionHypothesis =>
      have all : ∀ {refs : List Ref} {trees : List Tree},
          refs.mapM (store.treeWithin depth) = some trees → FitsAll store.links refs trees := by
        intro refs
        induction refs with
        | nil =>
            rintro trees ⟨⟩
            rfl
        | cons first rest further =>
            intro trees read
            rw [List.mapM_cons] at read
            rcases Option.bind_eq_some_iff.mp read with ⟨one, here, others⟩
            rcases Option.bind_eq_some_iff.mp others with ⟨more, there, whole⟩
            cases whole
            exact fitsAll_cons.mpr ⟨first, rest, rfl, inductionHypothesis here, further there⟩
      rw [treeWithin] at read
      cases found : store.get? ref with
      | none => rw [found] at read; cases read
      | some node =>
          rcases node with ⟨type, content, data⟩
          rw [found] at read
          cases content with
          | text value =>
              cases read
              rw [Fits, Store.links, found]
              rfl
          | children refs =>
              rcases Option.map_eq_some_iff.mp read with ⟨trees, below, rfl⟩
              exact fits_branch.mpr ⟨refs, by rw [Store.links, found]; rfl, all below⟩

mutual

/-- A tree with positions has the form that it has without them. -/
theorem Fits.positionFrom : ∀ (start : Nat) (tree : Tree) {ref : Ref}, Fits links ref tree →
    Fits links ref (tree.positionFrom start).1
  | start, .leaf type data value, ref, fits => by
      rw [Tree.positionFrom, Fits]
      rwa [Fits] at fits
  | start, .branch type data trees, ref, fits => by
      rcases fits_branch.mp fits with ⟨refs, linked, all⟩
      rw [Tree.positionFrom_branch]
      exact fits_branch.mpr ⟨refs, linked, FitsAll.positionAll start trees all⟩

theorem FitsAll.positionAll : ∀ (start : Nat) (trees : List Tree) {refs : List Ref},
    FitsAll links refs trees → FitsAll links refs (Tree.positionAll start trees).1
  | start, [], refs, fits => by rwa [Tree.positionAll]
  | start, tree :: rest, refs, fits => by
      rcases fitsAll_cons.mp fits with ⟨first, others, split, here, further⟩
      rw [Tree.positionAll_cons]
      exact fitsAll_cons.mpr ⟨first, others, split, Fits.positionFrom start tree here,
        FitsAll.positionAll _ rest further⟩

end

/-! ## What is not below itself -/

mutual

/-- What is below a reference has the forms of trees of one size only. -/
theorem Fits.size_eq : ∀ (tree : Tree) {ref : Ref} {other : Tree}, Fits links ref tree →
    Fits links ref other → other.subtrees.length = tree.subtrees.length
  | .leaf type data value, ref, .leaf .., fits, fits' => by rw [Tree.subtrees, Tree.subtrees]; rfl
  | .leaf type data value, ref, .branch _ _ trees, fits, fits' => by
      rw [Fits] at fits
      rcases fits_branch.mp fits' with ⟨refs, linked, all⟩
      rw [fits] at linked
      cases linked
      cases trees with
      | nil => rw [Tree.subtrees, Tree.subtrees, Tree.subtreesAll]; rfl
      | cons tree rest => exact absurd all not_fitsAll_nil_cons
  | .branch type data trees, ref, .leaf .., fits, fits' => by
      rw [Fits] at fits'
      rcases fits_branch.mp fits with ⟨refs, linked, all⟩
      rw [fits'] at linked
      cases linked
      cases trees with
      | nil => rw [Tree.subtrees, Tree.subtrees, Tree.subtreesAll]; rfl
      | cons tree rest => exact absurd all not_fitsAll_nil_cons
  | .branch type data trees, ref, .branch _ _ others, fits, fits' => by
      rcases fits_branch.mp fits with ⟨refs, linked, all⟩
      rcases fits_branch.mp fits' with ⟨refs', linked', all'⟩
      rw [linked] at linked'
      cases linked'
      rw [Tree.subtrees, Tree.subtrees, List.length_cons, List.length_cons,
        FitsAll.size_eq trees all all']

theorem FitsAll.size_eq : ∀ (trees : List Tree) {refs : List Ref} {others : List Tree},
    FitsAll links refs trees → FitsAll links refs others →
      (Tree.subtreesAll others).length = (Tree.subtreesAll trees).length
  | [], refs, [], _, _ => rfl
  | [], refs, tree :: rest, fits, fits' => by
      rw [FitsAll] at fits
      exact absurd (fits ▸ fits') not_fitsAll_nil_cons
  | tree :: rest, refs, [], fits, fits' => by
      rw [FitsAll] at fits'
      exact absurd (fits' ▸ fits) not_fitsAll_nil_cons
  | tree :: rest, refs, tree' :: rest', fits, fits' => by
      rcases fitsAll_cons.mp fits with ⟨first, others, rfl, here, further⟩
      rcases fitsAll_cons.mp fits' with ⟨_, _, ⟨⟩, here', further'⟩
      rw [Tree.subtreesAll, Tree.subtreesAll, List.length_append, List.length_append,
        Fits.size_eq tree here here', FitsAll.size_eq rest further further']

end

/-- What is below a child is smaller than what is below its parent. -/
theorem FitsAll.exists_of_mem {refs : List Ref} {trees : List Tree} (fits : FitsAll links refs trees)
    (member : ref ∈ refs) :
    ∃ part, Fits links ref part ∧ part.subtrees.length ≤ (Tree.subtreesAll trees).length := by
  induction trees generalizing refs with
  | nil =>
      rw [FitsAll] at fits
      subst fits
      cases member
  | cons tree rest inductionHypothesis =>
      rcases fitsAll_cons.mp fits with ⟨first, others, rfl, here, further⟩
      rw [Tree.subtreesAll, List.length_append]
      rcases List.mem_cons.mp member with rfl | later
      · exact ⟨tree, here, Nat.le_add_right _ _⟩
      · rcases inductionHypothesis further later with ⟨part, fits, less⟩
        exact ⟨part, fits, Nat.le_trans less (Nat.le_add_left _ _)⟩

/-- The children of a node that has the form of a tree have the forms of smaller trees. -/
theorem Fits.exists_of_child {child : Ref} {refs : List Ref} (fits : Fits links ref tree)
    (linked : links ref = some refs) (member : child ∈ refs) :
    ∃ part, Fits links child part ∧ part.subtrees.length < tree.subtrees.length := by
  cases tree with
  | leaf type data value =>
      rw [Fits, linked] at fits
      cases fits
      cases member
  | branch type data trees =>
      rcases fits_branch.mp fits with ⟨refs', linked', all⟩
      rw [linked] at linked'
      cases linked'
      rcases all.exists_of_mem member with ⟨part, here, less⟩
      exact ⟨part, here, by rw [Tree.subtrees, List.length_cons]; omega⟩

theorem Fits.exists_of_below (fits : Fits links ref tree) (below : Below links ref other) :
    ∃ part, Fits links other part ∧ part.subtrees.length ≤ tree.subtrees.length := by
  induction below generalizing tree with
  | here ref => exact ⟨tree, fits, Nat.le_refl _⟩
  | child linked member _ inductionHypothesis =>
      rcases fits.exists_of_child linked member with ⟨part, here, less⟩
      rcases inductionHypothesis here with ⟨inner, there, le⟩
      exact ⟨inner, there, by omega⟩

/-- A node that has the form of a tree is not below its children. -/
theorem Fits.not_below_child {child : Ref} {refs : List Ref} (fits : Fits links ref tree)
    (linked : links ref = some refs) (member : child ∈ refs) : ¬ Below links child ref := by
  intro below
  rcases fits.exists_of_child linked member with ⟨part, here, less⟩
  rcases here.exists_of_below below with ⟨inner, there, le⟩
  have same := Fits.size_eq tree fits there
  omega

/-! ## All nodes -/

theorem overwrite_leaf (found : store.get? ref = some node) (type : NodeType) (data : Json.Fields)
    (value : String) :
    store.overwrite ref (.leaf type data value) =
      store.set ref { node with content := .text value, data := data } := by
  rw [overwrite, found]

theorem overwrite_branch (found : store.get? ref = some node) (type : NodeType) (data : Json.Fields)
    (trees : List Tree) :
    store.overwrite ref (.branch type data trees) =
      (store.set ref { node with data := data }).overwriteAll node.children trees := by
  rw [overwrite, found]

/-- A node with links. -/
theorem exists_node_of_links {refs : List Ref} (linked : store.links ref = some refs) :
    ∃ node, store.get? ref = some node ∧ node.children = refs :=
  Option.map_eq_some_iff.mp linked

mutual

/-- Nodes stay linked as they are. -/
theorem links_overwrite : ∀ (tree : Tree) {store : Store} {ref : Ref}, Fits store.links ref tree →
    (store.overwrite ref tree).links = store.links
  | .leaf type data value, store, ref, fits => by
      rw [Fits] at fits
      rcases exists_node_of_links fits with ⟨node, found, none⟩
      rw [overwrite_leaf found]
      exact links_set found none.symm
  | .branch type data trees, store, ref, fits => by
      rcases fits_branch.mp fits with ⟨refs, linked, all⟩
      rcases exists_node_of_links linked with ⟨node, found, rfl⟩
      have same : (store.set ref { node with data := data }).links = store.links := links_set found rfl
      rw [overwrite_branch found, links_overwriteAll trees (by rwa [same]), same]

theorem links_overwriteAll : ∀ (trees : List Tree) {store : Store} {refs : List Ref},
    FitsAll store.links refs trees → (store.overwriteAll refs trees).links = store.links
  | [], store, refs, _ => by rw [overwriteAll]
  | tree :: rest, store, refs, fits => by
      rcases fitsAll_cons.mp fits with ⟨first, others, rfl, here, further⟩
      have same := links_overwrite tree here
      rw [overwriteAll, links_overwriteAll rest (by rwa [same]), same]

end

mutual

/-- A node that is not below the reference stays as it is. -/
theorem get?_overwrite_of_not_below : ∀ (tree : Tree) {store : Store} {ref : Ref},
    Fits store.links ref tree → ¬ Below store.links ref other →
      (store.overwrite ref tree).get? other = store.get? other
  | .leaf type data value, store, ref, fits, apart => by
      rw [Fits] at fits
      rcases exists_node_of_links fits with ⟨node, found, _⟩
      rw [overwrite_leaf found]
      exact get?_set_of_ne (fun same => apart (by rw [← same]; exact .here ref)) _
  | .branch type data trees, store, ref, fits, apart => by
      rcases fits_branch.mp fits with ⟨refs, linked, all⟩
      rcases exists_node_of_links linked with ⟨node, found, rfl⟩
      have same : (store.set ref { node with data := data }).links = store.links := links_set found rfl
      rw [overwrite_branch found, get?_overwriteAll_of_not_below trees (by rwa [same])]
      · exact get?_set_of_ne (fun same => apart (by rw [← same]; exact .here ref)) _
      · rw [same]
        exact fun child member below => apart (.child linked member below)

theorem get?_overwriteAll_of_not_below : ∀ (trees : List Tree) {store : Store} {refs : List Ref},
    FitsAll store.links refs trees → (∀ ref ∈ refs, ¬ Below store.links ref other) →
      (store.overwriteAll refs trees).get? other = store.get? other
  | [], store, refs, _, _ => by rw [overwriteAll]
  | tree :: rest, store, refs, fits, apart => by
      rcases fitsAll_cons.mp fits with ⟨first, others, rfl, here, further⟩
      rw [List.forall_mem_cons] at apart
      have same := links_overwrite tree here
      rw [overwriteAll, get?_overwriteAll_of_not_below rest (by rwa [same]) (by rw [same]; exact apart.2),
        get?_overwrite_of_not_below tree here apart.1]

end

mutual

/-- A node that is marked stays so if all that is written is marked. -/
theorem Marked.overwrite : ∀ (tree : Tree) {store : Store} {ref : Ref}, store.Marked good other →
    (∀ part ∈ tree.subtrees, good part.data) → (store.overwrite ref tree).Marked good other
  | .leaf type data value, store, ref, marked, fresh => by
      rw [Tree.subtrees, List.forall_mem_singleton] at fresh
      rw [Store.overwrite]
      split
      · exact marked.set fresh
      · exact marked
  | .branch type data trees, store, ref, marked, fresh => by
      rw [Tree.subtrees, List.forall_mem_cons] at fresh
      rw [Store.overwrite]
      split
      · exact Marked.overwriteAll trees (marked.set fresh.1) fresh.2
      · exact marked

theorem Marked.overwriteAll : ∀ (trees : List Tree) {store : Store} {refs : List Ref},
    store.Marked good other → (∀ part ∈ Tree.subtreesAll trees, good part.data) →
      (store.overwriteAll refs trees).Marked good other
  | [], store, refs, marked, _ => by rwa [Store.overwriteAll]
  | tree :: rest, store, [], marked, _ => by rwa [Store.overwriteAll]
  | tree :: rest, store, ref :: refs, marked, fresh => by
      rw [Tree.subtreesAll, List.forall_mem_append] at fresh
      rw [Store.overwriteAll]
      exact Marked.overwriteAll rest (Marked.overwrite tree marked fresh.1) fresh.2

end

mutual

/-- Every node below the reference is marked if all that is written is. -/
theorem marked_overwrite_of_below : ∀ (tree : Tree) {store : Store} {ref : Ref},
    Fits store.links ref tree → (∀ part ∈ tree.subtrees, good part.data) →
      Below store.links ref other → (store.overwrite ref tree).Marked good other
  | .leaf type data value, store, ref, fits, fresh, below => by
      rw [Fits] at fits
      rcases exists_node_of_links fits with ⟨node, found, _⟩
      rw [overwrite_leaf found]
      cases below with
      | here =>
          rw [Tree.subtrees, List.forall_mem_singleton] at fresh
          exact ⟨_, get?_set_self found _, fresh⟩
      | child linked member =>
          rw [fits] at linked
          cases linked
          cases member
  | .branch type data trees, store, ref, fits, fresh, below => by
      rw [Tree.subtrees, List.forall_mem_cons] at fresh
      rcases fits_branch.mp fits with ⟨refs, linked, all⟩
      rcases exists_node_of_links linked with ⟨node, found, rfl⟩
      have same : (store.set ref { node with data := data }).links = store.links := links_set found rfl
      rw [overwrite_branch found]
      cases below with
      | here => exact Marked.overwriteAll trees ⟨_, get?_set_self found _, fresh.1⟩ fresh.2
      | child linked' member below =>
          rw [linked] at linked'
          cases linked'
          exact marked_overwriteAll_of_below trees (by rwa [same]) fresh.2 member (by rwa [same])

theorem marked_overwriteAll_of_below : ∀ (trees : List Tree) {store : Store} {refs : List Ref} {ref : Ref},
    FitsAll store.links refs trees → (∀ part ∈ Tree.subtreesAll trees, good part.data) → ref ∈ refs →
      Below store.links ref other → (store.overwriteAll refs trees).Marked good other
  | [], store, refs, ref, fits, _, member, _ => by
      rw [FitsAll] at fits
      subst fits
      cases member
  | tree :: rest, store, refs, ref, fits, fresh, member, below => by
      rcases fitsAll_cons.mp fits with ⟨first, others, rfl, here, further⟩
      rw [Tree.subtreesAll, List.forall_mem_append] at fresh
      have same := links_overwrite tree here
      rw [overwriteAll]
      rcases List.mem_cons.mp member with rfl | later
      · exact Marked.overwriteAll rest (marked_overwrite_of_below tree here fresh.1 below) fresh.2
      · exact marked_overwriteAll_of_below rest (by rwa [same]) fresh.2 later (by rwa [same])

end

/-! ## Annotations -/

def annotation? (store : Store) (ref : Ref) (key : String) : Option Json :=
  (store.get? ref).bind fun node => node.data.find? key

/-- Positions are given to every node below a reference. -/
theorem annotation?_transform_withPositions (read : store.tree? ref = some tree)
    (below : Below store.links ref other) :
    ((store.transform ref Tree.withPositions).annotation? other "position").isSome := by
  have fits : Fits store.links ref tree := fits_of_treeWithin read
  have fresh : ∀ part ∈ tree.withPositions.subtrees, (part.data.find? "position").isSome := by
    intro part member
    rcases Tree.hasRange_of_mem_subtrees 0 tree part member with ⟨first, last, range⟩
    rw [range]
    rfl
  have marked : (store.overwrite ref tree.withPositions).Marked
      (fun data => (data.find? "position").isSome) other :=
    marked_overwrite_of_below _ (Fits.positionFrom 0 tree fits) fresh below
  rcases marked with ⟨node, found, good⟩
  rw [transform, read, annotation?]
  simp only [found, Option.bind_some, good]

/-- Counts are given to the root. -/
theorem annotation?_transform_withStats (read : store.tree? ref = some tree) :
    (store.transform ref Tree.withStats).annotation? ref "stats" = some (Counts.ofTree tree).toJson := by
  have fits : Fits store.links ref tree := fits_of_treeWithin read
  rw [transform, read]
  simp only [Tree.withStats]
  generalize (Counts.ofTree tree).toJson = counts
  cases tree with
  | leaf type data value =>
      rw [Fits] at fits
      rcases exists_node_of_links fits with ⟨node, found, _⟩
      rw [Tree.annotate, overwrite_leaf found, annotation?, get?_set_self found, Option.bind_some]
      exact Json.Fields.find?_insert_self _ _ _
  | branch type data trees =>
      rcases fits_branch.mp fits with ⟨refs, linked, all⟩
      rcases exists_node_of_links linked with ⟨node, found, rfl⟩
      let counted : Node Ref := { node with data := data.insert "stats" counts }
      have same : (store.set ref counted).links = store.links := links_set found rfl
      -- No child leads back to the root, so what is written there first stays.
      have kept : ((store.set ref counted).overwriteAll node.children trees).get? ref =
          (store.set ref counted).get? ref := by
        refine get?_overwriteAll_of_not_below trees (by rwa [same]) fun child member => ?_
        rw [same]
        exact fits.not_below_child linked member
      rw [Tree.annotate, overwrite_branch found, annotation?, kept, get?_set_self found,
        Option.bind_some]
      exact Json.Fields.find?_insert_self _ _ _

end Store
end Prose

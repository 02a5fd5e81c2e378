import Prose.Proofs.Plugin.Redaction
import Prose.Proofs.Tree.Skeleton

namespace Prose
namespace Store

/-!
# Transforms in a store and on trees

A stock transform that runs in a store takes an unshared tree to the tree that it makes of it, on the same
nodes, and does not touch other nodes.  It never fails there.  What is known of transforms as functions on
trees is thereby known of the transforms that run, one of them or several in turn: the store is determined
by the tree that stands in it and by the nodes around it.
-/

variable {store other after : Store} {ref : Ref} {refs : List Ref} {tree changed : Tree}

/-! ## The nodes of a tree are determined -/

mutual

/-- A tree stands on given nodes in one way only. -/
theorem Holds.unique : ∀ (tree : Tree) {ref ref' : Ref} {refs refs' : List Ref},
    store.Holds ref refs tree → other.Holds ref' refs' tree → refs = refs' →
      ref = ref' ∧ ∀ place ∈ refs, store.get? place = other.get? place
  | .leaf type data value, ref, ref', refs, refs', holds, holds', same => by
      cases holds with
      | leaf found =>
          cases holds' with
          | leaf found' =>
              cases same
              exact ⟨rfl, List.forall_mem_singleton.mpr (found.trans found'.symm)⟩
  | .branch type data trees, ref, ref', refs, refs', holds, holds', same => by
      cases holds with
      | branch found all =>
          cases holds' with
          | branch found' all' =>
              rcases List.cons_eq_cons.mp same with ⟨rfl, below⟩
              rcases HoldsAll.unique trees all all' below with ⟨rfl, agree⟩
              exact ⟨rfl, List.forall_mem_cons.mpr ⟨found.trans found'.symm, agree⟩⟩

theorem HoldsAll.unique : ∀ (trees : List Tree) {children children' refs refs' : List Ref},
    store.HoldsAll children refs trees → other.HoldsAll children' refs' trees → refs = refs' →
      children = children' ∧ ∀ place ∈ refs, store.get? place = other.get? place
  | [], children, children', refs, refs', holds, holds', _ => by
      cases holds
      cases holds'
      exact ⟨rfl, nofun⟩
  | tree :: rest, children, children', refs, refs', holds, holds', same => by
      cases holds with
      | cons first others =>
          cases holds' with
          | cons first' others' =>
              have length := (first.length tree).trans (first'.length tree).symm
              rcases List.append_inj same length with ⟨here, below⟩
              rcases Holds.unique tree first first' here with ⟨rfl, agree⟩
              rcases HoldsAll.unique rest others others' below with ⟨rfl, agreeAll⟩
              exact ⟨rfl, List.forall_mem_append.mpr ⟨agree, agreeAll⟩⟩

end

/-! ## One tree in place of another -/

/-- A tree stands in a store on some nodes, and all other nodes are those of another store. -/
structure Turned (ref : Ref) (refs : List Ref) (tree : Tree) (store after : Store) : Prop where
  unshared : after.Unshared ref refs tree
  outside : ∀ other, other ∉ refs → after.get? other = store.get? other

theorem Turned.unique (one : Turned ref refs tree store after) (two : Turned ref refs tree store other) :
    after = other := by
  refine ext_get? fun place => ?_
  by_cases member : place ∈ refs
  · exact (one.unshared.holds.unique tree two.unshared.holds rfl).2 place member
  · rw [one.outside place member, two.outside place member]

theorem Turned.trans (first : Turned ref refs tree store other)
    (second : Turned ref refs changed other after) : Turned ref refs changed store after where
  unshared := second.unshared
  outside place absent := (second.outside place absent).trans (first.outside place absent)

theorem Changes.turned {edit : String → Tree.Edit} (changes : Changes (Node.editWord edit) refs store after)
    (unshared : store.Unshared ref refs tree) : Turned ref refs (tree.editWords edit) store after where
  unshared := unshared.editWords changes
  outside := changes.outside

mutual

/-- A tree that is overwritten by one with the same skeleton gives way to it. -/
theorem Holds.overwrite : ∀ (changed tree : Tree) {store : Store} {ref : Ref} {refs : List Ref},
    store.Holds ref refs tree → refs.Nodup → changed.skeleton = tree.skeleton →
      (store.overwrite ref changed).Holds ref refs changed ∧
        ∀ other, other ∉ refs → (store.overwrite ref changed).get? other = store.get? other
  | .leaf type data value, .leaf type' _ _, store, ref, refs, holds, _, same => by
      rw [Tree.skeleton, Tree.skeleton] at same
      cases same
      cases holds with
      | leaf found =>
          rw [overwrite_leaf found]
          refine ⟨.leaf (get?_set_self found _), fun other absent => ?_⟩
          exact get?_set_of_ne (fun here => absent (List.mem_singleton.mpr here.symm)) _
  | .leaf .., .branch .., _, _, _, _, _, same => by
      rw [Tree.skeleton, Tree.skeleton] at same
      cases same
  | .branch .., .leaf .., _, _, _, _, _, same => by
      rw [Tree.skeleton, Tree.skeleton] at same
      cases same
  | .branch type data changed, .branch type' _ trees, store, ref, refs, holds, nodup, same => by
      rw [Tree.skeleton, Tree.skeleton] at same
      injection same with types _ below
      subst types
      cases holds with
      | @branch _ children inner _ old _ found all =>
          rcases List.nodup_cons.mp nodup with ⟨apart, distinct⟩
          rw [overwrite_branch found]
          let start := store.set ref ⟨type, .children children, data⟩
          -- The root is written first.  It is none of the nodes below it, which are as they were.
          have kept : start.HoldsAll children inner trees := by
            refine all.congr trees fun place member => get?_set_of_ne ?_ _
            exact fun here => apart (here ▸ member)
          rcases HoldsAll.overwriteAll changed trees kept distinct below with ⟨holdsAll, outside⟩
          have root : (start.overwriteAll children changed).get? ref =
              some ⟨type, .children children, data⟩ :=
            (outside ref apart).trans (get?_set_self found _)
          refine ⟨.branch root holdsAll, fun other absent => ?_⟩
          rw [List.mem_cons, not_or] at absent
          exact (outside other absent.2).trans (get?_set_of_ne (Ne.symm absent.1) _)

theorem HoldsAll.overwriteAll : ∀ (changed trees : List Tree) {store : Store}
    {children refs : List Ref}, store.HoldsAll children refs trees → refs.Nodup →
      Tree.skeletons changed = Tree.skeletons trees →
        (store.overwriteAll children changed).HoldsAll children refs changed ∧
          ∀ other, other ∉ refs → (store.overwriteAll children changed).get? other = store.get? other
  | [], [], store, children, refs, holds, _, _ => by
      cases holds
      rw [overwriteAll]
      exact ⟨.nil, fun _ _ => rfl⟩
  | [], tree :: rest, _, _, _, _, _, same => by
      rw [Tree.skeletons, Tree.skeletons] at same
      cases same
  | first :: others, [], _, _, _, _, _, same => by
      rw [Tree.skeletons, Tree.skeletons] at same
      cases same
  | first :: others, tree :: rest, store, children, refs, holds, nodup, same => by
      rw [Tree.skeletons, Tree.skeletons] at same
      injection same with here further
      cases holds with
      | @cons ref more inner below _ _ one all =>
          rcases List.nodup_append'.mp nodup with ⟨distinct, distinctAll, apart⟩
          rcases Holds.overwrite first tree one distinct here with ⟨written, outside⟩
          have kept : (store.overwrite ref first).HoldsAll more below rest :=
            all.congr rest fun place member => outside place fun inside => apart inside member
          rcases HoldsAll.overwriteAll others rest kept distinctAll further with ⟨writtenAll, outsideAll⟩
          rw [Store.overwriteAll]
          refine ⟨.cons ?_ writtenAll, fun other absent => ?_⟩
          · exact written.congr first fun place member => outsideAll place fun inside => apart member inside
          · rw [List.mem_append, not_or] at absent
            exact (outsideAll other absent.2).trans (outside other absent.1)

end

/-- A transform of trees that keeps the skeleton takes an unshared tree to the tree that it makes of it. -/
theorem turned_transform (unshared : store.Unshared ref refs tree) {change : Tree → Tree}
    (keeps : (change tree).skeleton = tree.skeleton) :
    Turned ref refs (change tree) store (store.transform ref change) := by
  rcases unshared.holds.overwrite (change tree) tree unshared.nodup keeps with ⟨holds, outside⟩
  rw [transform, unshared.tree?]
  exact ⟨⟨holds, unshared.nodup⟩, outside⟩

/-! ## Transforms that run -/

/-- Every word of an unshared tree is given its new text. -/
theorem turned_respellWords (unshared : store.Unshared ref refs tree) (spell : String → String) :
    ∃ after, store.respellWords ref spell = (after, .ok ()) ∧
      Turned ref refs (tree.editWords fun word => .replace (spell word)) store after := by
  rcases rewriteWords_unshared unshared fun word => some (spell word) with ⟨after, done, changes⟩
  exact ⟨after, by rw [respellWords, done]; rfl, changes.turned unshared⟩

/-- A stock transform takes an unshared tree to the tree that it makes of it. -/
theorem turned_run (unshared : store.Unshared ref refs tree) (transform : Stock.Transform) :
    ∃ after, store.run ref transform = (after, .ok ()) ∧
      Turned ref refs (transform.apply tree) store after := by
  cases transform with
  | position => exact ⟨_, rfl, turned_transform unshared (Tree.skeleton_positionFrom 0 tree)⟩
  | stats => exact ⟨_, rfl, turned_transform unshared (Tree.skeleton_annotate tree _ _)⟩
  | redact isMatch mask =>
      rcases changes_redactWords unshared isMatch mask with ⟨after, done, changes⟩
      exact ⟨after, done, changes.turned unshared⟩
  | uppercase => exact turned_respellWords unshared Text.Casing.upper
  | lowercase => exact turned_respellWords unshared Text.Casing.lower

/-- Take the nodes below a reference through transforms, up to the first that fails. -/
def runAll (store : Store) (ref : Ref) : List Stock.Transform → Store × Except Error Unit
  | [] => (store, .ok ())
  | transform :: rest =>
    match store.run ref transform with
    | (store, .ok ()) => runAll store ref rest
    | (store, .error error) => (store, .error error)

/-- Transforms that run in a store, one after the other, take an unshared tree to the tree that they make
of it. -/
theorem turned_runAll (unshared : store.Unshared ref refs tree) (transforms : List Stock.Transform) :
    ∃ after, store.runAll ref transforms = (after, .ok ()) ∧
      Turned ref refs (Stock.Transform.applyAll transforms tree) store after := by
  induction transforms generalizing store tree with
  | nil => exact ⟨store, rfl, unshared, fun _ _ => rfl⟩
  | cons transform rest inductionHypothesis =>
      rcases turned_run unshared transform with ⟨middle, done, first⟩
      rcases inductionHypothesis first.unshared with ⟨after, finished, further⟩
      exact ⟨after, by rw [runAll, done]; exact finished, first.trans further⟩

/-- Transforms that make one tree of a tree give one store. -/
theorem runAll_congr (unshared : store.Unshared ref refs tree) {transforms others : List Stock.Transform}
    (same : Stock.Transform.applyAll transforms tree = Stock.Transform.applyAll others tree) :
    store.runAll ref transforms = store.runAll ref others := by
  rcases turned_runAll unshared transforms with ⟨after, done, turned⟩
  rcases turned_runAll unshared others with ⟨after', done', turned'⟩
  rw [same] at turned
  rw [done, done', turned.unique turned']

end Store
end Prose

import Prose.Proofs.Tree.Positions

namespace Prose
namespace Tree

/-!
# Skeletons

The skeleton of a tree are its nodes with their types, without texts and annotations.  Neither edits of
words nor annotations change it, and words, sentences and paragraphs are counted on it.

An annotation of the root is set before or after words are edited or positions are given, if these do not
write its key.
-/

mutual

/-- A tree without texts and annotations. -/
def skeleton : Tree → Tree
  | .branch type _ children => .branch type [] (skeletons children)
  | .leaf type _ _ => .leaf type [] ""

def skeletons : List Tree → List Tree
  | [] => []
  | tree :: rest => tree.skeleton :: skeletons rest

end

/-! ## What keeps the skeleton -/

theorem skeleton_annotate (tree : Tree) (key : String) (value : Json) :
    (tree.annotate key value).skeleton = tree.skeleton := by
  cases tree <;> rw [annotate, skeleton, skeleton]

mutual

theorem skeleton_editWords (edit : String → Edit) : ∀ (tree : Tree),
    (tree.editWords edit).skeleton = tree.skeleton
  | .leaf type data value => by
      rcases editWords_leaf edit type data value with ⟨data', value', edited⟩
      rw [edited, skeleton, skeleton]
  | .branch type data trees => by
      rw [editWords, skeleton, skeleton, skeletons_editWordsAll edit trees]

theorem skeletons_editWordsAll (edit : String → Edit) : ∀ (trees : List Tree),
    skeletons (editWordsAll edit trees) = skeletons trees
  | [] => by rw [editWordsAll]
  | tree :: rest => by
      rw [editWordsAll, skeletons, skeletons, skeleton_editWords edit tree,
        skeletons_editWordsAll edit rest]

end

mutual

theorem skeleton_positionFrom : ∀ (start : Nat) (tree : Tree),
    (positionFrom start tree).1.skeleton = tree.skeleton
  | start, .leaf type data value => by rw [positionFrom, skeleton, skeleton]
  | start, .branch type data trees => by
      rw [positionFrom_branch, skeleton, skeleton, skeletons_positionAll start trees]

theorem skeletons_positionAll : ∀ (start : Nat) (trees : List Tree),
    skeletons (positionAll start trees).1 = skeletons trees
  | start, [] => by rw [positionAll]
  | start, tree :: rest => by
      rw [positionAll_cons, skeletons, skeletons, skeleton_positionFrom start tree,
        skeletons_positionAll _ rest]

end

/-! ## Counting -/

mutual

theorem types_skeleton : ∀ (tree : Tree),
    tree.skeleton.subtrees.map type = tree.subtrees.map type
  | .leaf type data value => by rw [skeleton, subtrees, subtrees]; rfl
  | .branch type data trees => by
      rw [skeleton, subtrees, subtrees, List.map_cons, List.map_cons, types_skeletons trees]
      rfl

theorem types_skeletons : ∀ (trees : List Tree),
    (subtreesAll (skeletons trees)).map type = (subtreesAll trees).map type
  | [] => by rw [skeletons]
  | tree :: rest => by
      rw [skeletons, subtreesAll, subtreesAll, List.map_append, List.map_append, types_skeleton tree,
        types_skeletons rest]

end

/-- Trees with one skeleton have as many nodes of a type. -/
theorem countP_of_skeleton {tree other : Tree} (same : tree.skeleton = other.skeleton) (name : String) :
    tree.subtrees.countP (·.is name) = other.subtrees.countP (·.is name) := by
  have types : tree.subtrees.map type = other.subtrees.map type := by
    rw [← types_skeleton tree, same, types_skeleton other]
  have counts := congrArg (List.countP fun type => type.name = name) types
  rwa [List.countP_map, List.countP_map] at counts

/-- The counts of a tree are those of a tree with the same skeleton, but for the characters. -/
theorem counts_of_skeleton {tree other : Tree} (same : tree.skeleton = other.skeleton) :
    Counts.ofTree tree = { Counts.ofTree other with characters := tree.text.length } := by
  rw [Counts.ofTree, countP_of_skeleton same, countP_of_skeleton same, countP_of_skeleton same]
  rfl

theorem counts_eq {tree other : Tree} (same : tree.skeleton = other.skeleton)
    (length : tree.text.length = other.text.length) : Counts.ofTree tree = Counts.ofTree other := by
  rw [counts_of_skeleton same, length]
  rfl

/-! ## Annotations of the root -/

/-- Words may be edited before or after the root is annotated. -/
theorem editWords_annotate {edit : String → Edit} {key : String}
    (apart : ∀ word text other mark, edit word = .replaceAndMark text other mark → other ≠ key)
    (value : Json) (tree : Tree) :
    (tree.annotate key value).editWords edit = (tree.editWords edit).annotate key value := by
  cases tree with
  | branch type data trees => rw [annotate, editWords, editWords, annotate]
  | leaf type data text =>
      rw [annotate, editWords, editWords]
      split
      · split
        · rfl
        · rfl
        · rename_i edited
          rw [annotate, Json.Fields.insert_comm (apart _ _ _ _ edited)]
      · rfl

theorem positionFrom_annotate {key : String} (apart : key ≠ "position") (value : Json) (start : Nat)
    (tree : Tree) :
    (positionFrom start (tree.annotate key value)).1 =
      (positionFrom start tree).1.annotate key value := by
  cases tree with
  | branch type data trees =>
      rw [annotate, positionFrom_branch, positionFrom_branch, annotate,
        Json.Fields.insert_comm apart.symm]
  | leaf type data text =>
      rw [annotate, positionFrom, positionFrom, annotate, Json.Fields.insert_comm apart.symm]

end Tree
end Prose

import Prose.Proofs.Plugin.Running

namespace Prose

/-!
# The order of transforms

Counts are taken of the types of nodes and of the length of the text.  Positions change neither of them,
and masking keeps the length of every word, so that counts may be taken before or after.  No transform
writes the annotation of another one, also where the root is a word and carries all of them.

Upper and lower case may change the length of a text, but not the types of nodes.
-/

namespace Tree

/-- Only the mark of an edit is set among the annotations of the root. -/
theorem find?_data_editWords {edit : String → Edit} {key : String}
    (apart : ∀ word text other mark, edit word = .replaceAndMark text other mark → other ≠ key)
    (tree : Tree) : (tree.editWords edit).data.find? key = tree.data.find? key := by
  cases isWord : tree.word? with
  | none => rw [(editWords_of_other isWord edit).1]
  | some word =>
      rw [editWords_of_word isWord]
      split
      · rfl
      · rfl
      · rename_i edited
        exact Json.Fields.find?_insert_of_ne (apart _ _ _ _ edited).symm _ _

/-- Redaction sets no other annotation than its mark. -/
theorem redact_apart {isMatch : String → Bool} {mask : Char} {key : String} (other : key ≠ "redacted")
    (word text name : String) (mark : Json)
    (marked : Edit.redact isMatch mask word = .replaceAndMark text name mark) : name ≠ key := by
  cases matching : isMatch word with
  | true =>
      rw [redact_of_match matching] at marked
      cases marked
      exact other.symm
  | false =>
      rw [redact_of_other matching] at marked
      cases marked

end Tree

namespace Stock

/-- A transform gives words texts that may have other lengths. -/
def Transform.respells : Transform → Bool
  | .uppercase | .lowercase => true
  | .position | .stats | .redact .. => false

/-! ## One transform -/

theorem skeleton_apply (transform : Transform) (tree : Tree) :
    (transform.apply tree).skeleton = tree.skeleton := by
  cases transform with
  | position => exact Tree.skeleton_positionFrom 0 tree
  | stats => exact Tree.skeleton_annotate tree _ _
  | redact isMatch mask => exact Tree.skeleton_editWords _ tree
  | uppercase => exact Tree.skeleton_editWords _ tree
  | lowercase => exact Tree.skeleton_editWords _ tree

/-- Counts may be taken before or after positions are given. -/
theorem withPositions_withStats (tree : Tree) :
    tree.withStats.withPositions = tree.withPositions.withStats := by
  have counts : Counts.ofTree tree.withPositions = Counts.ofTree tree :=
    Tree.counts_eq (Tree.skeleton_positionFrom 0 tree)
      (congrArg String.length (Tree.text_positionFrom 0 tree))
  rw [Tree.withStats, Tree.withStats, counts]
  exact Tree.positionFrom_annotate (by decide) _ 0 tree

/-- Counts may be taken before or after words are masked. -/
theorem redactWords_withStats (isMatch : String → Bool) (mask : Char) (tree : Tree) :
    tree.withStats.redactWords isMatch mask = (tree.redactWords isMatch mask).withStats := by
  have counts : Counts.ofTree (tree.redactWords isMatch mask) = Counts.ofTree tree :=
    Tree.counts_eq (Tree.skeleton_editWords _ tree)
      (Tree.length_text_editWords (Tree.keepsLengths_redact isMatch mask) tree)
  rw [Tree.withStats, Tree.withStats, counts]
  exact Tree.editWords_annotate (Tree.redact_apart (by decide)) _ tree

theorem apply_withStats {transform : Transform} (keeps : transform.respells = false) (tree : Tree) :
    transform.apply tree.withStats = (transform.apply tree).withStats := by
  cases transform with
  | position => exact withPositions_withStats tree
  | stats => rfl
  | redact isMatch mask => exact redactWords_withStats isMatch mask tree
  | uppercase => cases keeps
  | lowercase => cases keeps

/-- No other transform writes the counts. -/
theorem find?_stats_apply {transform : Transform} (other : transform ≠ .stats) (tree : Tree) :
    (transform.apply tree).data.find? "stats" = tree.data.find? "stats" := by
  cases transform with
  | position =>
      rcases Tree.positionFrom_node 0 tree with ⟨_, _, mark, data⟩
      rw [Transform.apply, Tree.withPositions, data, Json.Fields.find?_insert_of_ne (by decide)]
  | stats => exact absurd rfl other
  | redact isMatch mask => exact Tree.find?_data_editWords (Tree.redact_apart (by decide)) tree
  | uppercase => exact Tree.find?_data_editWords (fun _ _ _ _ marked => by cases marked) tree
  | lowercase => exact Tree.find?_data_editWords (fun _ _ _ _ marked => by cases marked) tree

/-! ## Several transforms -/

theorem applyAll_append (transforms others : List Transform) (tree : Tree) :
    Transform.applyAll (transforms ++ others) tree =
      Transform.applyAll others (Transform.applyAll transforms tree) :=
  List.foldl_append

theorem skeleton_applyAll (transforms : List Transform) (tree : Tree) :
    (Transform.applyAll transforms tree).skeleton = tree.skeleton := by
  induction transforms generalizing tree with
  | nil => rfl
  | cons transform rest inductionHypothesis =>
      exact (inductionHypothesis (transform.apply tree)).trans (skeleton_apply transform tree)

theorem applyAll_withStats {transforms : List Transform}
    (keep : ∀ transform ∈ transforms, transform.respells = false) (tree : Tree) :
    Transform.applyAll transforms tree.withStats = (Transform.applyAll transforms tree).withStats := by
  induction transforms generalizing tree with
  | nil => rfl
  | cons transform rest inductionHypothesis =>
      rw [List.forall_mem_cons] at keep
      calc
        Transform.applyAll (transform :: rest) tree.withStats =
            Transform.applyAll rest (transform.apply tree.withStats) := rfl
        _ = Transform.applyAll rest (transform.apply tree).withStats := by
            rw [apply_withStats keep.1]
        _ = (Transform.applyAll rest (transform.apply tree)).withStats := inductionHypothesis keep.2 _
        _ = (Transform.applyAll (transform :: rest) tree).withStats := rfl

/-- Counts that are taken on the way could be taken at the end. -/
theorem applyAll_stats (before : List Transform) {after : List Transform}
    (keep : ∀ transform ∈ after, transform.respells = false) (tree : Tree) :
    Transform.applyAll (before ++ .stats :: after) tree =
      (Transform.applyAll (before ++ after) tree).withStats := by
  rw [applyAll_append, applyAll_append]
  exact applyAll_withStats keep _

/-- A tree carries the numbers of words, sentences and paragraphs of another one. -/
def Counted (tree counted : Tree) : Prop :=
  ∃ characters, counted.data.find? "stats" =
    some { Counts.ofTree tree with characters := characters }.toJson

theorem counted_withStats {tree other : Tree} (same : other.skeleton = tree.skeleton) :
    Counted tree other.withStats := by
  refine ⟨other.text.length, ?_⟩
  rw [Tree.withStats, Tree.data_annotate, Json.Fields.find?_insert_self, Tree.counts_of_skeleton same]

/-- Whatever comes behind, the numbers stay. -/
theorem Counted.applyAll {tree other : Tree} (counted : Counted tree other)
    (same : other.skeleton = tree.skeleton) (transforms : List Transform) :
    Counted tree (Transform.applyAll transforms other) := by
  induction transforms generalizing other with
  | nil => exact counted
  | cons transform rest inductionHypothesis =>
      have kept : (transform.apply other).skeleton = tree.skeleton :=
        (skeleton_apply transform other).trans same
      refine inductionHypothesis ?_ kept
      by_cases again : transform = .stats
      · rw [again]
        exact counted_withStats same
      · rw [Counted, find?_stats_apply again]
        exact counted

theorem counted_applyAll (before after : List Transform) (tree : Tree) :
    Counted tree (Transform.applyAll (before ++ .stats :: after) tree) := by
  have same := skeleton_applyAll before tree
  rw [applyAll_append]
  exact (counted_withStats same).applyAll ((Tree.skeleton_annotate _ _ _).trans same) after

end Stock

/-! ## In a store -/

namespace Store

open Stock

/-- Two lists of transforms do the same to a tree, and to the store in which the tree stands. -/
structure Alike (store : Store) (ref : Ref) (tree : Tree) (transforms others : List Transform) : Prop where
  trees : Transform.applyAll transforms tree = Transform.applyAll others tree
  stores : store.runAll ref transforms = store.runAll ref others

/-- When counts are taken does not matter. -/
structure Interchanges (store : Store) (ref : Ref) (refs : List Ref) (tree : Tree) : Prop where
  /-- The transforms run without failure, and what they do to the tree is all that they do. -/
  runs : ∀ transforms, ∃ after, store.runAll ref transforms = (after, .ok ()) ∧
    Turned ref refs (Transform.applyAll transforms tree) store after
  redact : ∀ isMatch mask,
    store.Alike ref tree [.stats, .redact isMatch mask] [.redact isMatch mask, .stats]
  position : store.Alike ref tree [.stats, .position] [.position, .stats]
  moved : ∀ before after before' after', before ++ after = before' ++ after' →
    (∀ transform ∈ before ++ after, transform.respells = false) →
      store.Alike ref tree (before ++ .stats :: after) (before' ++ .stats :: after')
  /-- The other transforms may be of any sort here, in front and behind. -/
  counts : ∀ before after, Counted tree (Transform.applyAll (before ++ .stats :: after) tree)

variable {store : Store} {ref : Ref} {refs : List Ref} {tree : Tree}

theorem alike_of_applyAll (unshared : store.Unshared ref refs tree) {transforms others : List Transform}
    (same : Transform.applyAll transforms tree = Transform.applyAll others tree) :
    store.Alike ref tree transforms others :=
  ⟨same, runAll_congr unshared same⟩

/-- Counts may be taken anywhere among positions and redactions, and the numbers of words, sentences and
paragraphs anywhere among all transforms. -/
theorem interchanges_of_unshared (unshared : store.Unshared ref refs tree) :
    store.Interchanges ref refs tree where
  runs := turned_runAll unshared
  redact isMatch mask := alike_of_applyAll unshared (redactWords_withStats isMatch mask tree)
  position := alike_of_applyAll unshared (withPositions_withStats tree)
  moved before after before' after' same keep := by
    refine alike_of_applyAll unshared ?_
    rw [applyAll_stats before (fun transform member => keep transform (List.mem_append_right _ member)),
      applyAll_stats before' fun transform member =>
        keep transform (same ▸ List.mem_append_right _ member), same]
  counts before after := counted_applyAll before after tree

/-- A document of one sentence, in which a number is masked, stands in the store that it is planted in.
Masked first or counted first, it gets the same texts and the same counts. -/
theorem interchanges_of_unshared_sentence :
    let leaf (type text : String) : Tree := .leaf ⟨type, .text⟩ [] text
    let branch (type : String) (trees : List Tree) : Tree := .branch ⟨type, .parent⟩ [] trees
    let document : Tree := branch Kind.root [branch Kind.paragraph [branch Kind.sentence
      [leaf Kind.word "Room", leaf Kind.whiteSpace " ", leaf Kind.word "12", leaf Kind.punctuation "."]]]
    let store := (Store.empty.plant document).1
    let ref := (Store.empty.plant document).2
    let digits (word : String) : Bool := word.toList.all Char.isDigit
    let result := Transform.applyAll [.redact digits '*', .position, .stats] document
    ∃ refs, store.Unshared ref refs document ∧ store.Interchanges ref refs document ∧
      Transform.applyAll [.stats, .redact digits '*', .position] document = result ∧
      result.text = "Room **." ∧
      result.data.find? "stats" = some (Counts.toJson ⟨2, 1, 1, 8⟩) := by
  intro leaf branch document store ref digits result
  rcases unshared_plant Store.empty document with ⟨refs, unshared⟩
  have interchanges := interchanges_of_unshared unshared
  have kept : ∀ transform ∈ [Transform.redact digits '*', .position], transform.respells = false := by
    simp [Transform.respells]
  have moved := interchanges.moved [] [.redact digits '*', .position] [.redact digits '*', .position] []
    rfl kept
  exact ⟨refs, unshared, interchanges, moved.trees, by decide +kernel, by decide +kernel⟩

end Store
end Prose

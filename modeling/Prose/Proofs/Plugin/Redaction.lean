import Prose.Proofs.Plugin.Transforms
import Prose.Proofs.Tree.Positions
import Prose.Proofs.Tree.Rewriting

namespace Prose
namespace Tree

/-!
# Redaction

Words that match are masked and marked, and nothing else happens to a tree.  A masked word has as many
characters as it had before, so every other character of the text stays where it is.  Masked words may
match again; but to mask and to mark a word a second time gives nothing new.

In a store the walk over the words cannot fail for a tree whose nodes have one place each.  The types of
the nodes are arbitrary: where words are nodes with children, there is no text to be masked, and their
leaves are not words.
-/

/-- The text in front of the node at a place. -/
def front : Tree → List Nat → String
  | _, [] => ""
  | tree, index :: place =>
    match tree.children[index]? with
    | some child => String.join ((tree.children.take index).map text) ++ child.front place
    | none => ""

/-- A character of the text belongs to a word that matches. -/
def InMatch (isMatch : String → Bool) (tree : Tree) (index : Nat) : Prop :=
  ∃ place node word, tree.at? place = some node ∧ node.word? = some word ∧ isMatch word = true ∧
    (tree.front place).length ≤ index ∧ index < (tree.front place).length + word.length

/-- What redaction makes of the node at a place. -/
structure NodeRedacted (isMatch : String → Bool) (mask : Char) (node after : Tree) : Prop where
  type : after.type = node.type
  count : after.children.length = node.children.length
  length : after.text.length = node.text.length
  /-- A word that matches is masked, and it is marked without any other change of its annotations. -/
  word : ∀ word, node.word? = some word → isMatch word = true →
    after.value? = some (String.ofList (List.replicate word.length mask)) ∧
      after.data = node.data.insert "redacted" (.boolean true) ∧
      after.data.find? "redacted" = some (.boolean true) ∧
      ∀ key, key ≠ "redacted" → after.data.find? key = node.data.find? key
  other : (∀ word, node.word? = some word → isMatch word = false) →
    after.value? = node.value? ∧ after.data = node.data

/-- What redaction makes of a tree. -/
structure Redacted (isMatch : String → Bool) (mask : Char) (tree after : Tree) : Prop where
  nodes : ∀ place, Option.Rel (NodeRedacted isMatch mask) (tree.at? place) (after.at? place)
  length : after.text.length = tree.text.length
  inside : ∀ index, tree.InMatch isMatch index → after.text.toList[index]? = some mask
  outside : ∀ index, ¬ tree.InMatch isMatch index →
    after.text.toList[index]? = tree.text.toList[index]?
  again : after.redactWords isMatch mask = after

/-! ## Where a text stands -/

theorem front_cons {tree child : Tree} {index : Nat} (here : tree.children[index]? = some child)
    (place : List Nat) :
    tree.front (index :: place) =
      String.join ((tree.children.take index).map text) ++ child.front place := by
  rw [front, here]

/-- The text of a node stands behind the text in front of it. -/
theorem exists_text_of_at? {tree node : Tree} {place : List Nat} (found : tree.at? place = some node) :
    ∃ behind, tree.text = tree.front place ++ node.text ++ behind := by
  induction place generalizing tree with
  | nil =>
      cases found
      exact ⟨"", by rw [front, String.empty_append, String.append_empty]⟩
  | cons index place inductionHypothesis =>
      rw [at?] at found
      rcases Option.bind_eq_some_iff.mp found with ⟨child, here, below⟩
      rcases inductionHypothesis below with ⟨behind, spelled⟩
      refine ⟨behind ++ String.join ((tree.children.drop (index + 1)).map text), ?_⟩
      rw [exists_text_of_child here, front_cons here, spelled]
      simp only [String.append_assoc]

theorem getElem?_text {tree node : Tree} {place : List Nat} (found : tree.at? place = some node)
    {index : Nat} (from_front : (tree.front place).length ≤ index)
    (before_end : index < (tree.front place).length + node.text.length) :
    tree.text.toList[index]? = node.text.toList[index - (tree.front place).length]? := by
  rcases exists_text_of_at? found with ⟨behind, spelled⟩
  rw [spelled, String.toList_append, String.toList_append, List.append_assoc,
    List.getElem?_append_right (by rwa [String.length_toList]), String.length_toList,
    List.getElem?_append_left (by rw [String.length_toList]; omega)]

mutual

/-- Every character of the text belongs to a leaf. -/
theorem exists_leaf_of_lt : ∀ (tree : Tree) {index : Nat}, index < tree.text.length →
    ∃ place node value, tree.at? place = some node ∧ node.value? = some value ∧
      (tree.front place).length ≤ index ∧ index < (tree.front place).length + value.length
  | .leaf type data value, index, inside => by
      rw [text_leaf] at inside
      exact ⟨[], .leaf type data value, value, rfl, rfl, Nat.zero_le _, by simpa [front] using inside⟩
  | .branch type data trees, index, inside => by
      rw [text_branch] at inside
      rcases exists_leaf_of_lt_join trees inside with
        ⟨child, tree, place, node, value, here, found, isLeaf, first, last⟩
      have below : (branch type data trees).children[child]? = some tree := here
      refine ⟨child :: place, node, value, ?_, isLeaf, ?_⟩
      · rw [at?, below]
        exact found
      · rw [front_cons below, String.length_append]
        exact ⟨first, last⟩

theorem exists_leaf_of_lt_join : ∀ (trees : List Tree) {index : Nat},
    index < (String.join (trees.map text)).length →
      ∃ child tree place node value, trees[child]? = some tree ∧ tree.at? place = some node ∧
        node.value? = some value ∧
        (String.join ((trees.take child).map text)).length + (tree.front place).length ≤ index ∧
        index < (String.join ((trees.take child).map text)).length + (tree.front place).length +
          value.length
  | [], index, inside => by cases inside
  | tree :: rest, index, inside => by
      rw [List.map_cons, String.join_cons, String.length_append] at inside
      by_cases here : index < tree.text.length
      · rcases exists_leaf_of_lt tree here with ⟨place, node, value, found, isLeaf, first, last⟩
        refine ⟨0, tree, place, node, value, rfl, found, isLeaf, ?_⟩
        rw [List.take_zero, List.map_nil, String.join_nil, String.length_empty, Nat.zero_add]
        exact ⟨first, last⟩
      · have further : index - tree.text.length < (String.join (rest.map text)).length := by omega
        rcases exists_leaf_of_lt_join rest further with
          ⟨child, other, place, node, value, there, found, isLeaf, first, last⟩
        refine ⟨child + 1, other, place, node, value, there, found, isLeaf, ?_⟩
        rw [List.take_succ_cons, List.map_cons, String.join_cons, String.length_append]
        omega

end

/-! ## Edits that keep lengths -/

def Edit.text (word : String) : Edit → String
  | .keep => word
  | .replace text => text
  | .replaceAndMark text _ _ => text

/-- An edit gives every word a text of the same length. -/
def KeepsLengths (edit : String → Edit) : Prop :=
  ∀ word, ((edit word).text word).length = word.length

variable {edit : String → Edit}

mutual

theorem length_text_editWords (keeps : KeepsLengths edit) : ∀ (tree : Tree),
    (tree.editWords edit).text.length = tree.text.length
  | .leaf type data value => by
      rw [editWords, text_leaf]
      split
      · have same := keeps value
        split <;> rename_i edited <;> rw [edited] at same <;> rw [text_leaf] <;> exact same
      · rw [text_leaf]
  | .branch type data trees => by
      rw [editWords, text_branch, text_branch, length_join_editWordsAll keeps trees]

theorem length_join_editWordsAll (keeps : KeepsLengths edit) : ∀ (trees : List Tree),
    (String.join ((editWordsAll edit trees).map text)).length = (String.join (trees.map text)).length
  | [] => by rw [editWordsAll]
  | tree :: rest => by
      rw [editWordsAll, List.map_cons, List.map_cons, String.join_cons, String.join_cons,
        String.length_append, String.length_append, length_text_editWords keeps tree,
        length_join_editWordsAll keeps rest]

end

/-- A node keeps its place in the text. -/
theorem length_front_editWords (keeps : KeepsLengths edit) (tree : Tree) (place : List Nat) :
    ((tree.editWords edit).front place).length = (tree.front place).length := by
  induction place generalizing tree with
  | nil => rfl
  | cons index place inductionHypothesis =>
      cases here : tree.children[index]? with
      | none => rw [front, front, children_editWords, List.getElem?_map, here]; rfl
      | some child =>
          have there : (tree.editWords edit).children[index]? = some (child.editWords edit) := by
            rw [children_editWords, List.getElem?_map, here]
            rfl
          rw [front_cons here, front_cons there, String.length_append, String.length_append,
            inductionHypothesis child, children_editWords, ← List.map_take, ← editWordsAll_eq,
            length_join_editWordsAll keeps]

/-! ## Masked words -/

variable {isMatch : String → Bool} {mask : Char}

theorem length_masked (mask : Char) (word : String) : (masked mask word).length = word.length := by
  rw [masked, String.length_ofList, List.length_replicate]

theorem redact_of_match {word : String} (matching : isMatch word = true) :
    Edit.redact isMatch mask word = .replaceAndMark (masked mask word) "redacted" (.boolean true) :=
  if_pos matching

theorem redact_of_other {word : String} (other : isMatch word = false) :
    Edit.redact isMatch mask word = .keep :=
  if_neg (by rw [other]; exact Bool.false_ne_true)

theorem keepsLengths_redact (isMatch : String → Bool) (mask : Char) :
    KeepsLengths (Edit.redact isMatch mask) := by
  intro word
  cases matching : isMatch word with
  | true => rw [redact_of_match matching]; exact length_masked mask word
  | false => rw [redact_of_other matching]; rfl

/-- A masked word is left alone, or it matches again and is masked as it is. -/
theorem redact_masked (isMatch : String → Bool) (mask : Char) (word : String) :
    Edit.redact isMatch mask (masked mask word) = .keep ∨
      Edit.redact isMatch mask (masked mask word) =
        .replaceAndMark (masked mask word) "redacted" (.boolean true) := by
  cases matching : isMatch (masked mask word) with
  | false => exact Or.inl (redact_of_other matching)
  | true =>
      have same : masked mask (masked mask word) = masked mask word := by
        rw [masked, length_masked, masked]
      rw [redact_of_match matching, same]
      exact Or.inr rfl

mutual

/-- A tree that has been redacted is not changed by the same redaction. -/
theorem redactWords_again (isMatch : String → Bool) (mask : Char) : ∀ (tree : Tree),
    (tree.redactWords isMatch mask).redactWords isMatch mask = tree.redactWords isMatch mask
  | .branch type data trees => by
      rw [redactWords_eq, redactWords_eq, editWords, editWords, redactAll_again isMatch mask trees]
  | .leaf type data value => by
      by_cases name : type.name = Kind.word
      · have isWord : (leaf type data value).word? = some value := if_pos (decide_eq_true name)
        rw [redactWords_eq, redactWords_eq, editWords_of_word isWord]
        cases matching : isMatch value with
        | false => rw [redact_of_other matching, editWords_of_word isWord, redact_of_other matching]
        | true =>
            have stays : (leaf type (data.insert "redacted" (.boolean true)) (masked mask value)).word? =
                some (masked mask value) := if_pos (decide_eq_true name)
            rw [redact_of_match matching]
            refine (editWords_of_word stays _).trans ?_
            rcases redact_masked isMatch mask value with keeps | repeats
            · rw [keeps]
              rfl
            · rw [repeats]
              simp only [Tree.data, Tree.type, Json.Fields.insert_insert_self]
      · rw [redactWords_eq, redactWords_eq, editWords, if_neg name, editWords, if_neg name]

theorem redactAll_again (isMatch : String → Bool) (mask : Char) : ∀ (trees : List Tree),
    editWordsAll (Edit.redact isMatch mask) (editWordsAll (Edit.redact isMatch mask) trees) =
      editWordsAll (Edit.redact isMatch mask) trees
  | [] => by rw [editWordsAll, editWordsAll]
  | tree :: rest => by
      have here := redactWords_again isMatch mask tree
      rw [redactWords_eq, redactWords_eq] at here
      rw [editWordsAll, editWordsAll, here, redactAll_again isMatch mask rest]

end

theorem nodeRedacted_redactWords (isMatch : String → Bool) (mask : Char) (node : Tree) :
    NodeRedacted isMatch mask node (node.redactWords isMatch mask) where
  type := type_editWords _ node
  count := by rw [redactWords_eq, children_editWords, List.length_map]
  length := length_text_editWords (keepsLengths_redact isMatch mask) node
  word word isWord matching := by
    have marked : (node.redactWords isMatch mask).data = node.data.insert "redacted" (.boolean true) := by
      rw [redactWords_eq, editWords_of_word isWord, redact_of_match matching]
      rfl
    refine ⟨?_, marked, ?_, fun key other => ?_⟩
    · rw [redactWords_eq, editWords_of_word isWord, redact_of_match matching]
      rfl
    · rw [marked, Json.Fields.find?_insert_self]
    · rw [marked, Json.Fields.find?_insert_of_ne other]
  other unmatched := by
    rw [redactWords_eq]
    cases isWord : node.word? with
    | none =>
        rcases editWords_of_other isWord (Edit.redact isMatch mask) with ⟨data, value⟩
        exact ⟨value, data⟩
    | some word =>
        rw [editWords_of_word isWord, redact_of_other (unmatched word isWord)]
        exact ⟨rfl, rfl⟩

/-- A leaf is not redacted, or it is a word that matches and every character of it becomes the mask. -/
theorem value?_redactWords {node : Tree} {value : String} (isLeaf : node.value? = some value)
    (isMatch : String → Bool) (mask : Char) :
    (node.redactWords isMatch mask).value? = some value ∨
      (node.word? = some value ∧ isMatch value = true ∧
        (node.redactWords isMatch mask).value? = some (masked mask value)) := by
  have redacted := nodeRedacted_redactWords isMatch mask node
  cases isWord : node.word? with
  | none =>
      refine Or.inl ((redacted.other fun word same => ?_).1.trans isLeaf)
      rw [isWord] at same
      cases same
  | some word =>
      cases isLeaf.symm.trans (Stock.value?_of_word? isWord)
      cases matching : isMatch value with
      | true => exact Or.inr ⟨rfl, rfl, (redacted.word value isWord matching).1⟩
      | false =>
          refine Or.inl ((redacted.other fun word same => ?_).1.trans isLeaf)
          rw [isWord] at same
          cases same
          exact matching

theorem text_of_value? {node : Tree} {value : String} (isLeaf : node.value? = some value) :
    node.text = value := by
  cases node with
  | branch type data children => cases isLeaf
  | leaf type data text =>
      cases isLeaf
      exact text_leaf type data value

theorem getElem?_masked {mask : Char} {word : String} {index : Nat} (inside : index < word.length) :
    (masked mask word).toList[index]? = some mask := by
  rw [masked, String.toList_ofList, List.getElem?_replicate, if_pos inside]

/-- The characters of a leaf after redaction. -/
theorem getElem?_text_redactWords {tree node : Tree} {place : List Nat} {value : String} {index : Nat}
    (found : tree.at? place = some node) (isLeaf : (node.redactWords isMatch mask).value? = some value)
    (first : (tree.front place).length ≤ index)
    (last : index < (tree.front place).length + value.length) :
    (tree.redactWords isMatch mask).text.toList[index]? =
      value.toList[index - (tree.front place).length]? := by
  have there : (tree.redactWords isMatch mask).at? place = some (node.redactWords isMatch mask) := by
    rw [redactWords_eq, at?_editWords, found]
    rfl
  have front := length_front_editWords (keepsLengths_redact isMatch mask) tree place
  rw [← redactWords_eq] at front
  have spelled := text_of_value? isLeaf
  rw [getElem?_text there (by rwa [front]) (by rwa [front, spelled]), front, spelled]

/-- Redaction masks and marks the words that match, and does nothing else. -/
theorem redacted_redactWords (isMatch : String → Bool) (mask : Char) (tree : Tree) :
    Redacted isMatch mask tree (tree.redactWords isMatch mask) where
  nodes place := by
    rw [redactWords_eq, at?_editWords]
    cases tree.at? place with
    | none => exact .none
    | some node => exact .some (nodeRedacted_redactWords isMatch mask node)
  length := length_text_editWords (keepsLengths_redact isMatch mask) tree
  inside index := by
    rintro ⟨place, node, word, found, isWord, matching, first, last⟩
    have isMasked := ((nodeRedacted_redactWords isMatch mask node).word word isWord matching).1
    rw [getElem?_text_redactWords found isMasked first (by rwa [← masked, length_masked])]
    exact getElem?_masked (by omega)
  outside index apart := by
    by_cases inside : index < tree.text.length
    · rcases exists_leaf_of_lt tree inside with ⟨place, node, value, found, isLeaf, first, last⟩
      rcases value?_redactWords isLeaf isMatch mask with same | ⟨isWord, matching, _⟩
      · have spelled := text_of_value? isLeaf
        rw [getElem?_text_redactWords found same first last,
          getElem?_text found first (by rwa [spelled]), spelled]
      · exact absurd ⟨place, node, value, found, isWord, matching, first, last⟩ apart
    · have same := length_text_editWords (keepsLengths_redact isMatch mask) tree
      rw [← redactWords_eq] at same
      rw [List.getElem?_eq_none, List.getElem?_eq_none] <;> rw [String.length_toList] <;> omega
  again := redactWords_again isMatch mask tree

/-- A word without children is masked, also if the mask matches. -/
example :
    redactWords (·.toList.all Char.isDigit) '7'
        (.branch ⟨Kind.word, .parent⟩ []
          [.leaf ⟨Kind.text, .text⟩ [] "12", .leaf ⟨Kind.word, .text⟩ [] "12"]) =
      .branch ⟨Kind.word, .parent⟩ []
        [.leaf ⟨Kind.text, .text⟩ [] "12",
          .leaf ⟨Kind.word, .text⟩ [("redacted", .boolean true)] "77"] := by
  rfl

end Tree

/-! ## In a store -/

namespace Store

variable {store after : Store} {ref : Ref} {refs : List Ref} {tree : Tree} {isMatch : String → Bool}
  {mask : Char}

/-- What redaction makes of a store in which an unshared tree stands. -/
structure Redacted (isMatch : String → Bool) (mask : Char) (ref : Ref) (refs : List Ref) (tree : Tree)
    (store after : Store) : Prop where
  /-- A redacted tree stands on the same nodes. -/
  unshared : ∃ redacted, after.Unshared ref refs redacted ∧ tree.Redacted isMatch mask redacted
  outside : ∀ other, other ∉ refs → after.get? other = store.get? other
  again : after.redactWords ref isMatch mask = (after, .ok ())

/-- A node that has been masked is not changed by masking it again. -/
theorem editWord_redact_again (isMatch : String → Bool) (mask : Char) (node : Node Ref) :
    (node.editWord (Tree.Edit.redact isMatch mask)).editWord (Tree.Edit.redact isMatch mask) =
      node.editWord (Tree.Edit.redact isMatch mask) := by
  cases isWord : node.word? with
  | none => rw [Node.editWord_of_none isWord, Node.editWord_of_none isWord]
  | some word =>
      rw [Node.editWord_of_word isWord]
      cases matching : isMatch word with
      | false =>
          rw [Tree.redact_of_other matching, Node.editWord_of_word isWord, Tree.redact_of_other matching]
      | true =>
          have name := (Node.content_of_word? isWord).1
          rw [Tree.redact_of_match matching]
          refine (Node.editWord_of_word (Node.word?_of_word name _ _) _).trans ?_
          rcases Tree.redact_masked isMatch mask word with keeps | repeats
          · rw [keeps]
          · rw [repeats]
            simp only [Json.Fields.insert_insert_self]

/-- Redaction of an unshared tree does not fail, and it redacts the tree and nothing else.  The second
time it changes nothing. -/
theorem redactWords_unshared (unshared : store.Unshared ref refs tree) (isMatch : String → Bool)
    (mask : Char) :
    ∃ after, store.redactWords ref isMatch mask = (after, .ok ()) ∧
      Redacted isMatch mask ref refs tree store after := by
  rcases changes_redactWords unshared isMatch mask with ⟨after, done, changes⟩
  have redacted : after.Unshared ref refs (tree.redactWords isMatch mask) := unshared.editWords changes
  refine ⟨after, done, ⟨_, redacted, Tree.redacted_redactWords isMatch mask tree⟩, changes.outside, ?_⟩
  rcases changes_redactWords redacted isMatch mask with ⟨second, repeated, changed⟩
  rw [repeated, changes.again (editWord_redact_again isMatch mask) changed]

/-- A word with children and a word with a text, and a mask that matches. -/
theorem redactWords_unshared_digits :
    let word : NodeType := ⟨Kind.word, .parent⟩
    let tree : Tree := .branch word []
      [.leaf ⟨Kind.text, .text⟩ [] "12", .leaf ⟨Kind.word, .text⟩ [("lang", .string "en")] "12"]
    let store : Store :=
      ⟨#[⟨⟨Kind.text, .text⟩, .text "12", []⟩,
        ⟨⟨Kind.word, .text⟩, .text "12", [("lang", .string "en")]⟩,
        ⟨word, .children [0, 1], []⟩]⟩
    store.Unshared 2 [2, 0, 1] tree ∧
      ∃ after, store.redactWords 2 (·.toList.all Char.isDigit) '7' = (after, .ok ()) ∧
        Redacted (·.toList.all Char.isDigit) '7' 2 [2, 0, 1] tree store after := by
  intro word tree store
  have text : store.Holds 0 [0] (.leaf ⟨Kind.text, .text⟩ [] "12") := .leaf rfl
  have inner : store.Holds 1 [1] (.leaf ⟨Kind.word, .text⟩ [("lang", .string "en")] "12") := .leaf rfl
  have holds : store.Holds 2 [2, 0, 1] tree := .branch rfl (.cons text (.cons inner .nil))
  have unshared : store.Unshared 2 [2, 0, 1] tree := ⟨holds, by decide⟩
  exact ⟨unshared, redactWords_unshared unshared _ _⟩

end Store
end Prose

import Prose.Proofs.Json.Fields
import Prose.Proofs.Tree.Places

namespace Prose
namespace Tree

/-!
# What positions say

The position of a node is the range of bytes that its text takes in the text of the whole tree.  The byte
at which a node starts is the size of the text in front of it, which is carried along from node to node.
So the children of a node share out its range between them, in order and without a gap.

`Positioned` compares a tree with the tree that carries positions.  Its main statement is about all places
at once: what a node is given depends on its text and on the text in front of it, and on nothing else.
-/

/-! ## Texts -/

theorem join_piecesAll (trees : List Tree) : String.join (piecesAll trees) = String.join (trees.map text) := by
  induction trees with
  | nil => rw [piecesAll, List.map_nil]
  | cons tree rest inductionHypothesis =>
      rw [piecesAll, String.join_append, inductionHypothesis, List.map_cons, String.join_cons]
      rfl

/-- The text of a node with children is that of its children, one after the other. -/
theorem text_branch (type : NodeType) (data : Json.Fields) (children : List Tree) :
    (branch type data children).text = String.join (children.map text) := by
  rw [text, pieces, join_piecesAll]

theorem text_leaf (type : NodeType) (data : Json.Fields) (value : String) :
    (leaf type data value).text = value := by
  rw [text, pieces, String.join_cons, String.join_nil, String.append_empty]

/-- The text of a child is a part of the text of its parent. -/
theorem exists_text_of_child {tree child : Tree} {index : Nat}
    (here : tree.children[index]? = some child) :
    tree.text = String.join ((tree.children.take index).map text) ++ child.text ++
      String.join ((tree.children.drop (index + 1)).map text) := by
  cases tree with
  | leaf type data value => cases here
  | branch type data children =>
      have below : children[index]? = some child := here
      obtain ⟨inside, rfl⟩ := List.getElem?_eq_some_iff.mp below
      have split : children.map text = (children.take index).map text ++
          children[index].text :: (children.drop (index + 1)).map text := by
        rw [← List.map_cons, ← List.drop_eq_getElem_cons inside, ← List.map_append,
          List.take_append_drop]
      rw [text_branch, split, String.join_append, String.join_cons, ← String.append_assoc]
      rfl

/-! ## The byte behind a node -/

theorem positionFrom_branch (start : Nat) (type : NodeType) (data : Json.Fields) (children : List Tree) :
    positionFrom start (.branch type data children) =
      (.branch type (data.insert "position" (range start (positionAll start children).2))
        (positionAll start children).1, (positionAll start children).2) := by
  rw [positionFrom]

theorem positionAll_cons (start : Nat) (tree : Tree) (rest : List Tree) :
    positionAll start (tree :: rest) =
      ((positionFrom start tree).1 :: (positionAll (positionFrom start tree).2 rest).1,
        (positionAll (positionFrom start tree).2 rest).2) := by
  rw [positionAll]

mutual

theorem positionFrom_last : ∀ (start : Nat) (tree : Tree),
    (positionFrom start tree).2 = start + tree.text.utf8ByteSize
  | start, .leaf type data value => by rw [positionFrom, text_leaf]
  | start, .branch type data children => by
      rw [positionFrom_branch, text_branch, positionAll_last start children]

theorem positionAll_last : ∀ (start : Nat) (trees : List Tree),
    (positionAll start trees).2 = start + (String.join (trees.map text)).utf8ByteSize
  | start, [] => by rw [positionAll, List.map_nil, String.join_nil, String.utf8ByteSize_empty]; rfl
  | start, tree :: rest => by
      rw [positionAll_cons, List.map_cons, String.join_cons, String.utf8ByteSize_append,
        ← Nat.add_assoc, ← positionFrom_last start tree, positionAll_last _ rest]

end

mutual

/-- Positions leave the text as it is. -/
theorem text_positionFrom : ∀ (start : Nat) (tree : Tree), (positionFrom start tree).1.text = tree.text
  | start, .leaf type data value => by rw [positionFrom, text_leaf, text_leaf]
  | start, .branch type data children => by
      rw [positionFrom_branch, text_branch, text_branch, map_text_positionAll start children]

theorem map_text_positionAll : ∀ (start : Nat) (trees : List Tree),
    (positionAll start trees).1.map text = trees.map text
  | start, [] => by rw [positionAll]
  | start, tree :: rest => by
      rw [positionAll_cons, List.map_cons, List.map_cons, text_positionFrom start tree,
        map_text_positionAll _ rest]

end

/-! ## Where a node starts -/

/-- A tree among others starts behind the text of those in front of it. -/
theorem getElem?_positionAll_eq (start : Nat) {trees : List Tree} {index : Nat} {tree : Tree}
    (here : trees[index]? = some tree) :
    (positionAll start trees).1[index]? = some
      (positionFrom (start + (String.join ((trees.take index).map text)).utf8ByteSize) tree).1 := by
  induction trees generalizing start index with
  | nil => cases here
  | cons first rest inductionHypothesis =>
      rw [positionAll_cons]
      cases index with
      | zero =>
          cases here
          rw [List.take_zero, List.map_nil, String.join_nil, String.utf8ByteSize_empty]
          rfl
      | succ index =>
          rw [List.getElem?_cons_succ, inductionHypothesis _ here, positionFrom_last, Nat.add_assoc,
            ← String.utf8ByteSize_append, List.take_succ_cons, List.map_cons, String.join_cons]

/-- At each place stands the node with positions from the byte behind the text in front of it. -/
theorem exists_at?_positionFrom {tree node : Tree} {place : List Nat}
    (found : tree.at? place = some node) (start : Nat) :
    ∃ before after, tree.text = before ++ node.text ++ after ∧
      (positionFrom start tree).1.at? place =
        some (positionFrom (start + before.utf8ByteSize) node).1 := by
  induction place generalizing start tree with
  | nil =>
      cases found
      exact ⟨"", "", by rw [String.empty_append, String.append_empty], rfl⟩
  | cons index place inductionHypothesis =>
      rw [at?] at found
      rcases Option.bind_eq_some_iff.mp found with ⟨child, here, below⟩
      rcases inductionHypothesis below
        (start + (String.join ((tree.children.take index).map text)).utf8ByteSize)
        with ⟨before, after, spelled, positioned⟩
      refine ⟨String.join ((tree.children.take index).map text) ++ before,
        after ++ String.join ((tree.children.drop (index + 1)).map text), ?_, ?_⟩
      · rw [exists_text_of_child here, spelled]
        simp only [String.append_assoc]
      · rw [at?, children_positionFrom, getElem?_positionAll_eq start here, Option.bind_some,
          positioned, String.utf8ByteSize_append, Nat.add_assoc]

/-! ## Ranges -/

/-- A node carries the range of bytes from one byte to another as its position. -/
def HasRange (node : Tree) (first last : Nat) : Prop :=
  node.data.find? "position" = some (range first last)

/-- The ranges of trees follow each other without a gap, from one byte to another. -/
def Tile : Nat → List Tree → Nat → Prop
  | first, [], last => first = last
  | first, tree :: rest, last => ∃ middle, tree.HasRange first middle ∧ Tile middle rest last

theorem hasRange_positionFrom (start : Nat) (tree : Tree) :
    (positionFrom start tree).1.HasRange start (start + tree.text.utf8ByteSize) := by
  rw [← positionFrom_last start tree]
  cases tree with
  | leaf type data value => rw [positionFrom]; exact Json.Fields.find?_insert_self _ _ _
  | branch type data children => rw [positionFrom_branch]; exact Json.Fields.find?_insert_self _ _ _

mutual

/-- Every node of a tree with positions carries a range. -/
theorem hasRange_of_mem_subtrees : ∀ (start : Nat) (tree : Tree),
    ∀ node ∈ (positionFrom start tree).1.subtrees, ∃ first last, node.HasRange first last
  | start, .leaf type data value, node, member => by
      have range := hasRange_positionFrom start (leaf type data value)
      rw [positionFrom] at member range
      rw [subtrees, List.mem_singleton] at member
      exact ⟨_, _, member ▸ range⟩
  | start, .branch type data children, node, member => by
      have range := hasRange_positionFrom start (branch type data children)
      rw [positionFrom_branch] at member range
      rw [subtrees, List.mem_cons] at member
      rcases member with rfl | below
      · exact ⟨_, _, range⟩
      · exact hasRange_of_mem_subtreesAll start children node below

theorem hasRange_of_mem_subtreesAll : ∀ (start : Nat) (trees : List Tree),
    ∀ node ∈ subtreesAll (positionAll start trees).1, ∃ first last, node.HasRange first last
  | start, [], node, member => by
      rw [positionAll, subtreesAll] at member
      cases member
  | start, tree :: rest, node, member => by
      rw [positionAll_cons, subtreesAll, List.mem_append] at member
      exact member.elim (hasRange_of_mem_subtrees start tree node)
        (hasRange_of_mem_subtreesAll _ rest node)

end

theorem tile_positionAll (start : Nat) (trees : List Tree) :
    Tile start (positionAll start trees).1 (positionAll start trees).2 := by
  induction trees generalizing start with
  | nil => rw [positionAll]; rfl
  | cons tree rest inductionHypothesis =>
      rw [positionAll_cons]
      refine ⟨_, hasRange_positionFrom start tree, ?_⟩
      rw [← positionFrom_last]
      exact inductionHypothesis _

/-- The children of a node share out its range. -/
theorem tile_positionFrom (start : Nat) {tree : Tree} (parent : tree.value? = none) :
    Tile start (positionFrom start tree).1.children (start + tree.text.utf8ByteSize) := by
  rw [children_positionFrom, ← positionFrom_last]
  cases tree with
  | leaf type data value => cases parent
  | branch type data children => rw [positionFrom_branch]; exact tile_positionAll start children

/-! ## Slices of bytes -/

/-- The bytes of the middle one of three texts. -/
theorem extract_append (before middle after : String) :
    (before ++ middle ++ after).toByteArray.extract before.utf8ByteSize
      (before.utf8ByteSize + middle.utf8ByteSize) = middle.toByteArray := by
  rw [String.append_assoc, String.toByteArray_append, String.toByteArray_append,
    ← String.size_toByteArray, ← String.size_toByteArray]
  have behind := ByteArray.extract_append_size_add (a := before.toByteArray)
    (b := middle.toByteArray ++ after.toByteArray) (i := 0) (j := middle.toByteArray.size)
  rw [Nat.add_zero] at behind
  rw [behind, ByteArray.extract_append_eq_left rfl]

/-- What a node says about the whole text: the bytes of its range are those of its own text, the range
begins and ends between characters, and the children share it out. -/
structure Spans (whole : String) (node : Tree) (first last : Nat) : Prop where
  range : node.HasRange first last
  ordered : first ≤ last
  first_valid : String.Pos.Raw.IsValid whole ⟨first⟩
  last_valid : String.Pos.Raw.IsValid whole ⟨last⟩
  slice : whole.toByteArray.extract first last = node.text.toByteArray
  /-- The children share out the range, so that of a childless parent is empty. -/
  tiled : node.value? = none → Tile first node.children last

theorem spans_positionFrom {whole before after : String} {node : Tree}
    (spelled : whole = before ++ node.text ++ after) :
    Spans whole (positionFrom before.utf8ByteSize node).1 before.utf8ByteSize
      (before.utf8ByteSize + node.text.utf8ByteSize) where
  range := hasRange_positionFrom _ node
  ordered := Nat.le_add_right _ _
  first_valid := by
    refine String.Pos.Raw.isValid_iff_exists_append.mpr ⟨before, node.text ++ after, ?_, rfl⟩
    rw [spelled, String.append_assoc]
  last_valid := by
    refine String.Pos.Raw.isValid_iff_exists_append.mpr ⟨before ++ node.text, after, spelled, ?_⟩
    rw [String.rawEndPos, String.utf8ByteSize_append]
  slice := by rw [spelled, extract_append, text_positionFrom]
  tiled parent := tile_positionFrom _ (by rwa [(positionFrom_node _ node).2.1] at parent)

/-! ## A tree with positions -/

/-- Two nodes are alike but for their positions and what is below them. -/
structure Alike (node other : Tree) : Prop where
  type : other.type = node.type
  value : other.value? = node.value?
  count : other.children.length = node.children.length
  data : ∀ key, key ≠ "position" → other.data.find? key = node.data.find? key

theorem alike_positionFrom (start : Nat) (node : Tree) : Alike node (positionFrom start node).1 := by
  rcases positionFrom_node start node with ⟨type, value, mark, data⟩
  refine ⟨type, value, ?_, fun key other => ?_⟩
  · rw [children_positionFrom, length_positionAll]
  · rw [data, Json.Fields.find?_insert_of_ne other]

mutual

/-- A tree that carries positions is not changed by them. -/
theorem positionFrom_again : ∀ (start : Nat) (tree : Tree),
    positionFrom start (positionFrom start tree).1 = positionFrom start tree
  | start, .leaf type data value => by
      rw [positionFrom, positionFrom, Json.Fields.insert_insert_self]
  | start, .branch type data children => by
      rw [positionFrom_branch, positionFrom_branch, positionAll_again start children,
        Json.Fields.insert_insert_self]

theorem positionAll_again : ∀ (start : Nat) (trees : List Tree),
    positionAll start (positionAll start trees).1 = positionAll start trees
  | start, [] => by rw [positionAll, positionAll]
  | start, tree :: rest => by
      rw [positionAll_cons, positionAll_cons, positionFrom_again start tree, positionAll_again _ rest]

end

/-- What positions make of a tree. -/
structure Positioned (tree after : Tree) : Prop where
  text : after.text = tree.text
  root : after.HasRange 0 after.text.utf8ByteSize
  spans : ∀ place node, after.at? place = some node →
    ∃ first last, Spans after.text node first last
  alike : ∀ place, Option.Rel Alike (tree.at? place) (after.at? place)
  again : after.withPositions = after

/-- Every node of a tree with positions says which bytes of the text are its own, and nothing else has
changed. -/
theorem positioned_withPositions (tree : Tree) : Positioned tree tree.withPositions where
  text := text_positionFrom 0 tree
  root := by
    have range := hasRange_positionFrom 0 tree
    rwa [Nat.zero_add, ← text_positionFrom 0 tree] at range
  spans place node found := by
    have placed := at?_positionFrom 0 tree place
    cases there : tree.at? place with
    | none =>
        rcases placed with ⟨first, absent⟩
        rw [there, ← withPositions, found] at absent
        cases absent
    | some original =>
        rcases exists_at?_positionFrom there 0 with ⟨before, after, spelled, positioned⟩
        rw [← withPositions, found, Nat.zero_add] at positioned
        cases positioned
        rw [withPositions, text_positionFrom]
        exact ⟨_, _, spans_positionFrom spelled⟩
  alike place := by
    rcases at?_positionFrom 0 tree place with ⟨first, positioned⟩
    rw [withPositions, positioned]
    cases tree.at? place with
    | none => exact .none
    | some node => exact .some (alike_positionFrom first node)
  again := congrArg Prod.fst (positionFrom_again 0 tree)

/-- A document of two nodes, whose leaf has a character of two bytes in it. -/
example : (branch ⟨Kind.root, .parent⟩ [] [leaf ⟨Kind.word, .text⟩ [] "é"]).withPositions =
    branch ⟨Kind.root, .parent⟩ [("position", range 0 2)]
      [leaf ⟨Kind.word, .text⟩ [("position", range 0 2)] "é"] := by
  rfl

end Tree
end Prose

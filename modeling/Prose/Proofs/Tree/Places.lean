import Prose.Proofs.Tree.Leaves
import Prose.Proofs.Tree.Shape
import Prose.Tree.Counts
import Prose.Tree.Position
import Prose.Tree.Words

namespace Prose
namespace Tree

/-!
# Places in a tree

A place is the way from the root to a node: which child to go to, level by level.  Annotating a tree and
editing its words leave all places where they are, so that what they do to a tree is known from what
they do to the node at each place.
-/

def value? : Tree → Option String
  | .branch .. => none
  | .leaf _ _ value => some value

/-- The text of a word, which is a leaf of type `WordNode`. -/
def word? (tree : Tree) : Option String := if tree.is Kind.word then tree.value? else none

def at? : Tree → List Nat → Option Tree
  | tree, [] => some tree
  | tree, index :: place => tree.children[index]?.bind fun child => child.at? place

/-! ## Edited words -/

theorem editWordsAll_eq (edit : String → Edit) (trees : List Tree) :
    editWordsAll edit trees = trees.map (editWords edit) := by
  induction trees with
  | nil => rw [editWordsAll, List.map_nil]
  | cons tree rest inductionHypothesis => rw [editWordsAll, inductionHypothesis, List.map_cons]

theorem editWords_leaf (edit : String → Edit) (type : NodeType) (data : Json.Fields) (value : String) :
    ∃ data' value', editWords edit (.leaf type data value) = .leaf type data' value' := by
  rw [editWords]
  split
  · split <;> exact ⟨_, _, rfl⟩
  · exact ⟨_, _, rfl⟩

theorem type_editWords (edit : String → Edit) (tree : Tree) : (tree.editWords edit).type = tree.type := by
  cases tree with
  | branch type data children => rw [editWords]; rfl
  | leaf type data value =>
      rcases editWords_leaf edit type data value with ⟨data', value', edited⟩
      rw [edited]
      rfl

theorem children_editWords (edit : String → Edit) (tree : Tree) :
    (tree.editWords edit).children = tree.children.map (editWords edit) := by
  cases tree with
  | branch type data children => rw [editWords, editWordsAll_eq]; rfl
  | leaf type data value =>
      rcases editWords_leaf edit type data value with ⟨data', value', edited⟩
      rw [edited]
      rfl

/-- A word is edited as its text says. -/
theorem editWords_of_word {tree : Tree} {word : String} (isWord : tree.word? = some word)
    (edit : String → Edit) :
    tree.editWords edit =
      match edit word with
      | .keep => tree
      | .replace text => .leaf tree.type tree.data text
      | .replaceAndMark text key mark => .leaf tree.type (tree.data.insert key mark) text := by
  unfold word? at isWord
  split at isWord
  · rename_i name
    cases tree with
    | branch type data children => cases isWord
    | leaf type data value =>
        cases isWord
        have isWord : type.name = Kind.word := of_decide_eq_true name
        rw [editWords, if_pos isWord]
        rfl
  · cases isWord

/-- Apart from its children, a node that is no word is not changed. -/
theorem editWords_of_other {tree : Tree} (other : tree.word? = none) (edit : String → Edit) :
    (tree.editWords edit).data = tree.data ∧ (tree.editWords edit).value? = tree.value? := by
  cases tree with
  | branch type data children =>
      rw [editWords]
      exact ⟨rfl, rfl⟩
  | leaf type data value =>
      have name : ¬ type.name = Kind.word := by
        intro same
        have isWord : word? (.leaf type data value) = some value :=
          if_pos (decide_eq_true same)
        rw [isWord] at other
        cases other
      rw [editWords, if_neg name]
      exact ⟨rfl, rfl⟩

theorem at?_editWords (edit : String → Edit) (tree : Tree) (place : List Nat) :
    (tree.editWords edit).at? place = (tree.at? place).map (editWords edit) := by
  induction place generalizing tree with
  | nil => rfl
  | cons index place inductionHypothesis =>
      rw [at?, at?, children_editWords, List.getElem?_map]
      cases tree.children[index]? with
      | none => rfl
      | some child => exact inductionHypothesis child

/-! ## Annotated trees -/

theorem type_annotate (tree : Tree) (key : String) (value : Json) :
    (tree.annotate key value).type = tree.type := by cases tree <;> rfl

theorem children_annotate (tree : Tree) (key : String) (value : Json) :
    (tree.annotate key value).children = tree.children := by cases tree <;> rfl

theorem value?_annotate (tree : Tree) (key : String) (value : Json) :
    (tree.annotate key value).value? = tree.value? := by cases tree <;> rfl

theorem data_annotate (tree : Tree) (key : String) (value : Json) :
    (tree.annotate key value).data = tree.data.insert key value := by cases tree <;> rfl

/-- An annotation of the root changes nothing at other places. -/
theorem at?_annotate (tree : Tree) (key : String) (value : Json) {place : List Nat} (below : place ≠ []) :
    (tree.annotate key value).at? place = tree.at? place := by
  cases place with
  | nil => exact absurd rfl below
  | cons index place => rw [at?, at?, children_annotate]

/-! ## Positions -/

theorem getElem?_positionAll (start : Nat) (trees : List Tree) (index : Nat) :
    ∃ first, (positionAll start trees).1[index]? =
      trees[index]?.map fun tree => (positionFrom first tree).1 := by
  induction trees generalizing start index with
  | nil => exact ⟨start, by rw [positionAll]; rfl⟩
  | cons tree rest inductionHypothesis =>
      rw [positionAll]
      cases index with
      | zero => exact ⟨start, rfl⟩
      | succ index => exact inductionHypothesis _ index

theorem length_positionAll (start : Nat) (trees : List Tree) :
    (positionAll start trees).1.length = trees.length := by
  induction trees generalizing start with
  | nil => rw [positionAll]
  | cons tree rest inductionHypothesis =>
      rw [positionAll, List.length_cons, List.length_cons, inductionHypothesis]

theorem children_positionFrom (start : Nat) (tree : Tree) :
    (positionFrom start tree).1.children = (positionAll start tree.children).1 := by
  cases tree with
  | branch type data children => rw [positionFrom]; rfl
  | leaf type data value =>
      rw [positionFrom]
      exact (congrArg Prod.fst (positionAll.eq_1 start)).symm

/-- Apart from its children, only the position of a node is changed. -/
theorem positionFrom_node (start : Nat) (tree : Tree) :
    (positionFrom start tree).1.type = tree.type ∧ (positionFrom start tree).1.value? = tree.value? ∧
      ∃ mark, (positionFrom start tree).1.data = tree.data.insert "position" mark := by
  cases tree <;> rw [positionFrom] <;> exact ⟨rfl, rfl, _, rfl⟩

/-- At each place of a tree with positions stands the node with positions from some byte on. -/
theorem at?_positionFrom (start : Nat) (tree : Tree) (place : List Nat) :
    ∃ first, (positionFrom start tree).1.at? place =
      (tree.at? place).map fun node => (positionFrom first node).1 := by
  induction place generalizing start tree with
  | nil => exact ⟨start, rfl⟩
  | cons index place inductionHypothesis =>
      rcases getElem?_positionAll start tree.children index with ⟨first, child⟩
      rw [at?, at?, children_positionFrom, child]
      cases tree.children[index]? with
      | none => exact ⟨start, rfl⟩
      | some child => exact inductionHypothesis first child

/-! ## Trees without annotations -/

theorem exists_of_mem_ofCstAll {model : Model} {nodes : List Cst} {trees : List Tree}
    (built : ofCstAll model nodes = .ok trees) {tree : Tree} (member : tree ∈ trees) :
    ∃ node ∈ nodes, ofCst model node = .ok tree := by
  induction nodes generalizing trees with
  | nil =>
      rw [ofCstAll] at built
      cases built
      cases member
  | cons node rest inductionHypothesis =>
      rcases ofCstAll_cons_ok built with ⟨first, more, rfl, here, others⟩
      rcases List.mem_cons.mp member with rfl | further
      · exact ⟨node, List.mem_cons_self, here⟩
      · rcases inductionHypothesis others further with ⟨node, inside, made⟩
        exact ⟨node, List.mem_cons_of_mem _ inside, made⟩

theorem data_root_of_ofCst {model : Model} {cst : Cst} {tree : Tree}
    (built : ofCst model cst = .ok tree) : tree.data = cst.data.getD [] := by
  cases built_of_ofCst built <;> rfl

/-- What is built of nodes without data carries no annotations. -/
theorem data_of_ofCst {model : Model} {cst : Cst} {tree : Tree} (built : ofCst model cst = .ok tree)
    (bare : ∀ node ∈ cst.subtrees, node.data = none) {place : List Nat} {node : Tree}
    (found : tree.at? place = some node) : node.data = [] := by
  induction place generalizing cst tree with
  | nil =>
      cases found
      rw [data_root_of_ofCst built, bare cst (Cst.mem_subtrees_self cst)]
      rfl
  | cons index place inductionHypothesis =>
      rw [at?] at found
      rcases Option.bind_eq_some_iff.mp found with ⟨child, here, below⟩
      cases built_of_ofCst built with
      | leaf resolved shape => cases here
      | hollow resolved shape => cases here
      | @branch _ _ nodes _ _ resolved shape all =>
          rcases exists_of_mem_ofCstAll all (List.mem_of_getElem? here) with ⟨part, inside, made⟩
          refine inductionHypothesis made (fun node member => bare node ?_) below
          rw [Cst.subtrees]
          exact List.mem_cons_of_mem _ (Cst.mem_subtreesAll.mpr ⟨part, inside, member⟩)

end Tree
end Prose

import Prose.Proofs.Json.Fields
import Prose.Proofs.Tree.Outline
import Prose.Plugin.Stock

namespace Prose
namespace Tree

/-!
# Plain trees

A tree is plain if its types are standard ones and its annotations hold no fractions.  Trees of texts are
plain, and stay so under the stock transforms, which annotate with whole numbers and marks only.
-/

/-- A tree of standard types, without fractions in its annotations. -/
structure Plain (tree : Tree) : Prop where
  known : tree.Known .standard
  whole : tree.Whole

/-- What a plain node has by itself. -/
def PlainNode (type : NodeType) (data : Json.Fields) : Prop :=
  Model.standard.resolve type.name = .ok type ∧ ∀ field ∈ data, field.2.Whole

variable {type : NodeType} {data : Json.Fields} {trees : List Tree} {key : String} {value : Json}

theorem plain_iff {tree : Tree} :
    tree.Plain ↔ ∀ part ∈ tree.subtrees, PlainNode part.type part.data := by
  constructor
  · intro plain part member
    exact ⟨plain.known part member, plain.whole part member⟩
  · intro all
    exact ⟨fun part member => (all part member).1, fun part member => (all part member).2⟩

theorem plain_branch :
    (branch type data trees).Plain ↔ PlainNode type data ∧ ∀ tree ∈ trees, tree.Plain := by
  simp only [plain_iff]
  exact forall_subtrees_branch

theorem plain_leaf {text : String} : (leaf type data text).Plain ↔ PlainNode type data := by
  rw [plain_iff]
  simp only [subtrees, List.mem_singleton, forall_eq]
  exact Iff.rfl

/-! ## Annotations -/

theorem PlainNode.insert (node : PlainNode type data) (whole : value.Whole) :
    PlainNode type (data.insert key value) := by
  refine ⟨node.1, fun field member => ?_⟩
  rcases Json.Fields.mem_insert member with rfl | inside
  · exact whole
  · exact node.2 field inside

/-- Fields of whole numbers make an object without fractions. -/
theorem whole_ofFields {pairs : List (String × Json)} (whole : ∀ pair ∈ pairs, pair.2.Whole) :
    (Json.ofFields pairs).Whole := by
  have all : ∀ (pairs fields : List (String × Json)), (∀ pair ∈ pairs, pair.2.Whole) →
      (∀ field ∈ fields, field.2.Whole) →
      ∀ field ∈ pairs.foldl (fun fields pair => Json.Fields.insert pair.1 pair.2 fields) fields,
        field.2.Whole := by
    intro pairs
    induction pairs with
    | nil => exact fun fields _ whole => whole
    | cons pair rest inductionHypothesis =>
        intro fields wholePairs wholeFields
        rw [List.forall_mem_cons] at wholePairs
        refine inductionHypothesis _ wholePairs.2 fun field member => ?_
        rcases Json.Fields.mem_insert member with rfl | inside
        · exact wholePairs.1
        · exact wholeFields field inside
  exact .object _ (all pairs [] whole nofun)

theorem whole_range (first last : Nat) : (range first last).Whole := by
  refine whole_ofFields fun pair member => ?_
  simp only [List.mem_cons, List.not_mem_nil, or_false] at member
  rcases member with rfl | rfl
  · exact .integer _
  · exact .integer _

theorem whole_counts (counts : Counts) : counts.toJson.Whole := by
  refine whole_ofFields fun pair member => ?_
  simp only [List.mem_cons, List.not_mem_nil, or_false] at member
  rcases member with rfl | rfl | rfl | rfl <;> exact .integer _

/-! ## Transforms -/

theorem Plain.annotate {tree : Tree} (plain : tree.Plain) (whole : value.Whole) :
    (tree.annotate key value).Plain := by
  cases tree with
  | branch type data children =>
      rw [plain_branch] at plain
      exact plain_branch.mpr ⟨plain.1.insert whole, plain.2⟩
  | leaf type data text => exact plain_leaf.mpr ((plain_leaf.mp plain).insert whole)

mutual

theorem Plain.positionFrom : ∀ {tree : Tree} (start : Nat), tree.Plain →
    (Tree.positionFrom start tree).1.Plain
  | .branch type data children, start, plain => by
      rw [plain_branch] at plain
      rw [Tree.positionFrom]
      exact plain_branch.mpr
        ⟨plain.1.insert (whole_range _ _), plain_positionAll start plain.2⟩
  | .leaf type data text, start, plain => by
      rw [Tree.positionFrom]
      exact plain_leaf.mpr ((plain_leaf.mp plain).insert (whole_range _ _))

theorem plain_positionAll : ∀ {trees : List Tree} (start : Nat), (∀ tree ∈ trees, tree.Plain) →
    ∀ tree ∈ (positionAll start trees).1, tree.Plain
  | [], start, _ => by
      rw [positionAll]
      exact nofun
  | tree :: rest, start, plain => by
      rw [List.forall_mem_cons] at plain
      rw [positionAll, List.forall_mem_cons]
      exact ⟨plain.1.positionFrom start, plain_positionAll _ plain.2⟩

end

mutual

theorem Plain.editWords {edit : String → Edit}
    (whole : ∀ word text key mark, edit word = .replaceAndMark text key mark → mark.Whole) :
    ∀ {tree : Tree}, tree.Plain → (tree.editWords edit).Plain
  | .branch type data children, plain => by
      rw [plain_branch] at plain
      rw [Tree.editWords]
      exact plain_branch.mpr ⟨plain.1, plain_editWordsAll whole plain.2⟩
  | .leaf type data text, plain => by
      rw [plain_leaf] at plain
      rw [Tree.editWords]
      split
      · split
        · exact plain_leaf.mpr plain
        · exact plain_leaf.mpr plain
        · rename_i marked
          exact plain_leaf.mpr (plain.insert (whole _ _ _ _ marked))
      · exact plain_leaf.mpr plain

theorem plain_editWordsAll {edit : String → Edit}
    (whole : ∀ word text key mark, edit word = .replaceAndMark text key mark → mark.Whole) :
    ∀ {trees : List Tree}, (∀ tree ∈ trees, tree.Plain) → ∀ tree ∈ editWordsAll edit trees, tree.Plain
  | [], _ => by
      rw [editWordsAll]
      exact nofun
  | tree :: rest, plain => by
      rw [List.forall_mem_cons] at plain
      rw [editWordsAll, List.forall_mem_cons]
      exact ⟨plain.1.editWords whole, plain_editWordsAll whole plain.2⟩

end

/-- Stock transforms make plain trees of plain trees. -/
theorem Plain.apply {tree : Tree} (plain : tree.Plain) (transform : Stock.Transform) :
    (transform.apply tree).Plain := by
  cases transform with
  | position => exact plain.positionFrom 0
  | stats => exact plain.annotate (whole_counts _)
  | uppercase =>
      refine plain.editWords fun word text key mark marked => ?_
      cases marked
  | lowercase =>
      refine plain.editWords fun word text key mark marked => ?_
      cases marked
  | redact isMatch mask =>
      refine plain.editWords fun word text key mark marked => ?_
      split at marked
      · cases marked
        exact .boolean true
      · cases marked

/-! ## Building -/

theorem plainNode_of_resolve {name : String} {data : Option Json.Fields}
    (resolved : Model.standard.resolve name = .ok type) (none : data = none) :
    PlainNode type (data.getD []) := by
  rw [none]
  exact ⟨by rw [Model.name_of_resolve resolved, resolved], nofun⟩

mutual

/-- A tree that is built of a syntax tree without annotations is plain. -/
theorem plain_ofCst : ∀ (cst : Cst) {tree : Tree}, ofCst .standard cst = .ok tree →
    (∀ node ∈ cst.subtrees, node.data = none) → tree.Plain
  | ⟨name, none, value, data⟩, tree, built, bare => by
      have none := bare _ (Cst.mem_subtrees_self _)
      cases built_of_ofCst built with
      | leaf resolved shape => exact plain_leaf.mpr (plainNode_of_resolve resolved none)
  | ⟨name, some nodes, value, data⟩, tree, built, bare => by
      have none := bare _ (Cst.mem_subtrees_self _)
      rw [Cst.subtrees, List.forall_mem_cons] at bare
      cases built_of_ofCst built with
      | branch resolved shape all =>
          exact plain_branch.mpr ⟨plainNode_of_resolve resolved none, plain_ofCstAll nodes all bare.2⟩
      | hollow resolved shape => exact plain_leaf.mpr (plainNode_of_resolve resolved none)

theorem plain_ofCstAll : ∀ (nodes : List Cst) {trees : List Tree}, ofCstAll .standard nodes = .ok trees →
    (∀ node ∈ Cst.subtreesAll nodes, node.data = none) → ∀ tree ∈ trees, tree.Plain
  | [], trees, built, _ => by
      rw [ofCstAll] at built
      cases built
      exact nofun
  | node :: rest, trees, built, bare => by
      rcases ofCstAll_cons_ok built with ⟨tree, more, rfl, first, others⟩
      rw [Cst.subtreesAll, List.forall_mem_append] at bare
      rw [List.forall_mem_cons]
      exact ⟨plain_ofCst node first bare.1, plain_ofCstAll rest others bare.2⟩

end

end Tree
end Prose

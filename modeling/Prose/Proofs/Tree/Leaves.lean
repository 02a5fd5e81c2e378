import Prose.Proofs.Tree.Admission
import Prose.Proofs.Tree.Text

namespace Prose
namespace Cst

/-!
# Nodes and leaves in document order

The leaves of a syntax tree are its nodes without children, from left to right.  A node of the tree
stands between the leaves in front of it and those behind it; together with its own leaves they are the
leaves of the tree.
-/

/-! ## Nodes -/

@[simp] theorem parent_type (type : String) (nodes : List Cst) : (parent type nodes).type = type := rfl

theorem mem_subtreesAll {node : Cst} {list : List Cst} :
    node ∈ subtreesAll list ↔ ∃ part ∈ list, node ∈ part.subtrees := by
  induction list with
  | nil => simp [subtreesAll]
  | cons part rest inductionHypothesis => simp [subtreesAll, inductionHypothesis]

theorem mem_subtrees_parent {node : Cst} {type : String} {nodes : List Cst} :
    node ∈ (parent type nodes).subtrees ↔
      node = parent type nodes ∨ ∃ child ∈ nodes, node ∈ child.subtrees := by
  rw [parent, subtrees]
  simp only [List.mem_cons, mem_subtreesAll]

theorem mem_subtrees_leaf {node : Cst} {type value : String} :
    node ∈ (leaf type value).subtrees ↔ node = leaf type value := by
  rw [leaf, subtrees, List.mem_singleton]

theorem mem_subtrees_self (cst : Cst) : cst ∈ cst.subtrees := by
  rcases cst with ⟨type, children, value, data⟩
  cases children with
  | none => rw [subtrees]; exact List.mem_cons_self
  | some list => rw [subtrees]; exact List.mem_cons_self

/-! ## Leaves -/

mutual

/-- The nodes without children in document order. -/
def leaves : Cst → List Cst
  | ⟨type, none, value, data⟩ => [⟨type, none, value, data⟩]
  | ⟨_, some children, _, _⟩ => leavesAll children

def leavesAll : List Cst → List Cst
  | [] => []
  | node :: rest => node.leaves ++ leavesAll rest

end

@[simp] theorem leaves_leaf (type value : String) : (leaf type value).leaves = [leaf type value] := by
  rw [leaf, leaves]

@[simp] theorem leaves_parent (type : String) (nodes : List Cst) :
    (parent type nodes).leaves = leavesAll nodes := by
  rw [parent, leaves]

@[simp] theorem leavesAll_nil : leavesAll [] = [] := by rw [leavesAll]

@[simp] theorem leavesAll_cons (node : Cst) (rest : List Cst) :
    leavesAll (node :: rest) = node.leaves ++ leavesAll rest := by rw [leavesAll]

@[simp] theorem leavesAll_append (nodes more : List Cst) :
    leavesAll (nodes ++ more) = leavesAll nodes ++ leavesAll more := by
  induction nodes with
  | nil => simp
  | cons node rest inductionHypothesis => simp [inductionHypothesis]

theorem mem_leavesAll {leaf : Cst} {nodes : List Cst} :
    leaf ∈ leavesAll nodes ↔ ∃ node ∈ nodes, leaf ∈ node.leaves := by
  induction nodes with
  | nil => simp
  | cons node rest inductionHypothesis => simp [inductionHypothesis]

mutual

/-- What a tree spells are the values of its leaves. -/
theorem pieces_eq : ∀ cst : Cst, cst.pieces = cst.leaves.flatMap fun leaf => leaf.value.toList
  | ⟨_, none, _, _⟩ => by rw [pieces, leaves, List.flatMap_singleton]
  | ⟨_, some list, _, _⟩ => by
      rw [pieces, leaves]
      exact piecesAll_eq list

theorem piecesAll_eq : ∀ list : List Cst,
    piecesAll list = (leavesAll list).flatMap fun leaf => leaf.value.toList
  | [] => by rw [piecesAll, leavesAll_nil, List.flatMap_nil]
  | node :: rest => by
      rw [piecesAll, leavesAll_cons, List.flatMap_append, pieces_eq node, piecesAll_eq rest]

end

/-- The leaves of neighbouring nodes stand next to each other. -/
theorem leavesAll_of_split {nodes before after : List Cst} {first second : Cst}
    (split : nodes = before ++ first :: second :: after) :
    leavesAll nodes =
      leavesAll before ++ (first.leaves ++ (second.leaves ++ leavesAll after)) := by
  rw [split, leavesAll_append, leavesAll_cons, leavesAll_cons]

/-! ## Places -/

/-- A node stands in a tree, with the leaves in front of it and those behind it. -/
inductive Stands (node : Cst) : List Cst → Cst → List Cst → Prop where
  | root : Stands node [] node []
  | under {front back before after : List Cst} {child : Cst} {type : String} {value : Option String}
      {data : Option Json.Fields} (stands : Stands node front child back) :
      Stands node (leavesAll before ++ front) ⟨type, some (before ++ child :: after), value, data⟩
        (back ++ leavesAll after)

/-- The leaves of a tree are those in front of a node, its own, and those behind it. -/
theorem Stands.leaves_eq {node tree : Cst} {front back : List Cst}
    (stands : Stands node front tree back) : tree.leaves = front ++ (node.leaves ++ back) := by
  induction stands with
  | root => rw [List.nil_append, List.append_nil]
  | under stands inductionHypothesis =>
      rw [leaves, leavesAll_append, leavesAll_cons, inductionHypothesis]
      simp only [List.append_assoc]

mutual

/-- Every node of a tree stands somewhere in it. -/
theorem exists_stands {node : Cst} : ∀ (tree : Cst), node ∈ tree.subtrees →
    ∃ front back, Stands node front tree back
  | ⟨type, none, value, data⟩, member => by
      rw [subtrees, List.mem_singleton] at member
      rw [member]
      exact ⟨[], [], .root⟩
  | ⟨type, some list, value, data⟩, member => by
      rw [subtrees, List.mem_cons] at member
      rcases member with same | below
      · rw [same]
        exact ⟨[], [], .root⟩
      · rcases exists_stands_of_mem list below with ⟨before, child, after, front, back, rfl, stands⟩
        exact ⟨_, _, .under stands⟩

theorem exists_stands_of_mem {node : Cst} : ∀ (list : List Cst), node ∈ subtreesAll list →
    ∃ before child after front back, list = before ++ child :: after ∧ Stands node front child back
  | [], member => by cases member
  | tree :: rest, member => by
      rw [subtreesAll, List.mem_append] at member
      rcases member with here | further
      · rcases exists_stands tree here with ⟨front, back, stands⟩
        exact ⟨[], tree, rest, front, back, rfl, stands⟩
      · rcases exists_stands_of_mem rest further with ⟨before, child, after, front, back, rfl, stands⟩
        exact ⟨tree :: before, child, after, front, back, rfl, stands⟩

end

/-- The nodes of a tree are those that stand somewhere in it. -/
theorem mem_subtrees_iff_stands {node tree : Cst} :
    node ∈ tree.subtrees ↔ ∃ front back, Stands node front tree back := by
  constructor
  · exact exists_stands tree
  · rintro ⟨front, back, stands⟩
    induction stands with
    | root => exact mem_subtrees_self node
    | under stands inductionHypothesis =>
        rw [subtrees]
        exact List.mem_cons_of_mem _ (mem_subtreesAll.mpr
          ⟨_, List.mem_append_right _ List.mem_cons_self, inductionHypothesis⟩)

/-- A node that stands in a tree is its root or stands below a child of the root. -/
theorem Stands.of_parent {node : Cst} {type : String} {nodes front back : List Cst}
    (stands : Stands node front (parent type nodes) back) :
    (node = parent type nodes ∧ front = [] ∧ back = []) ∨
      ∃ before child after first last, nodes = before ++ child :: after ∧
        Stands node first child last ∧ front = leavesAll before ++ first ∧
          back = last ++ leavesAll after := by
  generalize whole : parent type nodes = tree at stands
  cases stands with
  | root => exact Or.inl ⟨rfl, rfl, rfl⟩
  | under stands =>
      cases whole
      exact Or.inr ⟨_, _, _, _, _, rfl, stands, rfl, rfl⟩

theorem Stands.of_leaf {node : Cst} {type value : String} {front back : List Cst}
    (stands : Stands node front (leaf type value) back) : node = leaf type value := by
  generalize whole : leaf type value = tree at stands
  cases stands with
  | root => rfl
  | under stands => cases whole

end Cst
end Prose

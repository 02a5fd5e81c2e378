import Prose.Tree.Build

namespace Prose

/-!
# Building keeps the text

A tree that is built from a concrete syntax tree has the text that the leaves of the syntax tree spell.
-/

namespace Cst

mutual

/-- The values of the leaves in document order. -/
def pieces : Cst → List String
  | ⟨_, children, value, _⟩ =>
    match children with
    | some list => piecesAll list
    | none => value.toList

def piecesAll : List Cst → List String
  | [] => []
  | node :: rest => node.pieces ++ piecesAll rest

end

@[simp] theorem pieces_leaf (type value : String) : (leaf type value).pieces = [value] := by
  rw [leaf, pieces]
  rfl

@[simp] theorem pieces_parent (type : String) (children : List Cst) :
    (parent type children).pieces = piecesAll children := by
  rw [parent, pieces]

end Cst

namespace Tree

variable {model : Model}

mutual

/-- A tree has the text that its syntax tree spells. -/
theorem join_pieces_of_ofCst : ∀ (cst : Cst) {tree : Tree}, ofCst model cst = .ok tree →
    String.join tree.pieces = String.join cst.pieces
  | ⟨name, none, value, data⟩, tree, built => by
      cases resolved : model.resolve name with
      | error error => rw [ofCst_of_unknown resolved] at built; cases built
      | ok type =>
          cases value with
          | none => rw [ofCst_neither resolved] at built; cases built
          | some text =>
              cases shape : type.shape with
              | parent => rw [ofCst_value_of_parent resolved shape] at built; cases built
              | text =>
                  rw [ofCst_value_of_text resolved shape] at built
                  cases built
                  rw [pieces, Cst.pieces]
                  rfl
  | ⟨name, some children, value, data⟩, tree, built => by
      cases resolved : model.resolve name with
      | error error => rw [ofCst_of_unknown resolved] at built; cases built
      | ok type =>
          cases value with
          | some text => rw [ofCst_both resolved] at built; cases built
          | none =>
              cases shape : type.shape with
              | parent =>
                  rw [ofCst_children_of_parent resolved shape] at built
                  cases builtAll : ofCstAll model children with
                  | error error => rw [builtAll] at built; cases built
                  | ok trees =>
                      rw [builtAll] at built
                      cases built
                      rw [pieces, Cst.pieces]
                      exact join_pieces_of_ofCstAll children builtAll
              | text =>
                  -- Only an empty list of children gets by, and a leaf without text is built.
                  cases children with
                  | nil =>
                      rw [ofCst_empty_of_text resolved shape] at built
                      cases built
                      rw [pieces, Cst.pieces, Cst.piecesAll, String.join_cons, String.join_nil]
                      rfl
                  | cons first rest =>
                      rw [ofCst_children_of_text resolved shape] at built
                      split at built <;> cases built

/-- Several trees have the text that their syntax trees spell. -/
theorem join_pieces_of_ofCstAll : ∀ (list : List Cst) {trees : List Tree},
    ofCstAll model list = .ok trees → String.join (piecesAll trees) = String.join (Cst.piecesAll list)
  | [], trees, built => by
      rw [ofCstAll] at built
      cases built
      rw [piecesAll, Cst.piecesAll]
  | node :: rest, trees, built => by
      rw [ofCstAll] at built
      cases first : ofCst model node with
      | error error => rw [first] at built; cases built
      | ok tree =>
          cases others : ofCstAll model rest with
          | error error => rw [first, others] at built; cases built
          | ok more =>
              rw [first, others] at built
              cases built
              rw [piecesAll, Cst.piecesAll, String.join_append, String.join_append,
                join_pieces_of_ofCst node first, join_pieces_of_ofCstAll rest others]

end

end Tree
end Prose

import Prose.English.Document
import Prose.Proofs.English.Grammar
import Prose.Proofs.Tree.Leaves

namespace Prose
namespace English

/-!
# Nothing of a text is lost

The leaves of a draft, read in document order, are those of the tokens that have been taken in.
Sentences and paragraphs only group nodes that stand next to each other: each token adds its leaf at the
end, after the sentence or the paragraph under way has perhaps been ended.
-/

namespace Draft

/-- The nodes of a draft in document order. -/
def nodes (draft : Draft) : List Cst :=
  draft.root.reverse ++ (draft.paragraph.reverse ++ draft.sentence.reverse)

/-- The nodes that are put in place of some nodes when a group is made of them: none if there are
none. -/
def group (type : String) (nodes : List Cst) : List Cst :=
  if nodes.isEmpty then [] else [Cst.parent type nodes]

variable {draft : Draft}

/-- When a sentence is ended, all of it but the white space at its end is grouped. -/
theorem nodes_endSentence (draft : Draft) :
    draft.endSentence.nodes =
      draft.root.reverse ++ (draft.paragraph.reverse ++
        (group Prose.Kind.sentence (draft.sentence.dropWhile isBlank).reverse ++
          (draft.sentence.takeWhile isBlank).reverse)) := by
  simp only [endSentence, nodes, group, List.isEmpty_reverse]
  split <;> simp

/-- When a paragraph is ended, its nodes are grouped unless all of them are white space. -/
theorem nodes_endParagraph (draft : Draft) :
    draft.endParagraph.nodes =
      draft.endSentence.root.reverse ++
        (if draft.endSentence.paragraph.all isBlank then draft.endSentence.paragraph.reverse
          else [Cst.parent Prose.Kind.paragraph draft.endSentence.paragraph.reverse]) := by
  simp only [endParagraph, nodes]
  split <;> simp [endSentence]

theorem nodes_extend (draft : Draft) (leaf : Cst) :
    (draft.extend leaf).nodes = draft.nodes ++ [leaf] := by
  simp [extend, nodes]

/-- A token adds its leaf at the end.  Before that, the sentence or the paragraph may be ended. -/
theorem nodes_push (draft : Draft) (token : Token) :
    ∃ ended ∈ [draft, draft.endSentence, draft.endParagraph],
      (draft.push token).nodes = ended.nodes ++ [token.leaf] := by
  unfold push
  split
  · split
    · have alone : draft.endParagraph.paragraph = [] ∧ draft.endParagraph.sentence = [] := by
        unfold endParagraph
        simp only
        split <;> exact ⟨rfl, rfl⟩
      refine ⟨draft.endParagraph, by simp, ?_⟩
      simp [nodes, alone]
    · split
      · refine ⟨draft.endSentence, by simp, ?_⟩
        simp [nodes, endSentence]
      · exact ⟨draft, by simp, nodes_extend draft _⟩
  · split
    · exact ⟨draft, by simp, nodes_extend draft _⟩
    · cases draft.closed with
      | true => exact ⟨draft.endSentence, by simp, nodes_extend _ _⟩
      | false => exact ⟨draft, by simp, nodes_extend _ _⟩

/-! ## The leaves of the nodes -/

theorem leaves_group (type : String) (nodes : List Cst) :
    Cst.leavesAll (group type nodes) = Cst.leavesAll nodes := by
  cases nodes with
  | nil => rfl
  | cons node rest => simp [group]

theorem leaves_endSentence (draft : Draft) :
    Cst.leavesAll draft.endSentence.nodes = Cst.leavesAll draft.nodes := by
  have whole : (draft.sentence.dropWhile isBlank).reverse ++
      (draft.sentence.takeWhile isBlank).reverse = draft.sentence.reverse := by
    rw [← List.reverse_append, List.takeWhile_append_dropWhile]
  rw [nodes_endSentence, nodes, ← whole]
  simp only [Cst.leavesAll_append, leaves_group]

theorem leaves_endParagraph (draft : Draft) :
    Cst.leavesAll draft.endParagraph.nodes = Cst.leavesAll draft.nodes := by
  have ended : draft.endSentence.nodes =
      draft.endSentence.root.reverse ++ draft.endSentence.paragraph.reverse := by
    simp [nodes, endSentence]
  rw [← leaves_endSentence draft, ended, nodes_endParagraph]
  simp only [Cst.leavesAll_append]
  split
  · rfl
  · rw [Cst.leavesAll_cons, Cst.leaves_parent, Cst.leavesAll_nil, List.append_nil]

/-- A token adds its leaf behind the others. -/
theorem leaves_push (draft : Draft) (token : Token) :
    Cst.leavesAll (draft.push token).nodes = Cst.leavesAll draft.nodes ++ [token.leaf] := by
  rcases nodes_push draft token with ⟨ended, member, pushed⟩
  have same : Cst.leavesAll ended.nodes = Cst.leavesAll draft.nodes := by
    simp only [List.mem_cons, List.not_mem_nil, or_false] at member
    rcases member with rfl | rfl | rfl
    · rfl
    · exact leaves_endSentence draft
    · exact leaves_endParagraph draft
  rw [pushed, Cst.leavesAll_append, same, Cst.leavesAll_cons, Cst.leavesAll_nil, List.append_nil,
    Token.leaf, Cst.leaves_leaf]

/-- At any time the leaves are those of the tokens taken in. -/
theorem leaves_foldl (tokens : List Token) (draft : Draft) :
    Cst.leavesAll (tokens.foldl push draft).nodes =
      Cst.leavesAll draft.nodes ++ tokens.map Token.leaf := by
  induction tokens generalizing draft with
  | nil => exact (List.append_nil _).symm
  | cons token rest inductionHypothesis =>
      rw [List.foldl_cons, inductionHypothesis, leaves_push, List.append_assoc]
      rfl

/-! ## What can be built of the nodes -/

/-- All nodes can be built over the standard model. -/
def Builds (nodes : List Cst) : Prop :=
  ∀ node ∈ nodes, ∃ tree, Tree.ofCst Model.standard node = .ok tree

theorem Builds.append {nodes more : List Cst} (builds : Builds nodes) (builds' : Builds more) :
    Builds (nodes ++ more) := by
  intro node member
  rcases List.mem_append.mp member with left | right
  · exact builds node left
  · exact builds' node right

theorem Builds.of_subset {nodes more : List Cst} (builds : Builds more)
    (subset : ∀ node ∈ nodes, node ∈ more) : Builds nodes :=
  fun node member => builds node (subset node member)

/-- The names of the levels of a document stand for parent types. -/
theorem resolve_level {type : String}
    (level : type ∈ [Prose.Kind.root, Prose.Kind.paragraph, Prose.Kind.sentence]) :
    Model.standard.resolve type = .ok ⟨type, .parent⟩ := by
  simp only [List.mem_cons, List.not_mem_nil, or_false] at level
  rcases level with rfl | rfl | rfl <;> rfl

/-- A level over nodes that can be built can be built. -/
theorem Builds.parent {type : String} {nodes : List Cst}
    (level : type ∈ [Prose.Kind.root, Prose.Kind.paragraph, Prose.Kind.sentence])
    (builds : Builds nodes) : Builds [Cst.parent type nodes] := by
  have all : ∃ trees, Tree.ofCstAll Model.standard nodes = .ok trees := by
    induction nodes with
    | nil => exact ⟨[], by rw [Tree.ofCstAll]⟩
    | cons node rest inductionHypothesis =>
        rw [Tree.ofCstAll_cons_ok_iff]
        exact ⟨builds node List.mem_cons_self,
          inductionHypothesis (builds.of_subset fun _ => List.mem_cons_of_mem _)⟩
  intro node member
  rcases List.mem_singleton.mp member with rfl
  rcases all with ⟨trees, built⟩
  rw [Cst.parent, Tree.ofCst_children_of_parent (resolve_level level) rfl, built]
  exact ⟨_, rfl⟩

theorem builds_leaf (token : Token) : Builds [token.leaf] := by
  have resolved : Model.standard.resolve token.kind.nodeType = .ok ⟨token.kind.nodeType, .text⟩ := by
    cases token.kind <;> rfl
  intro node member
  rcases List.mem_singleton.mp member with rfl
  exact ⟨_, Tree.ofCst_value_of_text resolved rfl token.text⟩

theorem builds_endSentence (builds : Builds draft.nodes) : Builds draft.endSentence.nodes := by
  have part : ∀ list : List Cst, (∀ node ∈ list, node ∈ draft.sentence) → Builds list := by
    intro list subset
    exact builds.of_subset fun node member => by simp [nodes, subset node member]
  have words : Builds (draft.sentence.dropWhile isBlank).reverse :=
    part _ fun node member => (List.dropWhile_suffix _).subset (List.mem_reverse.mp member)
  have blanks : Builds (draft.sentence.takeWhile isBlank).reverse :=
    part _ fun node member => (List.takeWhile_prefix _).subset (List.mem_reverse.mp member)
  rw [nodes_endSentence]
  refine .append (builds.of_subset ?_) (.append (builds.of_subset ?_) (.append ?_ blanks))
  · exact fun node member => List.mem_append_left _ member
  · exact fun node member => List.mem_append_right _ (List.mem_append_left _ member)
  · unfold group
    split
    · exact fun node member => absurd member List.not_mem_nil
    · exact words.parent (by simp)

theorem builds_endParagraph (builds : Builds draft.nodes) : Builds draft.endParagraph.nodes := by
  have ended := builds_endSentence builds
  rw [nodes_endParagraph]
  refine .append (ended.of_subset ?_) ?_
  · exact fun node member => List.mem_append_left _ member
  · have paragraph : Builds draft.endSentence.paragraph.reverse :=
      ended.of_subset fun node member => List.mem_append_right _ (List.mem_append_left _ member)
    split
    · exact paragraph
    · exact paragraph.parent (by simp)

theorem builds_push (builds : Builds draft.nodes) (token : Token) :
    Builds (draft.push token).nodes := by
  rcases nodes_push draft token with ⟨ended, member, pushed⟩
  rw [pushed]
  refine .append ?_ (builds_leaf token)
  simp only [List.mem_cons, List.not_mem_nil, or_false] at member
  rcases member with rfl | rfl | rfl
  · exact builds
  · exact builds_endSentence builds
  · exact builds_endParagraph builds

theorem builds_foldl (tokens : List Token) (builds : Builds draft.nodes) :
    Builds (tokens.foldl push draft).nodes := by
  induction tokens generalizing draft with
  | nil => exact builds
  | cons token rest inductionHypothesis => exact inductionHypothesis (builds_push builds token)

end Draft

/-! ## Documents -/

/-- The leaves of a document are those of its tokens. -/
theorem leaves_document (tokens : List Token) : (document tokens).leaves = tokens.map Token.leaf := by
  have alone : ∀ draft : Draft, draft.endParagraph.nodes = draft.endParagraph.root.reverse := by
    intro draft
    rw [Draft.nodes_endParagraph]
    simp only [Draft.endParagraph]
    split <;> simp
  rw [document, Draft.finish, Cst.leaves_parent, ← alone, Draft.leaves_endParagraph,
    Draft.leaves_foldl]
  rfl

/-- The values of the leaves of tokens are their texts. -/
theorem values_map_leaf (tokens : List Token) :
    (tokens.map Token.leaf).flatMap (fun leaf => leaf.value.toList) = tokens.map Token.text := by
  rw [List.flatMap_map, List.map_eq_flatMap]
  rfl

/-- The document of any tokens spells them. -/
theorem document_pieces (tokens : List Token) :
    (document tokens).pieces = tokens.map Token.text := by
  rw [Cst.pieces_eq, leaves_document, values_map_leaf]

/-- The document of any tokens can be built over the standard model. -/
theorem document_builds (tokens : List Token) :
    ∃ tree, Tree.ofCst Model.standard (document tokens) = .ok tree := by
  have empty : Draft.Builds Draft.empty.nodes := fun node member => absurd member List.not_mem_nil
  have ended := Draft.builds_endParagraph (Draft.builds_foldl tokens empty)
  have root : Draft.Builds (tokens.foldl Draft.push Draft.empty).endParagraph.root.reverse :=
    ended.of_subset fun node member => List.mem_append_left _ member
  exact root.parent (by simp) _ (List.mem_singleton_self _)

/-- Every text can be read: its grammar accepts it and does not refuse it, the document of the tokens
can be built over the standard model, and the tree has the text. -/
theorem parse_lossless (text : String) :
    (∃ found, Peg.Parses Grammar.tokens text.toList (some (found, [])) ∧
      ¬ Peg.Parses Grammar.tokens text.toList none ∧
      parse text = document (Grammar.regroup [] found)) ∧
    ∃ tree, Tree.ofCst Model.standard (parse text) = .ok tree ∧ tree.text = text := by
  refine ⟨?_, ?_⟩
  · rcases Grammar.accepts text with ⟨found, accepted, unrefused, same⟩
    exact ⟨found, accepted, unrefused, congrArg document same.symm⟩
  · rcases document_builds (Token.scan text) with ⟨tree, built⟩
    refine ⟨tree, built, ?_⟩
    rw [Tree.text, Tree.join_pieces_of_ofCst _ built, document_pieces, ← String.toList_inj,
      String.toList_join, List.flatMap_map]
    exact Token.scan_spell text

end English
end Prose

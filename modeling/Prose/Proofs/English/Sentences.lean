import Prose.Proofs.English.Order

namespace Prose
namespace English

/-!
# Where sentences end

A sentence ends behind its first terminal mark and all the terminal marks and closers that follow it
without a gap, and nowhere else within a paragraph.  So behind the first terminal mark of a sentence there
are only such marks, the next leaf of the document is none, and a sentence without a terminal mark is the
last one of its paragraph.
-/

open Draft (isTerminal isTrailer)

/-! ## Marks -/

/-- A punctuation node whose text is one of some marks. -/
def IsMark (marks : List String) (node : Cst) : Prop :=
  node.type = Prose.Kind.punctuation ∧ ∃ mark ∈ marks, node.value = some mark

def IsTerminal (node : Cst) : Prop := IsMark terminals node

/-- A quote or bracket that belongs to a sentence that has ended in front of it. -/
def IsCloser (node : Cst) : Prop := IsMark closers node

theorem isMark_leaf {marks : List String} {token : Token} :
    IsMark marks token.leaf ↔ token.kind = .punctuation ∧ token.text ∈ marks := by
  have text : (∃ mark ∈ marks, token.leaf.value = some mark) ↔ token.text ∈ marks := by
    constructor
    · rintro ⟨mark, member, ⟨⟩⟩
      exact member
    · exact fun member => ⟨token.text, member, rfl⟩
  have type : token.kind.nodeType = Kind.punctuation.nodeType ↔ token.kind = .punctuation := nodeType_inj
  exact and_congr type text

theorem isTerminal_leaf {token : Token} : IsTerminal token.leaf ↔ isTerminal token = true := by
  rw [IsTerminal, isMark_leaf]
  simp [isTerminal]

theorem isTrailer_leaf {token : Token} :
    IsTerminal token.leaf ∨ IsCloser token.leaf ↔ isTrailer token = true := by
  rw [IsTerminal, IsCloser, isMark_leaf, isMark_leaf, ← and_or_left]
  simp [isTrailer, or_comm]

theorem not_isTrailer_of_isSpace {node : Cst} (space : IsSpace node) :
    ¬ (IsTerminal node ∨ IsCloser node) := by
  rcases space with ⟨token, kind, rfl⟩
  rw [isTrailer_leaf]
  simp [isTrailer, kind]

/-! ## The places of sentences -/

theorem not_sentence_of_leaf {node : Cst} {token : Token} (same : node = token.leaf) :
    node.type ≠ Prose.Kind.sentence := by
  rw [same]
  exact (nodeType_ne_level token.kind).2.2

theorem not_sentence_of_isSpace {node : Cst} (space : IsSpace node) :
    node.type ≠ Prose.Kind.sentence := by
  rcases space with ⟨token, _, same⟩
  exact not_sentence_of_leaf same

/-- A sentence that stands in a sentence made of words is that sentence. -/
theorem stands_in_words {sentence : Cst} {front back : List Cst} {words : List Token}
    (type : sentence.type = Prose.Kind.sentence)
    (stands : Cst.Stands sentence front
      (.parent Prose.Kind.sentence (words.map Token.leaf)) back) :
    sentence = .parent Prose.Kind.sentence (words.map Token.leaf) ∧ back = [] := by
  rcases stands.of_parent with ⟨same, _, none⟩ | ⟨before, child, after, _, _, split, inside, _⟩
  · exact ⟨same, none⟩
  · have member : child ∈ words.map Token.leaf := by rw [split]; simp
    rcases List.mem_map.mp member with ⟨token, _, rfl⟩
    exact absurd type (not_sentence_of_leaf inside.of_leaf)

/-- A sentence stands in a paragraph, followed there as it should be, and what is behind the paragraph
starts with white space. -/
theorem exists_place {tokens : List Token} {sentence : Cst} {front back : List Cst}
    (type : sentence.type = Prose.Kind.sentence)
    (stands : Cst.Stands sentence front (document tokens) back) :
    ∃ after rest, Cut sentence after ∧ back = Cst.leavesAll after ++ Cst.leavesAll rest ∧
      ∀ node, rest.head? = some node → IsSpace node := by
  rcases parted_document tokens with ⟨nodes, root, parted⟩
  rw [root] at stands
  rcases stands.of_parent with ⟨same, _⟩ | ⟨before, child, rest, _, last, split, inside, _, behind⟩
  · rw [same, Cst.parent_type] at type
    exact absurd type (by decide)
  · cases parted.of_split split with
    | part parts => exact absurd type (not_sentence_of_leaf inside.of_leaf)
    | space space => exact absurd type (not_sentence_of_leaf inside.of_leaf)
    | @paragraph section' _ word within next =>
        rcases inside.of_parent with ⟨same, _⟩ | ⟨_, part, after, _, end', split', inside', _, behind'⟩
        · rw [same, Cst.parent_type] at type
          exact absurd type (by decide)
        · have cut := (cut_contents section').of_split split'
          have alone : sentence = part ∧ end' = [] := by
            cases cut with
            | space space =>
                rcases space with ⟨token, _, rfl⟩
                exact absurd type (not_sentence_of_leaf inside'.of_leaf)
            | closed => exact stands_in_words type inside'
            | unclosed => exact stands_in_words type inside'
          refine ⟨after, rest, alone.1 ▸ cut, ?_, fun node first => ?_⟩
          · rw [behind, behind', alone.2, List.nil_append]
          · rcases next node first with ⟨token, parts, same⟩
            exact ⟨token, kind_of_isBreak parts, same⟩

/-! ## The cut -/

/-- Behind a terminal mark of a closed sentence there are only marks that trail it. -/
theorem isTrailer_of_split {front trail before after : List Token} {mark token : Token}
    (others : ∀ token ∈ front, isTerminal token = false)
    (trailing : ∀ token ∈ trail, isTrailer token = true)
    (split : front ++ mark :: trail = before ++ token :: after)
    (terminal : isTerminal token = true) : ∀ token ∈ after, isTrailer token = true := by
  induction front generalizing before with
  | nil =>
      cases before with
      | nil =>
          cases split
          exact trailing
      | cons first more =>
          cases split
          exact fun token member => trailing token (by simp [member])
  | cons first front inductionHypothesis =>
      rw [List.forall_mem_cons] at others
      cases before with
      | nil =>
          cases split
          rw [others.1] at terminal
          cases terminal
      | cons first more => exact inductionHypothesis others.2 (List.cons.inj split).2

/-- The first leaf of nodes that start with white space, if they do, is white space. -/
theorem head_leavesAll {nodes : List Cst} (space : ∀ node, nodes.head? = some node → IsSpace node)
    {next : Cst} (first : (Cst.leavesAll nodes).head? = some next) : IsSpace next := by
  cases nodes with
  | nil =>
      rw [Cst.leavesAll_nil] at first
      cases first
  | cons node rest =>
      rcases space node rfl with ⟨token, kind, rfl⟩
      rw [Cst.leavesAll_cons, Token.leaf, Cst.leaves_leaf] at first
      cases first
      exact ⟨token, kind, rfl⟩

/-- Every sentence of a document is cut exactly.  Behind a terminal mark in it there are only terminal
marks and closers, and the leaf that follows the sentence is none.  A sentence without a terminal mark
is the last one of the paragraph that it stands in. -/
structure CutExactly (document : Cst) : Prop where
  closed : ∀ sentence front back, Cst.Stands sentence front document back →
    sentence.type = Prose.Kind.sentence →
    ∀ before mark after, sentence.leaves = before ++ mark :: after → IsTerminal mark →
      (∀ leaf ∈ after, IsTerminal leaf ∨ IsCloser leaf) ∧
        ∀ next, back.head? = some next → ¬ (IsTerminal next ∨ IsCloser next)
  last : ∀ node ∈ document.subtrees, ∀ before sentence after,
    node.children = some (before ++ sentence :: after) → sentence.type = Prose.Kind.sentence →
    (∀ leaf ∈ sentence.leaves, ¬ IsTerminal leaf) →
      node.type = Prose.Kind.paragraph ∧ ∀ other ∈ after, other.type ≠ Prose.Kind.sentence

theorem leaves_sentence (words : List Token) :
    (Cst.parent Prose.Kind.sentence (words.map Token.leaf)).leaves = words.map Token.leaf := by
  rw [Cst.leaves_parent, leavesAll_map_leaf]

theorem closed_document {tokens : List Token} {sentence mark : Cst}
    {front back before after : List Cst} (stands : Cst.Stands sentence front (document tokens) back)
    (type : sentence.type = Prose.Kind.sentence)
    (leaves : sentence.leaves = before ++ mark :: after) (terminal : IsTerminal mark) :
    (∀ leaf ∈ after, IsTerminal leaf ∨ IsCloser leaf) ∧
      ∀ next, back.head? = some next → ¬ (IsTerminal next ∨ IsCloser next) := by
  rcases exists_place type stands with ⟨further, rest, cut, rfl, space⟩
  cases cut with
  | space space => exact absurd type (not_sentence_of_isSpace space)
  | closed behind trimmed others closes trailing maximal =>
      rw [leaves_sentence] at leaves
      rcases List.map_eq_append_iff.mp leaves with ⟨first, more, split, _, second⟩
      rcases List.map_eq_cons_iff.mp second with ⟨token, last, rfl, rfl, rfl⟩
      constructor
      · intro leaf member
        rcases List.mem_map.mp member with ⟨other, inside, rfl⟩
        exact isTrailer_leaf.mpr
          (isTrailer_of_split others trailing split (isTerminal_leaf.mp terminal) other inside)
      · -- The next leaf is the next token of the paragraph, or white space behind the paragraph.
        intro next found
        rw [leaves_contents] at found
        cases behind with
        | nil => exact not_isTrailer_of_isSpace (head_leavesAll space found)
        | cons other behind =>
            cases found
            rw [isTrailer_leaf, maximal other rfl]
            exact Bool.false_ne_true
  | unclosed trimmed others spaces =>
      rw [leaves_sentence] at leaves
      have member : mark ∈ before ++ mark :: after := List.mem_append_right _ List.mem_cons_self
      rw [← leaves] at member
      rcases List.mem_map.mp member with ⟨token, inside, rfl⟩
      rw [isTerminal_leaf, others token inside] at terminal
      cases terminal

theorem last_document {tokens : List Token} {node sentence : Cst} {before after : List Cst}
    (member : node ∈ (document tokens).subtrees)
    (children : node.children = some (before ++ sentence :: after))
    (type : sentence.type = Prose.Kind.sentence)
    (others : ∀ leaf ∈ sentence.leaves, ¬ IsTerminal leaf) :
    node.type = Prose.Kind.paragraph ∧ ∀ other ∈ after, other.type ≠ Prose.Kind.sentence := by
  rcases part_of_mem member with rfl | part
  · rcases parted_document tokens with ⟨nodes, root, parted⟩
    rw [root] at children
    cases parted.of_split (Option.some.inj children) with
    | part parts => exact absurd type (not_sentence_of_leaf rfl)
    | space space => exact absurd type (not_sentence_of_leaf rfl)
    | paragraph =>
        rw [Cst.parent_type] at type
        exact absurd type (by decide)
  · cases part with
    | leaf token => cases children
    | sentence trimmed =>
        have word : sentence ∈ before ++ sentence :: after :=
          List.mem_append_right _ List.mem_cons_self
        rw [← Option.some.inj children] at word
        rcases List.mem_map.mp word with ⟨token, _, rfl⟩
        exact absurd type (not_sentence_of_leaf rfl)
    | paragraph word within =>
        refine ⟨rfl, fun other behind => ?_⟩
        cases (cut_contents _).of_split (Option.some.inj children) with
        | space space => exact absurd type (not_sentence_of_isSpace space)
        | @closed front trail mark _ _ _ terminal =>
            have inside : mark.leaf ∈ (front ++ mark :: trail).map Token.leaf :=
              List.mem_map_of_mem (List.mem_append_right _ List.mem_cons_self)
            rw [leaves_sentence] at others
            exact absurd (isTerminal_leaf.mpr terminal) (others _ inside)
        | unclosed trimmed words spaces => exact not_sentence_of_isSpace (spaces other behind)

/-- Every sentence of every text is cut exactly. -/
theorem parse_cutExactly (text : String) : CutExactly (parse text) where
  closed _ _ _ stands type _ _ _ leaves terminal := closed_document stands type leaves terminal
  last _ member _ _ _ children type others := last_document member children type others

/-- A bracket that is closed behind the mark belongs to the sentence, and the white space behind it does
not. -/
example :
    document [⟨.word, "Go"⟩, ⟨.punctuation, "."⟩, ⟨.punctuation, ")"⟩, ⟨.whiteSpace, " "⟩, ⟨.word, "On"⟩] =
      .parent Prose.Kind.root
        [.parent Prose.Kind.paragraph
          [.parent Prose.Kind.sentence
            [.leaf Prose.Kind.word "Go", .leaf Prose.Kind.punctuation ".", .leaf Prose.Kind.punctuation ")"],
            .leaf Prose.Kind.whiteSpace " ",
            .parent Prose.Kind.sentence [.leaf Prose.Kind.word "On"]]] := by decide

end English
end Prose

import Prose.Proofs.English.Order

namespace Prose
namespace English

/-!
# Grouping any tokens

Grouping does not rely on what the scanner gives.  The tokens may stand in any order, white space next to
white space and marks of any kind, and their texts may be empty: each token is one leaf of the document, at
its place.  A sentence starts and ends with a leaf that is not white space, and a paragraph has a sentence.
White space is all that stands in a paragraph beside its sentences, and in the root beside its paragraphs.
-/

/-- What grouping makes of tokens. -/
structure Grouped (tokens : List Token) (document : Cst) : Prop where
  leaves : document.leaves = tokens.map Token.leaf
  root : ∃ nodes, document = .parent Prose.Kind.root nodes ∧
    ∀ node ∈ nodes, IsSpace node ∨ node.type = Prose.Kind.paragraph
  paragraph : ∀ node ∈ document.subtrees, node.type = Prose.Kind.paragraph →
    (∃ parts, node = .parent Prose.Kind.paragraph parts ∧
      ∀ part ∈ parts, IsSpace part ∨ part.type = Prose.Kind.sentence) ∧
    ∃ leaf ∈ node.leaves, leaf.type ≠ Prose.Kind.whiteSpace
  sentence : ∀ node ∈ document.subtrees, node.type = Prose.Kind.sentence →
    ∃ words : List Token,
      node = .parent Prose.Kind.sentence (words.map Token.leaf) ∧ Trimmed words

theorem Parted.space_or_paragraph {node : Cst} {after : List Cst} (parted : Parted node after) :
    IsSpace node ∨ node.type = Prose.Kind.paragraph := by
  cases parted with
  | part parts => exact .inl ⟨_, kind_of_isBreak parts, rfl⟩
  | space space next => exact .inl ⟨_, space, rfl⟩
  | paragraph word within next => exact .inr rfl

theorem Cut.space_or_sentence {node : Cst} {after : List Cst} (cut : Cut node after) :
    IsSpace node ∨ node.type = Prose.Kind.sentence := by
  cases cut with
  | space space => exact .inl space
  | closed => exact .inr rfl
  | unclosed => exact .inr rfl

/-- A node of a paragraph is white space or a sentence, and the paragraph is not all white space. -/
theorem Part.of_paragraph {node : Cst} (part : Part node) (type : node.type = Prose.Kind.paragraph) :
    (∃ parts, node = .parent Prose.Kind.paragraph parts ∧
      ∀ part ∈ parts, IsSpace part ∨ part.type = Prose.Kind.sentence) ∧
    ∃ leaf ∈ node.leaves, leaf.type ≠ Prose.Kind.whiteSpace := by
  cases part with
  | leaf token => exact absurd type (nodeType_ne_level token.kind).2.1
  | sentence trimmed =>
      rw [Cst.parent_type] at type
      exact absurd type (by decide)
  | @paragraph tokens word within =>
      constructor
      · refine ⟨_, rfl, fun part member => ?_⟩
        rcases List.append_of_mem member with ⟨before, after, split⟩
        exact ((cut_contents tokens).of_split split).space_or_sentence
      · rcases word with ⟨token, member, kind⟩
        rw [Cst.leaves_parent, leaves_contents]
        exact ⟨token.leaf, List.mem_map_of_mem member, fun blank => kind (nodeType_inj.mp blank)⟩

/-- A sentence has words, and starts and ends with one that is not white space. -/
theorem Part.of_sentence {node : Cst} (part : Part node) (type : node.type = Prose.Kind.sentence) :
    ∃ words : List Token, node = .parent Prose.Kind.sentence (words.map Token.leaf) ∧ Trimmed words := by
  cases part with
  | leaf token => exact absurd type (nodeType_ne_level token.kind).2.2
  | sentence trimmed => exact ⟨_, rfl, trimmed⟩
  | paragraph word within =>
      rw [Cst.parent_type] at type
      exact absurd type (by decide)

/-- A node of a document that has another type than the root stands below it. -/
theorem part_of_type {tokens : List Token} {node : Cst} (member : node ∈ (document tokens).subtrees)
    (type : node.type ≠ Prose.Kind.root) : Part node := by
  refine (part_of_mem member).resolve_left fun same => type ?_
  rw [same, document, Draft.finish, Cst.parent_type]

/-- The document of any tokens groups them. -/
theorem document_grouped (tokens : List Token) : Grouped tokens (document tokens) := by
  rcases parted_document tokens with ⟨nodes, root, parted⟩
  constructor
  case leaves => exact leaves_document tokens
  case root =>
    refine ⟨nodes, root, fun node member => ?_⟩
    rcases List.append_of_mem member with ⟨before, after, split⟩
    exact (parted.of_split split).space_or_paragraph
  case paragraph =>
    intro node member type
    have below : node.type ≠ Prose.Kind.root := by rw [type]; decide
    exact (part_of_type member below).of_paragraph type
  case sentence =>
    intro node member type
    have below : node.type ≠ Prose.Kind.root := by rw [type]; decide
    exact (part_of_type member below).of_sentence type

/-- White space next to white space, a mark that is a word, and an empty mark behind a terminal one. -/
example :
    document [⟨.whiteSpace, ""⟩, ⟨.word, "."⟩, ⟨.whiteSpace, " "⟩, ⟨.whiteSpace, "\n"⟩,
        ⟨.punctuation, "."⟩, ⟨.punctuation, ""⟩] =
      .parent Prose.Kind.root
        [.parent Prose.Kind.paragraph
          [.leaf Prose.Kind.whiteSpace "",
            .parent Prose.Kind.sentence
              [.leaf Prose.Kind.word ".", .leaf Prose.Kind.whiteSpace " ",
                .leaf Prose.Kind.whiteSpace "\n", .leaf Prose.Kind.punctuation "."],
            .parent Prose.Kind.sentence [.leaf Prose.Kind.punctuation ""]]] := by decide

end English
end Prose

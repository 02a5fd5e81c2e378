import Prose.Proofs.English.Sections

namespace Prose
namespace English

/-!
# What stands behind what

Two relations between a node and the nodes behind it carry all that is known about the order of a
document.  `Cut` is about the nodes of a paragraph, which are white space and sentences: what is behind a
sentence does not belong to it.  `Parted` is about the nodes of the root, which are white space and
paragraphs: what is behind a paragraph is a break.  Each of them holds throughout.
-/

open Draft (isTerminal isTrailer)

/-! ## Lists read with what is behind -/

section

variable {α : Type} {relation : α → List α → Prop}

/-- A relation holds between every member of a list and the members behind it. -/
def Throughout (relation : α → List α → Prop) : List α → Prop
  | [] => True
  | item :: rest => relation item rest ∧ Throughout relation rest

theorem throughout_append {list more : List α} :
    Throughout relation (list ++ more) ↔
      Throughout (fun item rest => relation item (rest ++ more)) list ∧ Throughout relation more := by
  induction list with
  | nil => exact (iff_of_eq (true_and _)).symm
  | cons item rest inductionHypothesis =>
      rw [List.cons_append, Throughout, Throughout, inductionHypothesis, and_assoc]

theorem throughout_of_forall {list : List α} (all : ∀ item ∈ list, ∀ rest, relation item rest) :
    Throughout relation list := by
  induction list with
  | nil => exact trivial
  | cons item rest inductionHypothesis =>
      rw [List.forall_mem_cons] at all
      exact ⟨all.1 rest, inductionHypothesis all.2⟩

theorem Throughout.of_split {list before after : List α} {item : α}
    (all : Throughout relation list) (split : list = before ++ item :: after) :
    relation item after := by
  rw [split, throughout_append] at all
  exact all.2.1

end

/-! ## Leaves -/

theorem nodeType_inj {kind other : Kind} : kind.nodeType = other.nodeType ↔ kind = other := by
  cases kind <;> cases other <;> decide

/-- No leaf has the type of a level of the document. -/
theorem nodeType_ne_level (kind : Kind) :
    kind.nodeType ≠ Prose.Kind.root ∧ kind.nodeType ≠ Prose.Kind.paragraph ∧
      kind.nodeType ≠ Prose.Kind.sentence := by
  cases kind <;> decide

def IsSpace (node : Cst) : Prop := ∃ token : Token, token.kind = .whiteSpace ∧ node = token.leaf

theorem isSpace_of_mem {tokens : List Token} (spaces : ∀ token ∈ tokens, token.kind = .whiteSpace) :
    ∀ node ∈ tokens.map Token.leaf, IsSpace node := by
  intro node member
  rcases List.mem_map.mp member with ⟨token, inside, same⟩
  exact ⟨token, spaces token inside, same.symm⟩

/-! ## Paragraphs -/

/-- The words of a sentence have no white space at either end. -/
structure Trimmed (words : List Token) : Prop where
  head : ∃ word, words.head? = some word ∧ word.kind ≠ .whiteSpace
  last : ∃ word, words.getLast? = some word ∧ word.kind ≠ .whiteSpace

/-- How a node of a paragraph is followed.  A closed sentence ends with its first terminal mark and the
marks that trail it, and no such mark is the next token; behind one that is not closed there is white
space only. -/
inductive Cut : Cst → List Cst → Prop where
  | space {node : Cst} (space : IsSpace node) (after : List Cst) : Cut node after
  | closed {front trail : List Token} {mark : Token} (behind : List Token)
      (trimmed : Trimmed (front ++ mark :: trail))
      (before : ∀ token ∈ front, isTerminal token = false) (terminal : isTerminal mark = true)
      (trailing : ∀ token ∈ trail, isTrailer token = true)
      (maximal : ∀ next, behind.head? = some next → isTrailer next = false) :
      Cut (.parent Prose.Kind.sentence ((front ++ mark :: trail).map Token.leaf)) (contents behind)
  | unclosed {words : List Token} {after : List Cst} (trimmed : Trimmed words)
      (other : ∀ token ∈ words, isTerminal token = false) (spaces : ∀ node ∈ after, IsSpace node) :
      Cut (.parent Prose.Kind.sentence (words.map Token.leaf)) after

theorem Opening.trimmed {token : Token} {rest words blanks : List Token}
    (opening : Opening token rest words blanks) (word : token.kind ≠ .whiteSpace) :
    Trimmed words := by
  refine ⟨⟨token, opening.head, word⟩, ?_⟩
  cases final : words.getLast? with
  | none =>
      have head := opening.head
      rw [List.getLast?_eq_none_iff.mp final] at head
      cases head
  | some last => exact ⟨last, rfl, opening.last last final⟩

theorem cut_contents (tokens : List Token) : Throughout Cut (contents tokens) := by
  induction tokens using contents_induction with
  | nil =>
      rw [contents]
      exact trivial
  | blank token rest kind inductionHypothesis =>
      rw [contents_of_blank kind]
      exact ⟨.space ⟨token, kind, rfl⟩ _, inductionHypothesis⟩
  | word token rest kind inductionHypothesis =>
      rcases exists_opening kind rest with ⟨words, blanks, opening⟩
      have spaces := isSpace_of_mem opening.blank
      have trimmed := opening.trimmed kind
      rw [opening.nodes]
      refine ⟨?_, throughout_append.mpr ⟨?_, inductionHypothesis⟩⟩
      · cases firstSentence_ending (token :: rest) with
        | closed front mark trail closing before terminal trailing maximal =>
            -- A closed sentence has no white space at its end, so its words are all of its tokens.
            have mark : mark ∈ (firstSentence (token :: rest)).1 := by rw [closing]; simp
            have none : blanks = [] := opening.tight.elim id fun other => by
              rw [other _ mark] at terminal
              cases terminal
            have whole := opening.tokens
            rw [none, List.append_nil, closing] at whole
            subst none
            subst whole
            exact .closed _ trimmed before terminal trailing maximal
        | unclosed other none =>
            rw [none, contents, List.append_nil]
            refine .unclosed trimmed (fun word member => other word ?_) spaces
            rw [opening.tokens]
            exact List.mem_append_left _ member
      · exact throughout_of_forall fun node member rest => .space (spaces node member) _

/-! ## The root -/

theorem contents_of_spaces {tokens : List Token} (spaces : ∀ token ∈ tokens, token.kind = .whiteSpace) :
    contents tokens = tokens.map Token.leaf := by
  induction tokens with
  | nil => rw [contents]; rfl
  | cons token rest inductionHypothesis =>
      rw [List.forall_mem_cons] at spaces
      rw [contents_of_blank spaces.1, inductionHypothesis spaces.2, List.map_cons]

/-- A section that is not all white space has a sentence. -/
theorem exists_sentence {tokens : List Token} (word : ∃ token ∈ tokens, token.kind ≠ .whiteSpace) :
    ∃ words : List Token, Cst.parent Prose.Kind.sentence (words.map Token.leaf) ∈ contents tokens := by
  induction tokens using contents_induction with
  | nil =>
      rcases word with ⟨token, member, _⟩
      cases member
  | blank token rest kind inductionHypothesis =>
      have behind : ∃ token ∈ rest, token.kind ≠ .whiteSpace := by
        rcases word with ⟨other, member, some⟩
        rcases List.mem_cons.mp member with same | inside
        · exact absurd (same ▸ kind) some
        · exact ⟨other, inside, some⟩
      rcases inductionHypothesis behind with ⟨words, member⟩
      rw [contents_of_blank kind]
      exact ⟨words, List.mem_cons_of_mem _ member⟩
  | word token rest kind _ =>
      rcases exists_opening kind rest with ⟨words, blanks, opening⟩
      rw [opening.nodes]
      exact ⟨words, List.mem_cons_self⟩

theorem block_of_spaces {tokens : List Token} (spaces : ∀ token ∈ tokens, token.kind = .whiteSpace) :
    block tokens = tokens.map Token.leaf := by
  have blank : (tokens.map Token.leaf).all isBlank = true := by
    rw [List.all_map, List.all_eq_true]
    intro token member
    exact (isBlank_leaf token).trans (decide_eq_true (spaces token member))
  rw [block, contents_of_spaces spaces, if_pos blank]

theorem block_of_word {tokens : List Token} (word : ∃ token ∈ tokens, token.kind ≠ .whiteSpace) :
    block tokens = [Cst.parent Prose.Kind.paragraph (contents tokens)] := by
  rw [block, if_neg]
  intro blank
  rcases exists_sentence word with ⟨words, member⟩
  have impossible := List.all_eq_true.mp blank _ member
  have same : Prose.Kind.sentence = Prose.Kind.whiteSpace := of_decide_eq_true impossible
  exact absurd same (by decide)

/-- How a node of the root is followed: a break by anything, other white space by white space only, and
a paragraph by a break. -/
inductive Parted : Cst → List Cst → Prop where
  | part {token : Token} (parts : isBreak token = true) (after : List Cst) : Parted token.leaf after
  | space {token : Token} {after : List Cst} (space : token.kind = .whiteSpace)
      (next : ∀ node, after.head? = some node → IsSpace node) : Parted token.leaf after
  | paragraph {tokens : List Token} {after : List Cst}
      (word : ∃ token ∈ tokens, token.kind ≠ .whiteSpace)
      (within : ∀ token ∈ tokens, isBreak token = false)
      (next : ∀ node, after.head? = some node → ∃ token, isBreak token = true ∧ node = token.leaf) :
      Parted (.parent Prose.Kind.paragraph (contents tokens)) after

/-- The nodes of a section are followed as they should be if a break follows them. -/
theorem parted_block {tokens : List Token} (within : ∀ token ∈ tokens, isBreak token = false)
    {after : List Cst}
    (next : ∀ node, after.head? = some node → ∃ token, isBreak token = true ∧ node = token.leaf) :
    Throughout (fun node rest => Parted node (rest ++ after)) (block tokens) := by
  by_cases spaces : ∀ token ∈ tokens, token.kind = .whiteSpace
  · rw [block_of_spaces spaces]
    -- Each node is white space here; only the last one is followed by the break.
    clear within
    induction tokens with
    | nil => exact trivial
    | cons token rest inductionHypothesis =>
        rw [List.forall_mem_cons] at spaces
        refine ⟨.space spaces.1 fun node first => ?_, inductionHypothesis spaces.2⟩
        cases rest with
        | nil =>
            rcases next node first with ⟨other, parts, same⟩
            exact ⟨other, kind_of_isBreak parts, same⟩
        | cons other further =>
            cases first
            exact ⟨other, spaces.2 other List.mem_cons_self, rfl⟩
  · have word : ∃ token ∈ tokens, token.kind ≠ .whiteSpace := by
      simpa only [not_forall, exists_prop] using spaces
    rw [block_of_word word]
    exact ⟨.paragraph word within next, trivial⟩

theorem parted_levels {first : List Token} {more : List (Token × List Token)}
    (within : ∀ token ∈ first, isBreak token = false)
    (parts : ∀ part ∈ more, isBreak part.1 = true ∧ ∀ token ∈ part.2, isBreak token = false) :
    Throughout Parted (levels first more) := by
  induction more generalizing first with
  | nil =>
      have alone : Throughout (fun node rest => Parted node (rest ++ [])) (block first) :=
        parted_block within nofun
      simpa only [levels, List.append_nil] using alone
  | cons part rest inductionHypothesis =>
      rcases part with ⟨token, tokens⟩
      rw [List.forall_mem_cons] at parts
      rw [levels, throughout_append]
      refine ⟨parted_block within fun node first => ?_, .part parts.1.1 _,
        inductionHypothesis parts.1.2 parts.2⟩
      cases first
      exact ⟨token, parts.1.1, rfl⟩

/-- Every node below the root of a document is followed as it should be. -/
theorem parted_document (tokens : List Token) :
    ∃ nodes, document tokens = .parent Prose.Kind.root nodes ∧ Throughout Parted nodes := by
  have breaks := sections_breaks tokens
  exact ⟨_, document_eq tokens, parted_levels breaks.1 breaks.2⟩

/-! ## The nodes of a document -/

/-- What can stand below the root of a document. -/
inductive Part : Cst → Prop where
  | leaf (token : Token) : Part token.leaf
  | sentence {words : List Token} (trimmed : Trimmed words) :
      Part (.parent Prose.Kind.sentence (words.map Token.leaf))
  | paragraph {tokens : List Token} (word : ∃ token ∈ tokens, token.kind ≠ .whiteSpace)
      (within : ∀ token ∈ tokens, isBreak token = false) :
      Part (.parent Prose.Kind.paragraph (contents tokens))

theorem part_of_mem_leaf {node : Cst} {token : Token} (member : node ∈ token.leaf.subtrees) :
    Part node := by
  rw [Token.leaf, Cst.mem_subtrees_leaf] at member
  rw [member]
  exact .leaf token

theorem part_of_mem_sentence {node : Cst} {words : List Token} (trimmed : Trimmed words)
    (member : node ∈ (Cst.parent Prose.Kind.sentence (words.map Token.leaf)).subtrees) :
    Part node := by
  rcases Cst.mem_subtrees_parent.mp member with same | ⟨child, inside, below⟩
  · rw [same]
    exact .sentence trimmed
  · rcases List.mem_map.mp inside with ⟨token, _, rfl⟩
    exact part_of_mem_leaf below

theorem Cut.part_of_mem {child node : Cst} {after : List Cst} (cut : Cut child after)
    (member : node ∈ child.subtrees) : Part node := by
  cases cut with
  | space space =>
      rcases space with ⟨token, _, rfl⟩
      exact part_of_mem_leaf member
  | closed behind trimmed => exact part_of_mem_sentence trimmed member
  | unclosed trimmed => exact part_of_mem_sentence trimmed member

theorem Parted.part_of_mem {child node : Cst} {after : List Cst} (parted : Parted child after)
    (member : node ∈ child.subtrees) : Part node := by
  cases parted with
  | part parts => exact part_of_mem_leaf member
  | space space next => exact part_of_mem_leaf member
  | paragraph word within next =>
      rcases Cst.mem_subtrees_parent.mp member with same | ⟨child, inside, below⟩
      · rw [same]
        exact .paragraph word within
      · rcases List.append_of_mem inside with ⟨before, after, split⟩
        exact ((cut_contents _).of_split split).part_of_mem below

/-- A node of a document is its root or stands below it. -/
theorem part_of_mem {tokens : List Token} {node : Cst} (member : node ∈ (document tokens).subtrees) :
    node = document tokens ∨ Part node := by
  rcases parted_document tokens with ⟨nodes, root, parted⟩
  rw [root] at member ⊢
  rcases Cst.mem_subtrees_parent.mp member with same | ⟨child, inside, below⟩
  · exact Or.inl same
  · rcases List.append_of_mem inside with ⟨before, after, split⟩
    exact Or.inr ((parted.of_split split).part_of_mem below)

end English
end Prose

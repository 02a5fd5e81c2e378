import Prose.Proofs.English.Slices
import Prose.Proofs.English.Order

namespace Prose
namespace English

/-!
# Sentences stand on their own

The words of a sentence are tokens next to each other.  Neither the place where a sentence starts nor the
one where it ends lies between two symbols: in front of it there is white space or the mark that ends the
sentence before, and it ends with such a mark itself or in front of white space.  So the text of a
sentence has the same tokens alone, and as nothing but white space stood behind its last mark or trailer,
they form the same sentence.
-/

open Draft (isTerminal isTrailer group)
open Token (Seam)

/-! ## The words of a sentence -/

theorem firstSentence_of_others {words : List Token}
    (others : ∀ word ∈ words, isTerminal word = false) : firstSentence words = (words, []) := by
  induction words with
  | nil => rfl
  | cons word rest inductionHypothesis =>
      rw [List.forall_mem_cons] at others
      rw [firstSentence_of_not_terminal others.1, inductionHypothesis others.2]

/-- The tokens of a sentence make up one sentence. -/
theorem firstSentence_firstSentence (tokens : List Token) :
    firstSentence (firstSentence tokens).1 = ((firstSentence tokens).1, []) := by
  induction tokens with
  | nil => rfl
  | cons token rest inductionHypothesis =>
      cases terminal : isTerminal token with
      | true =>
          have trailing : ∀ token ∈ rest.takeWhile isTrailer, isTrailer token = true :=
            List.all_eq_true.mp List.all_takeWhile
          rw [firstSentence_of_terminal terminal, firstSentence_of_terminal terminal,
            List.takeWhile_eq_self_iff.mpr trailing, List.dropWhile_eq_nil_iff.mpr trailing]
      | false =>
          rw [firstSentence_of_not_terminal terminal, firstSentence_of_not_terminal terminal,
            inductionHypothesis]

/-- Without the white space at its end, the same sentence is left. -/
theorem Opening.firstSentence_eq {token : Token} {rest words blanks : List Token}
    (opening : Opening token rest words blanks) : firstSentence words = (words, []) := by
  have whole := firstSentence_firstSentence (token :: rest)
  rcases opening.tight with rfl | others
  · rw [opening.tokens, List.append_nil] at whole
    exact whole
  · refine firstSentence_of_others fun word member => others word ?_
    rw [opening.tokens]
    exact List.mem_append_left _ member

/-- Unless nothing is behind it, a sentence ends with a mark. -/
theorem firstSentence_last (tokens : List Token) :
    (firstSentence tokens).2 = [] ∨
      ∀ last, (firstSentence tokens).1.getLast? = some last → last.kind = .punctuation := by
  cases firstSentence_ending tokens with
  | unclosed words none => exact .inl none
  | closed front mark trail words before terminal trailing maximal =>
      refine .inr fun last final => ?_
      have marks : ∀ token ∈ mark :: trail, token.kind = .punctuation := by
        rw [List.forall_mem_cons]
        constructor
        · rw [isTerminal, Bool.and_eq_true, decide_eq_true_eq] at terminal
          exact terminal.1
        · intro token member
          have trailer := trailing token member
          rw [isTrailer, Bool.and_eq_true, decide_eq_true_eq] at trailer
          exact trailer.1
      rw [words, List.getLast?_append_of_ne_nil _ (List.cons_ne_nil mark trail)] at final
      exact marks last (List.mem_of_getLast? final)

/-! ## Slots -/

/-- The words of a sentence among the tokens of a section or of a document, with seams on both sides. -/
structure Slot (before words after : List Token) : Prop where
  trimmed : Trimmed words
  whole : firstSentence words = (words, [])
  within : ∀ word ∈ words, isBreak word = false
  left : ∀ last, before.getLast? = some last → last.kind ≠ .symbol
  right : Seam words after

theorem Slot.behind {front before words after : List Token} (slot : Slot before words after)
    (clear : ∀ last, front.getLast? = some last → last.kind ≠ .symbol) :
    Slot (front ++ before) words after where
  trimmed := slot.trimmed
  whole := slot.whole
  within := slot.within
  right := slot.right
  left := by
    intro last final
    rw [List.getLast?_append] at final
    rcases Option.or_eq_some_iff.mp final with here | ⟨_, earlier⟩
    · exact slot.left last here
    · exact clear last earlier

theorem Slot.before {before words after more : List Token} (slot : Slot before words after)
    (clear : ∀ first, more.head? = some first → first.kind ≠ .symbol) :
    Slot before words (after ++ more) where
  trimmed := slot.trimmed
  whole := slot.whole
  within := slot.within
  left := slot.left
  right := by
    intro last first final start
    rw [List.head?_append] at start
    rcases Option.or_eq_some_iff.mp start with here | ⟨_, later⟩
    · exact slot.right last first final here
    · exact .inr (clear first later)

/-- The first sentence of a section has its slot in front. -/
theorem Opening.slot {token : Token} {rest words blanks : List Token}
    (opening : Opening token rest words blanks) (word : token.kind ≠ .whiteSpace)
    (within : ∀ word ∈ words, isBreak word = false) :
    Slot [] words (blanks ++ (firstSentence (token :: rest)).2) where
  trimmed := opening.trimmed word
  whole := opening.firstSentence_eq
  within := within
  left := nofun
  right := by
    intro last first final start
    cases blanks with
    | cons space more =>
        cases start
        rw [opening.blank first List.mem_cons_self]
        exact .inr nofun
    | nil =>
        rcases firstSentence_last (token :: rest) with none | mark
        · rw [none] at start
          cases start
        · rw [opening.tokens, List.append_nil] at mark
          rw [mark last final]
          exact .inl nofun

/-- A sentence of a section has a slot in it. -/
theorem exists_slot_of_contents {tokens : List Token} (within : ∀ token ∈ tokens, isBreak token = false)
    {sentence : Cst} (member : sentence ∈ contents tokens) (type : sentence.type = Prose.Kind.sentence) :
    ∃ before words after, tokens = before ++ (words ++ after) ∧
      sentence = .parent Prose.Kind.sentence (words.map Token.leaf) ∧ Slot before words after := by
  induction tokens using contents_induction with
  | nil =>
      rw [contents] at member
      cases member
  | blank token rest kind inductionHypothesis =>
      rw [List.forall_mem_cons] at within
      rw [contents_of_blank kind] at member
      rcases List.mem_cons.mp member with same | further
      · rw [same] at type
        exact absurd type (nodeType_ne_level token.kind).2.2
      · rcases inductionHypothesis within.2 further with ⟨before, words, after, rfl, same, slot⟩
        refine ⟨[token] ++ before, words, after, rfl, same, slot.behind fun last final => ?_⟩
        rw [← Option.some.inj final, List.getLast_singleton, kind]
        decide
  | word token rest kind inductionHypothesis =>
      rcases exists_opening kind rest with ⟨words, blanks, opening⟩
      rw [opening.split] at within
      rw [opening.nodes] at member
      rcases List.mem_cons.mp member with same | further
      · exact ⟨[], words, _, opening.split, same,
          opening.slot kind fun word inside => within word (List.mem_append_left _ inside)⟩
      · rcases List.mem_append.mp further with blank | behind
        · rcases List.mem_map.mp blank with ⟨space, _, rfl⟩
          exact absurd type (nodeType_ne_level space.kind).2.2
        · have within' : ∀ other ∈ (firstSentence (token :: rest)).2, isBreak other = false :=
            fun other inside => within other
              (List.mem_append_right _ (List.mem_append_right _ inside))
          rcases inductionHypothesis within' behind with ⟨before, inner, after, cut, same, slot⟩
          refine ⟨(firstSentence (token :: rest)).1 ++ before, inner, after, ?_, same,
            slot.behind fun last final => ?_⟩
          · rw [List.append_assoc, ← cut, firstSentence_append]
          · rcases firstSentence_last (token :: rest) with none | mark
            · rw [none, contents] at behind
              cases behind
            · rw [mark last final]
              decide

/-- A node of type sentence that stands in a node of a section is that node. -/
theorem eq_of_mem_contents {tokens : List Token} {part sentence : Cst} (member : part ∈ contents tokens)
    (below : sentence ∈ part.subtrees) (type : sentence.type = Prose.Kind.sentence) :
    sentence = part := by
  rcases List.append_of_mem member with ⟨before, after, split⟩
  have inside : ∀ words : List Token, part = .parent Prose.Kind.sentence (words.map Token.leaf) →
      sentence = part := by
    rintro words rfl
    rcases Cst.mem_subtrees_parent.mp below with same | ⟨leaf, word, here⟩
    · exact same
    · rcases List.mem_map.mp word with ⟨token, _, rfl⟩
      rw [Token.leaf, Cst.mem_subtrees_leaf] at here
      rw [here] at type
      exact absurd type (nodeType_ne_level token.kind).2.2
  cases (cut_contents tokens).of_split split with
  | space space =>
      rcases space with ⟨token, _, rfl⟩
      rw [Token.leaf, Cst.mem_subtrees_leaf] at below
      exact below
  | closed behind => exact inside _ rfl
  | unclosed => exact inside _ rfl

/-- A sentence of the nodes that a section gives to the root has a slot in the section. -/
theorem exists_slot_of_block {tokens : List Token} (within : ∀ token ∈ tokens, isBreak token = false)
    {node sentence : Cst} (member : node ∈ block tokens) (below : sentence ∈ node.subtrees)
    (type : sentence.type = Prose.Kind.sentence) :
    ∃ before words after, tokens = before ++ (words ++ after) ∧
      sentence = .parent Prose.Kind.sentence (words.map Token.leaf) ∧ Slot before words after := by
  have found : ∃ part ∈ contents tokens, sentence ∈ part.subtrees := by
    unfold block at member
    split at member
    · exact ⟨node, member, below⟩
    · rw [List.mem_singleton.mp member] at below
      rcases Cst.mem_subtrees_parent.mp below with same | found
      · rw [same, Cst.parent_type] at type
        exact absurd type (by decide)
      · exact found
  rcases found with ⟨part, member, below⟩
  exact exists_slot_of_contents within (eq_of_mem_contents member below type ▸ member) type

/-- A sentence of a document has a slot among its tokens. -/
theorem exists_slot {tokens : List Token} {sentence : Cst}
    (member : sentence ∈ (document tokens).subtrees) (type : sentence.type = Prose.Kind.sentence) :
    ∃ before words after, tokens = before ++ (words ++ after) ∧
      sentence = .parent Prose.Kind.sentence (words.map Token.leaf) ∧ Slot before words after := by
  rw [document_eq] at member
  rcases Cst.mem_subtrees_parent.mp member with same | ⟨node, inside, below⟩
  · rw [same, Cst.parent_type] at type
    exact absurd type (by decide)
  · rcases mem_levels inside with ⟨part, _, rfl⟩ | ⟨section', found, here⟩
    · rw [Token.leaf, Cst.mem_subtrees_leaf] at below
      rw [below] at type
      exact absurd type (nodeType_ne_level part.1.kind).2.2
    · have within : ∀ token ∈ section', isBreak token = false := by
        rcases List.mem_cons.mp found with rfl | other
        · exact (sections_breaks tokens).1
        · rcases List.mem_map.mp other with ⟨part, inside, rfl⟩
          exact ((sections_breaks tokens).2 part inside).2
      rcases exists_slot_of_block within here below type with ⟨before, words, after, rfl, same, slot⟩
      rcases exists_slice_of_mem_sections found with ⟨front, back, split, last, next⟩
      refine ⟨front ++ before, words, after ++ back, ?_, same, (slot.behind last).before next⟩
      rw [split]
      simp

/-! ## Sentences alone -/

theorem sentenceNodes_of_trimmed {words : List Token} (trimmed : Trimmed words) :
    sentenceNodes words = [.parent Prose.Kind.sentence (words.map Token.leaf)] := by
  rcases trimmed.last with ⟨last, final, kind⟩
  have some : words ≠ [] := by
    rintro rfl
    cases final
  have word : isSpace (words.getLast some) = false := by
    rw [List.getLast?_eq_some_getLast some] at final
    cases final
    exact decide_eq_false kind
  have kept : words.rdropWhile isSpace = words :=
    List.rdropWhile_eq_self_iff.mpr fun _ => by simp [word]
  have none : words.rtakeWhile isSpace = [] :=
    List.rtakeWhile_eq_nil_iff.mpr fun _ => by simp [word]
  rw [sentenceNodes, kept, none, group, if_neg (by simpa using some)]
  rfl

theorem piecesAll_map_leaf (tokens : List Token) :
    Cst.piecesAll (tokens.map Token.leaf) = tokens.map Token.text := by
  rw [Cst.piecesAll_eq, leavesAll_map_leaf, values_map_leaf]

/-- The words of a sentence form a document with nothing but that sentence. -/
theorem Slot.document_eq {before words after : List Token} (slot : Slot before words after) :
    document words =
      .parent Prose.Kind.root
        [.parent Prose.Kind.paragraph [.parent Prose.Kind.sentence (words.map Token.leaf)]] := by
  rcases slot.trimmed.head with ⟨word, first, kind⟩
  rcases List.head?_eq_some_iff.mp first with ⟨rest, rfl⟩
  have nodes : contents (word :: rest) =
      [.parent Prose.Kind.sentence ((word :: rest).map Token.leaf)] := by
    rw [contents_of_word kind, slot.whole, sentenceNodes_of_trimmed slot.trimmed, contents]
    rfl
  rw [English.document_eq, sections_of_within slot.within, levels,
    block_of_word ⟨word, List.mem_cons_self, kind⟩, nodes]

/-- The text of a sentence, parsed on its own, gives that sentence in a paragraph and nothing else. -/
theorem parse_sentence {text : String} {sentence : Cst} (member : sentence ∈ (parse text).subtrees)
    (type : sentence.type = Prose.Kind.sentence) :
    parse (String.join sentence.pieces) =
      .parent Prose.Kind.root [.parent Prose.Kind.paragraph [sentence]] := by
  rcases exists_slot member type with ⟨before, words, after, split, rfl, slot⟩
  have left : Seam before (words ++ after) := fun last _ final _ => .inl (slot.left last final)
  have pieces : (Cst.parent Prose.Kind.sentence (words.map Token.leaf)).pieces =
      words.map Token.text := by
    rw [Cst.pieces_parent, piecesAll_map_leaf]
  rw [parse, pieces, Token.scan_slice split left slot.right, slot.document_eq]

/-- A sentence with a name in quotes. -/
def greeting : Cst :=
  .parent Prose.Kind.sentence
    [.leaf Prose.Kind.word "I'm", .leaf Prose.Kind.whiteSpace " ", .leaf Prose.Kind.punctuation "'",
      .leaf Prose.Kind.word "Al", .leaf Prose.Kind.punctuation ".", .leaf Prose.Kind.punctuation "'"]

/-- The closing quote trails the mark, and so belongs to the sentence though a word follows it. -/
theorem parse_sentence_greeting :
    greeting ∈ (parse "Hi! I'm 'Al.'s").subtrees ∧ greeting.type = Prose.Kind.sentence ∧
      String.join greeting.pieces = "I'm 'Al.'" ∧
      parse (String.join greeting.pieces) =
        .parent Prose.Kind.root [.parent Prose.Kind.paragraph [greeting]] := by
  have member : greeting ∈ (parse "Hi! I'm 'Al.'s").subtrees := by decide +kernel
  exact ⟨member, rfl, by decide +kernel, parse_sentence member rfl⟩

end English
end Prose

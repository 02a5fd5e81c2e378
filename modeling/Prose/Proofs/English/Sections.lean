import Mathlib.Data.List.DropRight
import Prose.Proofs.English.Lossless

namespace Prose
namespace English

/-!
# Sections and sentences

A document can be read off its tokens from the front.  Breaks part the tokens into sections.  A section is
white space and sentences, and a sentence is found from its first token: it goes on to the first terminal
mark and over the marks that trail it, or to the end of the section.  The draft, which takes in one token
after the other and remembers only whether the sentence has been closed, comes to the same document.
-/

open Draft (isTerminal isTrailer group leaves_group)

/-! ## Sections -/

def isBreak (token : Token) : Bool := token.kind = .whiteSpace && isParagraphBreak token.text

/-- The tokens up to the first break, and each break with the tokens up to the next one. -/
def sections : List Token → List Token × List (Token × List Token)
  | [] => ([], [])
  | token :: rest =>
    if isBreak token then ([], (token, (sections rest).1) :: (sections rest).2)
    else (token :: (sections rest).1, (sections rest).2)

theorem sections_append (tokens : List Token) :
    (sections tokens).1 ++ (sections tokens).2.flatMap (fun part => part.1 :: part.2) = tokens := by
  induction tokens with
  | nil => rfl
  | cons token rest inductionHypothesis =>
      rw [sections]
      split
      · rw [List.nil_append, List.flatMap_cons, List.cons_append, inductionHypothesis]
      · rw [List.cons_append, inductionHypothesis]

/-- No section contains a break, and what stands in front of a section is a break. -/
theorem sections_breaks (tokens : List Token) :
    (∀ token ∈ (sections tokens).1, isBreak token = false) ∧
      ∀ part ∈ (sections tokens).2,
        isBreak part.1 = true ∧ ∀ token ∈ part.2, isBreak token = false := by
  induction tokens with
  | nil => exact ⟨nofun, nofun⟩
  | cons token rest inductionHypothesis =>
      rw [sections]
      cases parts : isBreak token with
      | true =>
          rw [if_pos rfl, List.forall_mem_cons]
          exact ⟨nofun, ⟨parts, inductionHypothesis.1⟩, inductionHypothesis.2⟩
      | false =>
          rw [if_neg Bool.false_ne_true, List.forall_mem_cons]
          exact ⟨⟨parts, inductionHypothesis.1⟩, inductionHypothesis.2⟩

/-- Tokens without a break belong to the first section. -/
theorem sections_append_of_within {tokens : List Token}
    (within : ∀ token ∈ tokens, isBreak token = false) (more : List Token) :
    sections (tokens ++ more) = (tokens ++ (sections more).1, (sections more).2) := by
  induction tokens with
  | nil => rfl
  | cons token rest inductionHypothesis =>
      rw [List.forall_mem_cons] at within
      rw [List.cons_append, sections, if_neg (by simp [within.1]), inductionHypothesis within.2]
      rfl

theorem sections_of_within {tokens : List Token} (within : ∀ token ∈ tokens, isBreak token = false) :
    sections tokens = (tokens, []) := by
  have whole := sections_append_of_within within []
  rw [List.append_nil] at whole
  rw [whole, sections, List.append_nil]

/-- A section is a slice of the tokens: nothing is in front of it or a break, and nothing or a break is
behind it. -/
theorem exists_slice_of_section {first : List Token} {more : List (Token × List Token)}
    (parts : ∀ part ∈ more, isBreak part.1 = true) {tokens : List Token}
    (member : tokens ∈ first :: more.map Prod.snd) :
    ∃ before after,
      first ++ more.flatMap (fun part => part.1 :: part.2) = before ++ (tokens ++ after) ∧
        (∀ last, before.getLast? = some last → isBreak last = true) ∧
        ∀ next, after.head? = some next → isBreak next = true := by
  induction more generalizing first with
  | nil =>
      rw [List.map_nil, List.mem_singleton] at member
      exact ⟨[], [], by rw [member]; rfl, nofun, nofun⟩
  | cons part rest inductionHypothesis =>
      rw [List.forall_mem_cons] at parts
      rcases List.mem_cons.mp member with rfl | further
      · refine ⟨[], part.1 :: part.2 ++ rest.flatMap fun part => part.1 :: part.2, rfl, nofun, ?_⟩
        rintro next ⟨⟩
        exact parts.1
      · rcases inductionHypothesis parts.2 further with ⟨before, after, split, last, next⟩
        refine ⟨(first ++ [part.1]) ++ before, after, ?_, fun final found => ?_, next⟩
        · rw [List.flatMap_cons, List.cons_append, split]
          simp
        · rw [List.getLast?_append, List.getLast?_concat] at found
          rcases Option.or_eq_some_iff.mp found with here | ⟨_, alone⟩
          · exact last final here
          · cases alone
            exact parts.1

theorem kind_of_isBreak {token : Token} (parts : isBreak token = true) :
    token.kind = .whiteSpace := by
  rw [isBreak, Bool.and_eq_true, decide_eq_true_eq] at parts
  exact parts.1

/-- A section of some tokens is a slice of them, and no symbol is next to it. -/
theorem exists_slice_of_mem_sections {tokens part : List Token}
    (member : part ∈ (sections tokens).1 :: (sections tokens).2.map Prod.snd) :
    ∃ before after, tokens = before ++ (part ++ after) ∧
      (∀ last, before.getLast? = some last → last.kind ≠ .symbol) ∧
      ∀ next, after.head? = some next → next.kind ≠ .symbol := by
  have clear : ∀ token : Token, isBreak token = true → token.kind ≠ .symbol := by
    intro token parts
    rw [kind_of_isBreak parts]
    nofun
  have parts := fun part inside => ((sections_breaks tokens).2 part inside).1
  rcases exists_slice_of_section parts member with ⟨before, after, split, last, next⟩
  rw [sections_append] at split
  exact ⟨before, after, split, fun token final => clear token (last token final),
    fun token start => clear token (next token start)⟩

/-! ## Sentences -/

/-- The tokens in front that make up one sentence, and those behind it. -/
def firstSentence : List Token → List Token × List Token
  | [] => ([], [])
  | token :: rest =>
    if isTerminal token then (token :: rest.takeWhile isTrailer, rest.dropWhile isTrailer)
    else (token :: (firstSentence rest).1, (firstSentence rest).2)

theorem firstSentence_of_terminal {token : Token} (terminal : isTerminal token = true)
    (rest : List Token) :
    firstSentence (token :: rest) = (token :: rest.takeWhile isTrailer, rest.dropWhile isTrailer) := by
  rw [firstSentence, if_pos terminal]

theorem firstSentence_of_not_terminal {token : Token} (other : isTerminal token = false)
    (rest : List Token) :
    firstSentence (token :: rest) = (token :: (firstSentence rest).1, (firstSentence rest).2) := by
  rw [firstSentence, if_neg (by simp [other])]

theorem firstSentence_append (tokens : List Token) :
    (firstSentence tokens).1 ++ (firstSentence tokens).2 = tokens := by
  induction tokens with
  | nil => rfl
  | cons token rest inductionHypothesis =>
      cases terminal : isTerminal token with
      | true =>
          rw [firstSentence_of_terminal terminal, List.cons_append, List.takeWhile_append_dropWhile]
      | false => rw [firstSentence_of_not_terminal terminal, List.cons_append, inductionHypothesis]

/-- A sentence has its first token at least. -/
theorem firstSentence_head (token : Token) (rest : List Token) :
    ∃ more, (firstSentence (token :: rest)).1 = token :: more := by
  cases terminal : isTerminal token with
  | true => rw [firstSentence_of_terminal terminal]; exact ⟨_, rfl⟩
  | false => rw [firstSentence_of_not_terminal terminal]; exact ⟨_, rfl⟩

theorem length_firstSentence_lt (token : Token) (rest : List Token) :
    (firstSentence (token :: rest)).2.length < (token :: rest).length := by
  have length := congrArg List.length (firstSentence_append (token :: rest))
  rcases firstSentence_head token rest with ⟨more, first⟩
  rw [List.length_append, first, List.length_cons] at length
  omega

/-- How a sentence ends: behind a terminal mark and all the marks that trail it, or with the tokens. -/
inductive Ending (tokens : List Token) : Prop where
  | closed (front : List Token) (mark : Token) (trail : List Token)
      (words : (firstSentence tokens).1 = front ++ mark :: trail)
      (before : ∀ token ∈ front, isTerminal token = false) (terminal : isTerminal mark = true)
      (trailing : ∀ token ∈ trail, isTrailer token = true)
      (maximal : ∀ next, (firstSentence tokens).2.head? = some next → isTrailer next = false)
  | unclosed (words : ∀ token ∈ (firstSentence tokens).1, isTerminal token = false)
      (rest : (firstSentence tokens).2 = [])

theorem firstSentence_ending (tokens : List Token) : Ending tokens := by
  -- The recursion stops at the first terminal mark; what stands in front of it only adds to `front`.
  induction tokens with
  | nil => exact .unclosed nofun rfl
  | cons token rest inductionHypothesis =>
      cases terminal : isTerminal token with
      | true =>
          have split := firstSentence_of_terminal terminal rest
          refine .closed [] token (rest.takeWhile isTrailer) ?_ nofun terminal ?_ ?_
          · rw [split, List.nil_append]
          · intro trailer member
            exact List.all_eq_true.mp List.all_takeWhile trailer member
          · intro next first
            rw [split] at first
            have stops := List.head?_dropWhile_not isTrailer rest
            rw [first] at stops
            simpa using stops
      | false =>
          have split := firstSentence_of_not_terminal terminal rest
          cases inductionHypothesis with
          | closed front mark trail words before closes trailing maximal =>
              refine .closed (token :: front) mark trail ?_ ?_ closes trailing ?_
              · rw [split, words, List.cons_append]
              · rw [List.forall_mem_cons]
                exact ⟨terminal, before⟩
              · rw [split]
                exact maximal
          | unclosed words ended =>
              refine .unclosed ?_ ?_
              · rw [split, List.forall_mem_cons]
                exact ⟨terminal, words⟩
              · rw [split]
                exact ended

/-! ## The nodes of a section -/

def isSpace (token : Token) : Bool := token.kind = .whiteSpace

theorem isBlank_leaf (token : Token) : isBlank token.leaf = isSpace token := by
  rcases token with ⟨kind, text⟩
  cases kind <;> rfl

/-- The nodes that a sentence gives: itself, and behind it the white space at its end. -/
def sentenceNodes (words : List Token) : List Cst :=
  group Prose.Kind.sentence ((words.rdropWhile isSpace).map Token.leaf) ++
    (words.rtakeWhile isSpace).map Token.leaf

/-- The nodes that a section gives: white space and sentences. -/
def contents : List Token → List Cst
  | [] => []
  | token :: rest =>
    if token.kind = .whiteSpace then token.leaf :: contents rest
    else sentenceNodes (firstSentence (token :: rest)).1 ++ contents (firstSentence (token :: rest)).2
termination_by tokens => tokens.length
decreasing_by
  · exact Nat.lt_succ_self _
  · exact length_firstSentence_lt token rest

theorem contents_of_blank {token : Token} (blank : token.kind = .whiteSpace) (rest : List Token) :
    contents (token :: rest) = token.leaf :: contents rest := by
  rw [contents, if_pos blank]

theorem contents_of_word {token : Token} (word : token.kind ≠ .whiteSpace) (rest : List Token) :
    contents (token :: rest) =
      sentenceNodes (firstSentence (token :: rest)).1 ++ contents (firstSentence (token :: rest)).2 := by
  rw [contents, if_neg word]

/-- Induction over white space and sentences. -/
theorem contents_induction {motive : List Token → Prop} (nil : motive [])
    (blank : ∀ token rest, token.kind = .whiteSpace → motive rest → motive (token :: rest))
    (word : ∀ token rest, token.kind ≠ .whiteSpace → motive (firstSentence (token :: rest)).2 →
      motive (token :: rest)) (tokens : List Token) : motive tokens :=
  match tokens with
  | [] => nil
  | token :: rest =>
    if kind : token.kind = .whiteSpace then
      blank token rest kind (contents_induction nil blank word rest)
    else word token rest kind (contents_induction nil blank word (firstSentence (token :: rest)).2)
termination_by tokens.length
decreasing_by
  · exact Nat.lt_succ_self _
  · exact length_firstSentence_lt token rest

/-- What a section gives from a token on that is not white space: a sentence of some words, the white
space that stood at its end, and the nodes of the tokens behind it.  The sentence has been closed, and
then there is no white space at its end, or it is the last one. -/
structure Opening (token : Token) (rest words blanks : List Token) : Prop where
  tokens : (firstSentence (token :: rest)).1 = words ++ blanks
  head : words.head? = some token
  last : ∀ word, words.getLast? = some word → word.kind ≠ .whiteSpace
  blank : ∀ token ∈ blanks, token.kind = .whiteSpace
  nodes : contents (token :: rest) =
    Cst.parent Prose.Kind.sentence (words.map Token.leaf) ::
      (blanks.map Token.leaf ++ contents (firstSentence (token :: rest)).2)
  tight : blanks = [] ∨ ∀ word ∈ (firstSentence (token :: rest)).1, isTerminal word = false

/-- A closed sentence ends with a mark, and so not with white space. -/
theorem rtakeWhile_of_closed {front trail : List Token} {mark : Token}
    (terminal : isTerminal mark = true) (trailing : ∀ token ∈ trail, isTrailer token = true) :
    (front ++ mark :: trail).rtakeWhile isSpace = [] := by
  have marks : ∀ token ∈ mark :: trail, isSpace token = false := by
    rw [List.forall_mem_cons]
    constructor
    · cases kind : mark.kind <;> simp [isTerminal, isSpace, kind] at terminal ⊢
    · intro token member
      have trailer := trailing token member
      cases kind : token.kind <;> simp [isTrailer, isSpace, kind] at trailer ⊢
  rw [List.rtakeWhile_eq_nil_iff]
  intro some
  rw [List.getLast_append_of_ne_nil _ (List.cons_ne_nil mark trail),
    marks _ (List.getLast_mem _)]
  exact Bool.false_ne_true

/-- A token that is not white space opens a sentence. -/
theorem exists_opening {token : Token} (word : token.kind ≠ .whiteSpace) (rest : List Token) :
    ∃ words blanks, Opening token rest words blanks := by
  rcases firstSentence_head token rest with ⟨more, first⟩
  generalize whole : (firstSentence (token :: rest)).1 = tokens at first
  have kept : tokens.rdropWhile isSpace ≠ [] := by
    intro none
    rw [List.rdropWhile_eq_nil_iff, first, List.forall_mem_cons] at none
    exact word (of_decide_eq_true none.1)
  refine ⟨tokens.rdropWhile isSpace, tokens.rtakeWhile isSpace, ?_, ?_, ?_, ?_, ?_, ?_⟩
  · rw [List.rdropWhile_append_rtakeWhile, whole]
  · rcases List.rdropWhile_prefix isSpace tokens with ⟨behind, whole⟩
    have start := congrArg List.head? whole
    rw [List.head?_append_of_ne_nil _ kept] at start
    rw [start, first, List.head?_cons]
  · intro last found
    have stops := List.rdropWhile_last_not isSpace tokens kept
    rw [List.getLast?_eq_some_getLast kept] at found
    cases found
    exact of_decide_eq_false (Bool.eq_false_iff.mpr stops)
  · intro other member
    have blank := List.mem_rtakeWhile_imp member
    exact of_decide_eq_true blank
  · have some : ((tokens.rdropWhile isSpace).map Token.leaf).isEmpty = false := by
      rw [List.isEmpty_eq_false_iff]
      exact fun none => kept (List.map_eq_nil_iff.mp none)
    rw [contents_of_word word, whole, sentenceNodes, group, if_neg (by rw [some]; exact Bool.false_ne_true)]
    rfl
  · cases firstSentence_ending (token :: rest) with
    | unclosed other none => exact Or.inr other
    | closed front mark trail words before terminal trailing maximal =>
        rw [whole] at words
        rw [words]
        exact Or.inl (rtakeWhile_of_closed terminal trailing)

theorem Opening.split {token : Token} {rest words blanks : List Token}
    (opening : Opening token rest words blanks) :
    token :: rest = words ++ (blanks ++ (firstSentence (token :: rest)).2) := by
  rw [← List.append_assoc, ← opening.tokens, firstSentence_append]

/-- The nodes that a section gives to the root: a paragraph, unless all of it is white space. -/
def block (tokens : List Token) : List Cst :=
  if (contents tokens).all isBlank then contents tokens
  else [Cst.parent Prose.Kind.paragraph (contents tokens)]

/-- The nodes of the root: those of the first section, and then each break and those of its section. -/
def levels (first : List Token) : List (Token × List Token) → List Cst
  | [] => block first
  | (token, tokens) :: more => block first ++ token.leaf :: levels tokens more

theorem mem_levels {node : Cst} {first : List Token} {more : List (Token × List Token)}
    (member : node ∈ levels first more) :
    (∃ part ∈ more, node = part.1.leaf) ∨
      ∃ tokens ∈ first :: more.map Prod.snd, node ∈ block tokens := by
  induction more generalizing first with
  | nil => exact .inr ⟨first, List.mem_singleton_self _, member⟩
  | cons part rest inductionHypothesis =>
      rw [levels, List.mem_append, List.mem_cons] at member
      rcases member with here | same | further
      · exact .inr ⟨first, List.mem_cons_self, here⟩
      · exact .inl ⟨part, List.mem_cons_self, same⟩
      · rcases inductionHypothesis further with ⟨other, inside, same⟩ | ⟨tokens, inside, below⟩
        · exact .inl ⟨other, List.mem_cons_of_mem _ inside, same⟩
        · exact .inr ⟨tokens, List.mem_cons_of_mem _ inside, below⟩

/-! ## Leaves -/

theorem leavesAll_map_leaf (tokens : List Token) :
    Cst.leavesAll (tokens.map Token.leaf) = tokens.map Token.leaf := by
  induction tokens with
  | nil => simp
  | cons token rest inductionHypothesis =>
      rw [List.map_cons, Cst.leavesAll_cons, inductionHypothesis, Token.leaf, Cst.leaves_leaf]
      rfl

theorem leaves_sentenceNodes (words : List Token) :
    Cst.leavesAll (sentenceNodes words) = words.map Token.leaf := by
  rw [sentenceNodes, Cst.leavesAll_append, leaves_group, leavesAll_map_leaf, leavesAll_map_leaf,
    ← List.map_append, List.rdropWhile_append_rtakeWhile]

theorem leaves_contents (tokens : List Token) :
    Cst.leavesAll (contents tokens) = tokens.map Token.leaf := by
  induction tokens using contents_induction with
  | nil => rw [contents]; simp
  | blank token rest kind inductionHypothesis =>
      rw [contents_of_blank kind, Cst.leavesAll_cons, inductionHypothesis, Token.leaf,
        Cst.leaves_leaf]
      rfl
  | word token rest kind inductionHypothesis =>
      rw [contents_of_word kind, Cst.leavesAll_append, leaves_sentenceNodes, inductionHypothesis,
        ← List.map_append, firstSentence_append]

/-! ## Drafts -/

namespace Draft

/-- A draft whose paragraph is under way, between two sentences. -/
def between (root paragraph : List Cst) : Draft := ⟨root, paragraph, [], false⟩

variable {draft : Draft} {token : Token} {root paragraph : List Cst}

theorem endSentence_between (root paragraph : List Cst) :
    (between root paragraph).endSentence = between root paragraph := rfl

theorem endSentence_endSentence (draft : Draft) :
    draft.endSentence.endSentence = draft.endSentence := rfl

theorem endParagraph_endSentence (draft : Draft) :
    draft.endSentence.endParagraph = draft.endParagraph := rfl

/-- When a sentence is ended, its nodes are added to the paragraph. -/
theorem endSentence_words (root paragraph : List Cst) (words : List Token) (closed : Bool) :
    endSentence ⟨root, paragraph, (words.map Token.leaf).reverse, closed⟩ =
      between root ((sentenceNodes words).reverse ++ paragraph) := by
  have same : isBlank ∘ Token.leaf = isSpace := funext isBlank_leaf
  have kept : (words.map Token.leaf).reverse.dropWhile isBlank =
      ((words.rdropWhile isSpace).map Token.leaf).reverse := by
    rw [← List.map_reverse, List.dropWhile_map, same, List.rdropWhile, List.map_reverse,
      List.reverse_reverse]
  have blanks : (words.map Token.leaf).reverse.takeWhile isBlank =
      ((words.rtakeWhile isSpace).map Token.leaf).reverse := by
    rw [← List.map_reverse, List.takeWhile_map, same, List.rtakeWhile, List.map_reverse,
      List.reverse_reverse]
  simp only [endSentence, between, sentenceNodes, group, kept, blanks, List.isEmpty_reverse]
  split <;> simp

/-- Only terminal marks and those that trail them end nothing: for all other tokens it is the same
whether a closed sentence is ended before them. -/
theorem push_of_closed (closed : draft.closed = true) (other : isTrailer token = false) :
    draft.push token = draft.endSentence.push token := by
  unfold push
  rw [closed, other]
  rfl

theorem push_blank (blank : token.kind = .whiteSpace) (within : isBreak token = false) :
    (between root paragraph).push token = between root (token.leaf :: paragraph) := by
  have few : isParagraphBreak token.text = false := by simpa [isBreak, blank] using within
  rw [push, if_pos blank, few]
  rfl

theorem push_break (parts : isBreak token = true) :
    draft.push token = { draft.endParagraph with root := token.leaf :: draft.endParagraph.root } := by
  have both : token.kind = .whiteSpace ∧ isParagraphBreak token.text = true := by
    simpa [isBreak] using parts
  rw [push, if_pos both.1, if_pos both.2]

/-- A sentence that is under way and not closed takes in every token that is no break. -/
theorem push_unclosed {sentence : List Cst} (within : isBreak token = false)
    (starts : sentence = [] → token.kind ≠ .whiteSpace) :
    push ⟨root, paragraph, sentence, false⟩ token =
      ⟨root, paragraph, token.leaf :: sentence, isTerminal token⟩ := by
  by_cases blank : token.kind = .whiteSpace
  · have few : isParagraphBreak token.text = false := by simpa [isBreak, blank] using within
    have mark : isTerminal token = false := by simp [isTerminal, blank]
    have some : sentence.isEmpty = false := by
      cases sentence with
      | nil => exact absurd blank (starts rfl)
      | cons node rest => rfl
    rw [push, if_pos blank, few, some, mark]
    rfl
  · rw [push, if_neg blank]
    rfl

theorem foldl_trailers {trail : List Token} (trailing : ∀ token ∈ trail, isTrailer token = true)
    (root paragraph sentence : List Cst) :
    trail.foldl push ⟨root, paragraph, sentence, true⟩ =
      ⟨root, paragraph, (trail.map Token.leaf).reverse ++ sentence, true⟩ := by
  induction trail generalizing sentence with
  | nil => rfl
  | cons token rest inductionHypothesis =>
      rw [List.forall_mem_cons] at trailing
      have mark : token.kind ≠ .whiteSpace := by
        intro blank
        have kind := trailing.1
        simp [isTrailer, blank] at kind
      have taken : push ⟨root, paragraph, sentence, true⟩ token =
          ⟨root, paragraph, token.leaf :: sentence, true⟩ := by
        rw [push, if_neg mark, trailing.1]
        rfl
      rw [List.foldl_cons, taken, inductionHypothesis trailing.2]
      simp

/-- The tokens of a sentence are taken into it, and it is closed if one of them is a terminal mark. -/
theorem foldl_sentence {tokens : List Token} (within : ∀ token ∈ tokens, isBreak token = false)
    (root paragraph nodes : List Cst)
    (starts : nodes = [] → ∀ first, tokens.head? = some first → first.kind ≠ .whiteSpace) :
    tokens.foldl push ⟨root, paragraph, nodes, false⟩ =
      (firstSentence tokens).2.foldl push
        ⟨root, paragraph, ((firstSentence tokens).1.map Token.leaf).reverse ++ nodes,
          (firstSentence tokens).1.any isTerminal⟩ := by
  induction tokens generalizing nodes with
  | nil => rfl
  | cons token rest inductionHypothesis =>
      rw [List.forall_mem_cons] at within
      rw [List.foldl_cons, push_unclosed within.1 fun none => starts none token rfl]
      cases terminal : isTerminal token with
      | true =>
          have trailing : ∀ token ∈ rest.takeWhile isTrailer, isTrailer token = true :=
            List.all_eq_true.mp List.all_takeWhile
          rw [firstSentence_of_terminal terminal]
          simp only [List.any_cons, terminal, Bool.true_or]
          have cut := List.takeWhile_append_dropWhile (p := isTrailer) (l := rest)
          rw [← cut, List.foldl_append, foldl_trailers trailing, cut]
          simp
      | false =>
          have some : token.leaf :: nodes = [] → ∀ first, rest.head? = some first →
              first.kind ≠ .whiteSpace := fun none => absurd none (List.cons_ne_nil _ _)
          rw [firstSentence_of_not_terminal terminal,
            inductionHypothesis within.2 (token.leaf :: nodes) some]
          simp [terminal]

/-- What is behind a sentence is taken in as if the sentence had been ended before it. -/
theorem endSentence_foldl_closed {tokens : List Token} (closed : draft.closed = true)
    (stops : ∀ next, tokens.head? = some next → isTrailer next = false) :
    (tokens.foldl push draft).endSentence = (tokens.foldl push draft.endSentence).endSentence := by
  cases tokens with
  | nil => exact (endSentence_endSentence draft).symm
  | cons next rest =>
      rw [List.foldl_cons, List.foldl_cons, push_of_closed closed (stops next rfl)]

/-- The tokens of a section give its nodes, once the last sentence has been ended. -/
theorem endSentence_foldl {tokens : List Token} (within : ∀ token ∈ tokens, isBreak token = false)
    (root paragraph : List Cst) :
    (tokens.foldl push (between root paragraph)).endSentence =
      between root ((contents tokens).reverse ++ paragraph) := by
  induction tokens using contents_induction generalizing paragraph with
  | nil => rw [contents]; rfl
  | blank token rest kind inductionHypothesis =>
      rw [List.forall_mem_cons] at within
      rw [List.foldl_cons, push_blank kind within.1, inductionHypothesis within.2,
        contents_of_blank kind]
      simp
  | word token rest kind inductionHypothesis =>
      have behind : ∀ other ∈ (firstSentence (token :: rest)).2, isBreak other = false := by
        intro other member
        refine within other ?_
        rw [← firstSentence_append (token :: rest)]
        exact List.mem_append_right _ member
      have starts : ([] : List Cst) = [] → ∀ first, (token :: rest).head? = some first →
          first.kind ≠ .whiteSpace := by
        rintro _ _ ⟨⟩
        exact kind
      have ended : ∀ closed : Bool,
          endSentence ⟨root, paragraph, ((firstSentence (token :: rest)).1.map Token.leaf).reverse ++ [],
              closed⟩ =
            between root ((sentenceNodes (firstSentence (token :: rest)).1).reverse ++ paragraph) := by
        intro closed
        rw [List.append_nil, endSentence_words]
      rw [between, foldl_sentence within root paragraph [] starts, contents_of_word kind,
        List.reverse_append, List.append_assoc, ← inductionHypothesis behind]
      -- Either nothing is behind the sentence, or it is closed and what is behind does not trail it.
      cases firstSentence_ending (token :: rest) with
      | unclosed words none =>
          rw [none, List.foldl_nil, List.foldl_nil, ended, endSentence_between]
      | closed front mark trail words before terminal trailing maximal =>
          have closes : (firstSentence (token :: rest)).1.any isTerminal = true := by
            rw [words]
            simp [terminal]
          rw [endSentence_foldl_closed closes maximal, ended]

/-- The tokens of a section give its block, once the paragraph has been ended. -/
theorem endParagraph_foldl {tokens : List Token} (within : ∀ token ∈ tokens, isBreak token = false)
    (root : List Cst) :
    (tokens.foldl push (between root [])).endParagraph =
      between ((block tokens).reverse ++ root) [] := by
  rw [← endParagraph_endSentence, endSentence_foldl within, List.append_nil, endParagraph,
    endSentence_between, block]
  simp only [between, List.all_reverse]
  split <;> simp

/-- The tokens of all sections, with the breaks between them, give the nodes of the root. -/
theorem endParagraph_foldl_sections {first : List Token} {more : List (Token × List Token)}
    (within : ∀ token ∈ first, isBreak token = false)
    (parts : ∀ part ∈ more, isBreak part.1 = true ∧ ∀ token ∈ part.2, isBreak token = false)
    (root : List Cst) :
    ((first ++ more.flatMap fun part => part.1 :: part.2).foldl push (between root [])).endParagraph =
      between ((levels first more).reverse ++ root) [] := by
  induction more generalizing first root with
  | nil => rw [List.flatMap_nil, List.append_nil, endParagraph_foldl within, levels]
  | cons part rest inductionHypothesis =>
      rcases part with ⟨token, tokens⟩
      rw [List.forall_mem_cons] at parts
      have parted : (first.foldl push (between root [])).push token =
          between (token.leaf :: ((block first).reverse ++ root)) [] := by
        rw [push_break parts.1.1, endParagraph_foldl within]
        rfl
      rw [List.foldl_append, List.flatMap_cons, List.cons_append, List.foldl_cons, parted,
        inductionHypothesis parts.1.2 parts.2, levels]
      simp

end Draft

/-- The document of some tokens has the nodes of their sections below its root. -/
theorem document_eq (tokens : List Token) :
    document tokens =
      Cst.parent Prose.Kind.root (levels (sections tokens).1 (sections tokens).2) := by
  have breaks := sections_breaks tokens
  have ended := Draft.endParagraph_foldl_sections breaks.1 breaks.2 []
  rw [sections_append] at ended
  have root : (tokens.foldl Draft.push Draft.empty).endParagraph.root =
      (levels (sections tokens).1 (sections tokens).2).reverse ++ [] := congrArg Draft.root ended
  rw [document, Draft.finish, root, List.append_nil, List.reverse_reverse]

end English
end Prose

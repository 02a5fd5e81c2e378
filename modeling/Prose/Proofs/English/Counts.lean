import Mathlib.Algebra.BigOperators.Group.List.Basic
import Mathlib.Algebra.GroupWithZero.Nat
import Prose.Proofs.English.Stretches
import Prose.Proofs.Tree.Shape
import Prose.Tree.Counts

namespace Prose

/-!
# What is counted in a text

The words, sentences and paragraphs of the tree of a text can be counted in the text itself.  Paragraphs
are the stretches between breaks that are not all white space.  A sentence is closed by a group of marks,
and what stands behind the last group of a paragraph is one sentence more.

The nodes of a document are counted section by section.  In a section, leaves are counted as tokens, and
`closings` finds a sentence wherever `contents` makes a node.
-/

namespace English

open Draft (isTerminal isTrailer)

/-! ## Sentences of a stretch -/

/-- The groups of marks that close sentences, taken from the left, and the tokens behind the last one.  A
group is a terminal mark with all terminal marks and closers directly behind it. -/
def closings : List Token → List (List Token) × List Token
  | [] => ([], [])
  | token :: rest =>
    if isTerminal token then
      ((token :: rest.takeWhile isTrailer) :: (closings (rest.dropWhile isTrailer)).1,
        (closings (rest.dropWhile isTrailer)).2)
    else if (closings rest).1.isEmpty then ([], token :: (closings rest).2)
    else closings rest
termination_by tokens => tokens.length
decreasing_by
  all_goals
    have shorter := (List.dropWhile_sublist isTrailer (l := rest)).length_le
    simp only [List.length_cons]
    omega

def anyWord (tokens : List Token) : Bool := tokens.any fun token => !isSpace token

/-- How many sentences the tokens of a stretch make up: one for each group, and one if something else than
white space is behind the last group or if there is no group. -/
def sentenceCount (tokens : List Token) : Nat :=
  (closings tokens).1.length +
    if (closings tokens).1.isEmpty || anyWord (closings tokens).2 then 1 else 0

/-- The stretches of a text that are not all white space. -/
def paragraphs (text : String) : List String := (stretches text).filter isFilled

end English

/-- The counts of a text. -/
def Counts.ofText (text : String) : Counts where
  words := (English.Token.scan text).countP fun token => token.kind = .word
  sentences := ((English.paragraphs text).map fun stretch =>
    English.sentenceCount (English.Token.scan stretch)).sum
  paragraphs := (English.paragraphs text).length
  characters := text.length

namespace English

open Draft (isTerminal isTrailer)

/-! ## Groups and sentences -/

/-- The sentences that a section gives, if it may be all white space: one for each group, and one if
something else than white space is behind the last group. -/
def closed (tokens : List Token) : Nat :=
  (closings tokens).1.length + if anyWord (closings tokens).2 then 1 else 0

theorem closings_of_terminal {token : Token} (terminal : isTerminal token = true) (rest : List Token) :
    closings (token :: rest) =
      ((token :: rest.takeWhile isTrailer) :: (closings (rest.dropWhile isTrailer)).1,
        (closings (rest.dropWhile isTrailer)).2) := by
  rw [closings, if_pos terminal]

theorem closings_of_none {token : Token} (other : isTerminal token = false) {rest : List Token}
    (none : (closings rest).1 = []) : closings (token :: rest) = ([], token :: (closings rest).2) := by
  rw [closings, if_neg (by simp [other]), none]
  rfl

theorem closings_of_some {token : Token} (other : isTerminal token = false) {rest : List Token}
    (some : (closings rest).1 ≠ []) : closings (token :: rest) = closings rest := by
  rw [closings, if_neg (by simp [other]), if_neg (by simpa using some)]

/-- Without a group, all tokens are behind the last one. -/
theorem closings_of_empty {tokens : List Token} (none : (closings tokens).1 = []) :
    closings tokens = ([], tokens) := by
  induction tokens with
  | nil => rw [closings]
  | cons token rest inductionHypothesis =>
      cases terminal : isTerminal token with
      | true =>
          rw [closings_of_terminal terminal] at none
          cases none
      | false =>
          by_cases further : (closings rest).1 = []
          · rw [closings_of_none terminal further, inductionHypothesis further]
          · rw [closings_of_some terminal further] at none
            exact absurd none further

/-- The first group closes the first sentence.  If there is none, the first sentence is the last one. -/
theorem closings_cases (tokens : List Token) :
    (∃ first, closings tokens =
        (first :: (closings (firstSentence tokens).2).1, (closings (firstSentence tokens).2).2)) ∨
      (closings tokens = ([], tokens) ∧ (firstSentence tokens).2 = []) := by
  induction tokens with
  | nil => exact .inr ⟨by rw [closings], rfl⟩
  | cons token rest inductionHypothesis =>
      cases terminal : isTerminal token with
      | true =>
          rw [closings_of_terminal terminal, firstSentence_of_terminal terminal]
          exact .inl ⟨_, rfl⟩
      | false =>
          rw [firstSentence_of_not_terminal terminal]
          rcases inductionHypothesis with ⟨first, found⟩ | ⟨found, none⟩
          · rw [closings_of_some terminal (by rw [found]; exact List.cons_ne_nil _ _)]
            exact .inl ⟨first, found⟩
          · rw [closings_of_none terminal (by rw [found]), found]
            exact .inr ⟨rfl, none⟩

theorem closed_nil : closed [] = 0 := by
  rw [closed, closings]
  rfl

/-- White space closes nothing. -/
theorem closed_of_blank {token : Token} (blank : token.kind = .whiteSpace) (rest : List Token) :
    closed (token :: rest) = closed rest := by
  have other : isTerminal token = false := by simp [isTerminal, blank]
  have space : isSpace token = true := decide_eq_true blank
  by_cases none : (closings rest).1 = []
  · rw [closed, closed, closings_of_none other none, none, anyWord, anyWord, List.any_cons, space]
    rfl
  · rw [closed, closed, closings_of_some other none]

/-- A token that is no white space opens a sentence, and what is behind the sentence gives the others. -/
theorem closed_of_word {token : Token} (word : token.kind ≠ .whiteSpace) (rest : List Token) :
    closed (token :: rest) = closed (firstSentence (token :: rest)).2 + 1 := by
  rcases closings_cases (token :: rest) with ⟨first, found⟩ | ⟨found, none⟩
  · simp only [closed, found, List.length_cons]
    omega
  · have filled : anyWord (token :: rest) = true := by simp [anyWord, isSpace, word]
    rw [none, closed_nil, closed, found, filled]
    rfl

/-- Tokens that are not all white space make up as many sentences as are closed. -/
theorem closed_eq_of_anyWord {tokens : List Token} (filled : anyWord tokens = true) :
    closed tokens = sentenceCount tokens := by
  rw [closed, sentenceCount]
  by_cases none : (closings tokens).1 = []
  · rw [closings_of_empty none, filled]
    rfl
  · have some : (closings tokens).1.isEmpty = false := by simpa using none
    rw [some, Bool.false_or]

theorem closed_of_spaces {tokens : List Token} (spaces : ∀ token ∈ tokens, token.kind = .whiteSpace) :
    closed tokens = 0 := by
  induction tokens with
  | nil => exact closed_nil
  | cons token rest inductionHypothesis =>
      rw [List.forall_mem_cons] at spaces
      rw [closed_of_blank spaces.1, inductionHypothesis spaces.2]

/-! ## The nodes of a type -/

/-- How many of some nodes and those below them have a type. -/
def number (type : String) (nodes : List Cst) : Nat :=
  (Cst.subtreesAll nodes).countP fun node => node.type = type

section

variable {type : String}

theorem number_nil : number type [] = 0 := by rw [number, Cst.subtreesAll, List.countP_nil]

theorem number_cons (node : Cst) (rest : List Cst) :
    number type (node :: rest) = (node.subtrees.countP fun node => node.type = type) + number type rest := by
  rw [number, Cst.subtreesAll, List.countP_append, number]

theorem number_append (nodes more : List Cst) :
    number type (nodes ++ more) = number type nodes + number type more := by
  induction nodes with
  | nil => rw [List.nil_append, number_nil, Nat.zero_add]
  | cons node rest inductionHypothesis =>
      rw [List.cons_append, number_cons, number_cons, inductionHypothesis, Nat.add_assoc]

theorem countP_parent (name : String) (nodes : List Cst) :
    ((Cst.parent name nodes).subtrees.countP fun node => node.type = type) =
      number type nodes + if name = type then 1 else 0 := by
  rw [Cst.parent, Cst.subtrees, List.countP_cons, number]
  simp only [decide_eq_true_eq]

/-- Whether the leaf of a token has a type. -/
def leafOf (type : String) (token : Token) : Bool := token.kind.nodeType = type

theorem countP_leaf (token : Token) :
    (token.leaf.subtrees.countP fun node => node.type = type) = if leafOf type token then 1 else 0 := by
  rw [Token.leaf, Cst.leaf, Cst.subtrees, List.countP_singleton]
  rfl

theorem number_map_leaf (tokens : List Token) :
    number type (tokens.map Token.leaf) = tokens.countP (leafOf type) := by
  induction tokens with
  | nil => rw [List.map_nil, number_nil, List.countP_nil]
  | cons token rest inductionHypothesis =>
      rw [List.map_cons, number_cons, countP_leaf, inductionHypothesis, List.countP_cons, Nat.add_comm]

/-- The nodes of a section are the leaves of its tokens and the sentences closed in it. -/
theorem number_contents (tokens : List Token) :
    number type (contents tokens) =
      tokens.countP (leafOf type) + if Prose.Kind.sentence = type then closed tokens else 0 := by
  induction tokens using contents_induction with
  | nil =>
      rw [contents, number_nil, closed_nil]
      simp
  | blank token rest kind inductionHypothesis =>
      rw [contents_of_blank kind, number_cons, countP_leaf, inductionHypothesis, closed_of_blank kind,
        List.countP_cons]
      omega
  | word token rest kind inductionHypothesis =>
      rcases exists_opening kind rest with ⟨words, blanks, opening⟩
      have split := congrArg (List.countP (leafOf type)) opening.split
      rw [List.countP_append, List.countP_append] at split
      rw [opening.nodes, number_cons, countP_parent, number_append, number_map_leaf, number_map_leaf,
        inductionHypothesis, split, closed_of_word kind]
      split <;> omega

/-- The nodes that a section gives besides the leaves of its tokens: its sentences, and a paragraph unless
it is all white space. -/
def grouped (type : String) (tokens : List Token) : Nat :=
  (if Prose.Kind.sentence = type then closed tokens else 0) +
    if Prose.Kind.paragraph = type ∧ anyWord tokens = true then 1 else 0

theorem number_block (tokens : List Token) :
    number type (block tokens) = tokens.countP (leafOf type) + grouped type tokens := by
  cases filled : anyWord tokens with
  | true =>
      have word : ∃ token ∈ tokens, token.kind ≠ .whiteSpace := by
        simpa [anyWord, isSpace] using filled
      rw [block_of_word word, number_cons, countP_parent, number_contents, number_nil, grouped]
      simp only [filled, and_true]
      omega
  | false =>
      have spaces : ∀ token ∈ tokens, token.kind = .whiteSpace := by
        simpa [anyWord, isSpace] using filled
      rw [block_of_spaces spaces, number_map_leaf, grouped, closed_of_spaces spaces, filled]
      simp

theorem number_levels (first : List Token) (more : List (Token × List Token)) :
    number type (levels first more) =
      (first ++ more.flatMap fun part => part.1 :: part.2).countP (leafOf type) +
        ((first :: more.map Prod.snd).map (grouped type)).sum := by
  induction more generalizing first with
  | nil => simp [levels, number_block]
  | cons part rest inductionHypothesis =>
      rcases part with ⟨token, tokens⟩
      rw [levels, number_append, number_block, number_cons, countP_leaf, inductionHypothesis]
      simp only [List.flatMap_cons, List.countP_append, List.countP_cons, List.map_cons, List.sum_cons]
      omega

/-- The nodes of the document of a text are leaves of its tokens and what its stretches are grouped to. -/
theorem countP_parse (text : String) (inner : Prose.Kind.root ≠ type) :
    ((parse text).subtrees.countP fun node => node.type = type) =
      (Token.scan text).countP (leafOf type) +
        ((stretches text).map fun stretch => grouped type (Token.scan stretch)).sum := by
  have sections_eq := Token.map_scan_stretches text
  rw [parse_eq, countP_parent, if_neg inner, number_levels, sections_append, ← sections_eq, List.map_map]
  rfl

end

/-! ## The counts of a text -/

/-- What is added up over the stretches that are not all white space may be added up over all. -/
theorem sum_paragraphs (text : String) (weight : String → Nat) :
    ((paragraphs text).map weight).sum =
      ((stretches text).map fun stretch =>
        if anyWord (Token.scan stretch) then weight stretch else 0).sum := by
  have filled : isFilled = fun stretch => anyWord (Token.scan stretch) := funext Token.isFilled_eq
  rw [paragraphs, filled, List.sum_map_ite]
  simp

theorem words_parse (text : String) :
    ((parse text).subtrees.countP fun node => node.type = Prose.Kind.word) =
      (Token.scan text).countP fun token => token.kind = .word := by
  have none : ∀ tokens, grouped Prose.Kind.word tokens = 0 := fun tokens => by
    rw [grouped, if_neg (by decide), if_neg (fun both => absurd both.1 (by decide))]
  have word : ∀ token : Token, token.kind.nodeType = Kind.word.nodeType ↔ token.kind = .word :=
    fun _ => nodeType_inj
  have leaf : leafOf Prose.Kind.word = fun token => decide (token.kind = .word) :=
    funext fun token => decide_eq_decide.mpr (word token)
  rw [countP_parse text (by decide), leaf]
  simp [none]

/-- No leaf of a token is a level of a document. -/
theorem countP_leafOf_level {type : String} (level : ∀ kind : Kind, kind.nodeType ≠ type)
    (tokens : List Token) : tokens.countP (leafOf type) = 0 :=
  List.countP_eq_zero.mpr fun token _ => by simp [leafOf, level token.kind]

theorem sentences_parse (text : String) :
    ((parse text).subtrees.countP fun node => node.type = Prose.Kind.sentence) =
      ((paragraphs text).map fun stretch => sentenceCount (Token.scan stretch)).sum := by
  have each : ∀ tokens, grouped Prose.Kind.sentence tokens =
      if anyWord tokens then sentenceCount tokens else 0 := by
    intro tokens
    rw [grouped, if_pos rfl, if_neg (fun both => absurd both.1 (by decide)), Nat.add_zero]
    cases filled : anyWord tokens with
    | true => rw [closed_eq_of_anyWord filled, if_pos rfl]
    | false =>
        have spaces : ∀ token ∈ tokens, token.kind = .whiteSpace := by
          simpa [anyWord, isSpace] using filled
        rw [closed_of_spaces spaces, if_neg Bool.false_ne_true]
  rw [countP_parse text (by decide), countP_leafOf_level fun kind => (nodeType_ne_level kind).2.2,
    Nat.zero_add, sum_paragraphs]
  simp only [each]

theorem paragraphs_parse (text : String) :
    ((parse text).subtrees.countP fun node => node.type = Prose.Kind.paragraph) =
      (paragraphs text).length := by
  have each : ∀ tokens, grouped Prose.Kind.paragraph tokens = if anyWord tokens then 1 else 0 := by
    intro tokens
    rw [grouped, if_neg (by decide), Nat.zero_add]
    simp
  have length : (paragraphs text).length =
      ((stretches text).map fun stretch => if anyWord (Token.scan stretch) then 1 else 0).sum := by
    rw [← sum_paragraphs text fun _ => 1]
    simp
  rw [countP_parse text (by decide), countP_leafOf_level fun kind => (nodeType_ne_level kind).2.1,
    Nat.zero_add, length]
  simp only [each]

/-- The counts of the tree of a text are those of the text. -/
theorem counts_parse (text : String) :
    ∃ tree, Tree.ofCst Model.standard (parse text) = .ok tree ∧
      Counts.ofTree tree = Counts.ofText text := by
  rcases document_builds (Token.scan text) with ⟨tree, built⟩
  have named : ∀ type, (tree.subtrees.countP fun part => part.is type) =
      (parse text).subtrees.countP fun node => node.type = type := by
    intro type
    have names := congrArg (List.countP fun name => decide (name = type)) (Tree.names_of_ofCst _ built)
    rw [List.countP_map, List.countP_map] at names
    exact names
  have whole : tree.text = text := by
    rw [Tree.text, Tree.join_pieces_of_ofCst _ built, document_pieces, ← String.toList_inj,
      String.toList_join, List.flatMap_map]
    exact Token.scan_spell text
  refine ⟨tree, built, ?_⟩
  rw [Counts.ofTree, named, named, named, words_parse, sentences_parse, paragraphs_parse, whole,
    Counts.ofText]

/-- White space alone is no paragraph, and the mark after the bracket belongs to the first sentence. -/
example : Counts.ofText "(Go.)! On \n\n \n" = ⟨2, 2, 1, 14⟩ := by cbv

end English
end Prose

import Prose.Proofs.English.Neighbours
import Prose.Proofs.English.Order

namespace Prose
namespace English

/-!
# The form of a document

The root of a document has paragraphs and white space below it, one after the other by turns; a paragraph
has sentences and white space, and a sentence has leaves.  White space that parts paragraphs stands in the
root, and all other white space in a paragraph or a sentence.  No sentence has white space at its ends, and
a paragraph has it only at the ends of the text.
-/

/-- A leaf of one of the kinds of token that is not empty. -/
def IsLeaf (node : Cst) : Prop := ∃ token : Token, token.text ≠ "" ∧ node = token.leaf

/-- A leaf of white space that is not empty. -/
def IsBlankLeaf (node : Cst) : Prop := IsLeaf node ∧ node.type = Prose.Kind.whiteSpace

def lineFeeds (node : Cst) : Nat := (node.value.getD "").toList.count '\n'

/-- The form of the nodes of a sentence: leaves, of which the first and the last are no white space. -/
structure SentenceForm (words : List Cst) : Prop where
  leaves : ∀ word ∈ words, IsLeaf word
  head : ∃ word, words.head? = some word ∧ word.type ≠ Prose.Kind.whiteSpace
  last : ∃ word, words.getLast? = some word ∧ word.type ≠ Prose.Kind.whiteSpace
  few : ∀ word ∈ words, word.type = Prose.Kind.whiteSpace → lineFeeds word < 2

/-- The form of the nodes of a paragraph: sentences and white space, and a sentence at least. -/
structure ParagraphForm (nodes : List Cst) : Prop where
  each : ∀ node ∈ nodes,
    (IsBlankLeaf node ∧ lineFeeds node < 2) ∨
      ∃ words, node = .parent Prose.Kind.sentence words ∧ SentenceForm words
  sentence : ∃ node ∈ nodes, node.type = Prose.Kind.sentence

/-- The form of the nodes below the root of the document of a text. -/
structure DocumentForm (text : String) (nodes : List Cst) : Prop where
  each : ∀ node ∈ nodes,
    IsBlankLeaf node ∨ ∃ parts, node = .parent Prose.Kind.paragraph parts ∧ ParagraphForm parts
  alternate : nodes.IsChain fun first second => first.type ≠ second.type
  neighbours : (Cst.leavesAll nodes).IsChain fun first second =>
    ¬ (first.type = Prose.Kind.whiteSpace ∧ second.type = Prose.Kind.whiteSpace) ∧
      ¬ (first.type = Prose.Kind.word ∧ second.type = Prose.Kind.word)
  breaks : ∀ node ∈ nodes, node.type = Prose.Kind.whiteSpace →
    2 ≤ lineFeeds node ∨
      (nodes = [node] ∧ node = Cst.leaf Prose.Kind.whiteSpace text ∧
        ∀ c ∈ text.toList, Text.Property.isWhiteSpace c = true)
  starts : ∀ parts, Cst.parent Prose.Kind.paragraph parts ∈ nodes →
    ∀ leaf, (Cst.leavesAll parts).head? = some leaf → leaf.type = Prose.Kind.whiteSpace →
      Token.StartsBlank text
  ends : ∀ parts, Cst.parent Prose.Kind.paragraph parts ∈ nodes →
    ∀ leaf, (Cst.leavesAll parts).getLast? = some leaf → leaf.type = Prose.Kind.whiteSpace →
      Token.EndsBlank text

/-! ## Leaves -/

theorem leaf_injective : Function.Injective Token.leaf := by
  rintro ⟨kind, text⟩ ⟨kind', text'⟩ same
  have parts : kind.nodeType = kind'.nodeType ∧ text = text' := by simpa [Token.leaf, Cst.leaf] using same
  rw [nodeType_inj.mp parts.1, parts.2]

theorem leaf_type_eq {token : Token} {kind : Kind} :
    token.leaf.type = kind.nodeType ↔ token.kind = kind := nodeType_inj

theorem lineFeeds_of_isBreak {token : Token} (parts : isBreak token = true) :
    2 ≤ lineFeeds token.leaf := by
  rw [isBreak, Bool.and_eq_true] at parts
  exact of_decide_eq_true parts.2

theorem lineFeeds_of_not_isBreak {token : Token} (within : isBreak token = false)
    (blank : token.kind = .whiteSpace) : lineFeeds token.leaf < 2 := by
  rw [isBreak, blank] at within
  exact Nat.lt_of_not_le (of_decide_eq_false within)

/-! ## Sentences and paragraphs -/

theorem sentenceForm {words : List Token} (trimmed : Trimmed words)
    (some : ∀ word ∈ words, word.text ≠ "") (within : ∀ word ∈ words, isBreak word = false) :
    SentenceForm (words.map Token.leaf) where
  leaves := by
    intro leaf member
    rcases List.mem_map.mp member with ⟨word, inside, rfl⟩
    exact ⟨word, some word inside, rfl⟩
  head := by
    rcases trimmed.head with ⟨word, first, kind⟩
    refine ⟨word.leaf, ?_, fun blank => kind (leaf_type_eq.mp blank)⟩
    rw [List.head?_map, first, Option.map_some]
  last := by
    rcases trimmed.last with ⟨word, final, kind⟩
    refine ⟨word.leaf, ?_, fun blank => kind (leaf_type_eq.mp blank)⟩
    rw [List.getLast?_map, final, Option.map_some]
  few := by
    intro leaf member blank
    rcases List.mem_map.mp member with ⟨word, inside, rfl⟩
    exact lineFeeds_of_not_isBreak (within word inside) (leaf_type_eq.mp blank)

theorem paragraphForm {tokens : List Token} (word : ∃ token ∈ tokens, token.kind ≠ .whiteSpace)
    (some : ∀ token ∈ tokens, token.text ≠ "") (within : ∀ token ∈ tokens, isBreak token = false) :
    ParagraphForm (contents tokens) where
  each := by
    intro node member
    have inside : ∀ token : Token, token.leaf ∈ node.leaves → token ∈ tokens := by
      intro token below
      have leaf : token.leaf ∈ Cst.leavesAll (contents tokens) :=
        Cst.mem_leavesAll.mpr ⟨node, member, below⟩
      rw [leaves_contents] at leaf
      exact (List.mem_map_of_injective leaf_injective).mp leaf
    have sentence : ∀ words : List Token, Trimmed words →
        node = .parent Prose.Kind.sentence (words.map Token.leaf) →
        ∃ words, node = .parent Prose.Kind.sentence words ∧ SentenceForm words := by
      rintro words trimmed rfl
      have member : ∀ word ∈ words, word ∈ tokens := by
        intro word member
        refine inside word ?_
        rw [Cst.leaves_parent, leavesAll_map_leaf]
        exact List.mem_map_of_mem member
      exact ⟨_, rfl, sentenceForm trimmed (fun word inside => some word (member word inside))
        fun word inside => within word (member word inside)⟩
    rcases List.append_of_mem member with ⟨before, after, split⟩
    cases (cut_contents tokens).of_split split with
    | space space =>
        rcases space with ⟨token, blank, rfl⟩
        have member : token ∈ tokens := inside token (by rw [Token.leaf, Cst.leaves_leaf]; simp)
        exact Or.inl ⟨⟨⟨token, some token member, rfl⟩, leaf_type_eq.mpr blank⟩,
          lineFeeds_of_not_isBreak (within token member) blank⟩
    | closed behind trimmed => exact Or.inr (sentence _ trimmed rfl)
    | unclosed trimmed => exact Or.inr (sentence _ trimmed rfl)
  sentence := by
    rcases exists_sentence word with ⟨words, member⟩
    exact ⟨_, member, rfl⟩

/-! ## Documents -/

/-- The nodes below the root that the tokens of a text give. -/
structure Reading (text : String) (nodes : List Cst) : Prop where
  parted : Throughout Parted nodes
  leaves : Cst.leavesAll nodes = (Token.scan text).map Token.leaf

theorem exists_reading (text : String) :
    ∃ nodes, parse text = .parent Prose.Kind.root nodes ∧ Reading text nodes := by
  rcases parted_document (Token.scan text) with ⟨nodes, root, parted⟩
  refine ⟨nodes, root, parted, ?_⟩
  rw [← leaves_document, root, Cst.leaves_parent]

namespace Reading

variable {text : String} {nodes before after : List Cst} {first second : Cst}

/-- A token whose leaf is in the document is one of the tokens of the text. -/
theorem mem_scan (reading : Reading text nodes) {node : Cst} (member : node ∈ nodes) {token : Token}
    (leaf : token.leaf ∈ node.leaves) : token ∈ Token.scan text := by
  have below : token.leaf ∈ Cst.leavesAll nodes := Cst.mem_leavesAll.mpr ⟨node, member, leaf⟩
  rw [reading.leaves] at below
  exact (List.mem_map_of_injective leaf_injective).mp below

theorem each (reading : Reading text nodes) {node : Cst} (member : node ∈ nodes) :
    IsBlankLeaf node ∨ ∃ parts, node = .parent Prose.Kind.paragraph parts ∧ ParagraphForm parts := by
  have leaf : ∀ token : Token, node = token.leaf → token.kind = .whiteSpace → IsBlankLeaf node := by
    rintro token rfl blank
    have inside : token ∈ Token.scan text :=
      reading.mem_scan member (by rw [Token.leaf, Cst.leaves_leaf]; simp)
    exact ⟨⟨token, (Token.sound_of_mem_scan inside).some, rfl⟩, leaf_type_eq.mpr blank⟩
  rcases List.append_of_mem member with ⟨before, after, split⟩
  cases reading.parted.of_split split with
  | part parts => exact Or.inl (leaf _ rfl (kind_of_isBreak parts))
  | space space next => exact Or.inl (leaf _ rfl space)
  | @paragraph tokens _ word within next =>
      have some : ∀ token ∈ tokens, token.text ≠ "" := by
        intro token inside
        refine (Token.sound_of_mem_scan (reading.mem_scan member ?_)).some
        rw [Cst.leaves_parent, leaves_contents]
        exact List.mem_map_of_mem inside
      exact Or.inr ⟨_, rfl, paragraphForm word some within⟩

theorem neighbours (reading : Reading text nodes) :
    (Cst.leavesAll nodes).IsChain fun first second =>
      ¬ (first.type = Prose.Kind.whiteSpace ∧ second.type = Prose.Kind.whiteSpace) ∧
        ¬ (first.type = Prose.Kind.word ∧ second.type = Prose.Kind.word) := by
  rw [reading.leaves, List.isChain_map]
  refine (Token.scan_apart text).imp fun first second apart => ?_
  have never : ∀ kind : Kind, kind ≠ .punctuation → kind ≠ .symbol →
      ¬ (first.leaf.type = kind.nodeType ∧ second.leaf.type = kind.nodeType) := by
    rintro kind mark symbol ⟨left, right⟩
    rw [leaf_type_eq] at left right
    rcases apart (left.trans right.symm) with same | same
    · exact mark (left.symm.trans same)
    · exact symbol (left.symm.trans same)
  exact ⟨never .whiteSpace nofun nofun, never .word nofun nofun⟩

/-- Of two neighbouring nodes, the first does not end with white space or the second does not start with
it. -/
theorem not_both_blank (reading : Reading text nodes) (split : nodes = before ++ first :: second :: after)
    {last head : Cst} (final : first.leaves.getLast? = some last)
    (start : second.leaves.head? = some head) :
    ¬ (last.type = Prose.Kind.whiteSpace ∧ head.type = Prose.Kind.whiteSpace) := by
  have chain := reading.neighbours
  rw [Cst.leavesAll_of_split split] at chain
  have edge := (List.isChain_append.mp chain.right_of_append).2.2 last final head
  refine (edge ?_).1
  rw [List.head?_append, start]
  rfl

theorem isSpace_leaves {node : Cst} (space : IsSpace node) :
    node.leaves = [node] ∧ node.type = Prose.Kind.whiteSpace := by
  rcases space with ⟨token, blank, rfl⟩
  exact ⟨Cst.leaves_leaf _ _, leaf_type_eq.mpr blank⟩

theorem not_space_space (reading : Reading text nodes)
    (split : nodes = before ++ first :: second :: after) : ¬ (IsSpace first ∧ IsSpace second) := by
  rintro ⟨left, right⟩
  have left := isSpace_leaves left
  have right := isSpace_leaves right
  exact reading.not_both_blank split (by rw [left.1]; rfl) (by rw [right.1]; rfl) ⟨left.2, right.2⟩

/-- A node of the root is white space, or a paragraph with a break behind it. -/
theorem space_or_paragraph (reading : Reading text nodes) (split : nodes = before ++ first :: after) :
    IsSpace first ∨
      (first.type = Prose.Kind.paragraph ∧
        ∀ node, after.head? = some node → ∃ token, isBreak token = true ∧ node = token.leaf) := by
  cases reading.parted.of_split split with
  | part parts => exact Or.inl ⟨_, kind_of_isBreak parts, rfl⟩
  | space space next => exact Or.inl ⟨_, space, rfl⟩
  | paragraph word within next => exact Or.inr ⟨rfl, next⟩

theorem paragraph_of_space (reading : Reading text nodes)
    (split : nodes = before ++ first :: second :: after) (space : IsSpace first) :
    second.type = Prose.Kind.paragraph := by
  have split' : nodes = (before ++ [first]) ++ second :: after := by rw [split]; simp
  rcases reading.space_or_paragraph split' with blank | paragraph
  · exact absurd ⟨space, blank⟩ (reading.not_space_space split)
  · exact paragraph.1

theorem break_of_paragraph (reading : Reading text nodes)
    (split : nodes = before ++ first :: second :: after)
    (paragraph : first.type = Prose.Kind.paragraph) :
    ∃ token, isBreak token = true ∧ second = token.leaf := by
  rcases reading.space_or_paragraph split with space | parted
  · rw [(isSpace_leaves space).2] at paragraph
    exact absurd paragraph (by decide)
  · exact parted.2 second rfl

theorem alternate (reading : Reading text nodes) :
    nodes.IsChain fun first second => first.type ≠ second.type := by
  rw [List.isChain_iff_forall_rel_of_append_cons_cons]
  intro first second before after split same
  rcases reading.space_or_paragraph split with space | paragraph
  · rw [(isSpace_leaves space).2, reading.paragraph_of_space split space] at same
    exact absurd same (by decide)
  · rcases reading.break_of_paragraph split paragraph.1 with ⟨token, parts, rfl⟩
    rw [paragraph.1, leaf_type_eq.mpr (kind_of_isBreak parts)] at same
    exact absurd same (by decide)

/-- White space in the root that is no break stands there alone. -/
theorem alone_of_not_isBreak (reading : Reading text nodes) {token : Token}
    (split : nodes = before ++ token.leaf :: after) (blank : token.kind = .whiteSpace)
    (few : isBreak token = false)
    (next : ∀ node, after.head? = some node → IsSpace node) : nodes = [token.leaf] := by
  have space : IsSpace token.leaf := ⟨token, blank, rfl⟩
  have last : after = [] := by
    cases after with
    | nil => rfl
    | cons second more => exact absurd ⟨space, next second rfl⟩ (reading.not_space_space split)
  rcases List.eq_nil_or_concat before with none | ⟨front, first, concat⟩
  · rw [split, none, last]
    rfl
  · -- Only a paragraph could stand in front, and behind it there would be a break.
    have split' : nodes = front ++ first :: token.leaf :: after := by rw [split, concat]; simp
    have paragraph : first.type = Prose.Kind.paragraph := by
      rcases reading.space_or_paragraph split' with left | paragraph
      · exact absurd ⟨left, space⟩ (reading.not_space_space split')
      · exact paragraph.1
    rcases reading.break_of_paragraph split' paragraph with ⟨other, parts, same⟩
    rw [leaf_injective same, parts] at few
    cases few

/-- White space that stands alone in the root is the whole text. -/
theorem text_of_alone (reading : Reading text nodes) {token : Token} (blank : token.kind = .whiteSpace)
    (alone : nodes = [token.leaf]) :
    token.text = text ∧ ∀ c ∈ text.toList, Text.Property.isWhiteSpace c = true := by
  have tokens : Token.scan text = [token] := by
    have leaves := reading.leaves
    rw [alone, Cst.leavesAll_cons, Cst.leavesAll_nil, List.append_nil, Token.leaf,
      Cst.leaves_leaf] at leaves
    rcases List.map_eq_singleton_iff.mp leaves.symm with ⟨other, only, same⟩
    rw [only, leaf_injective same]
  have whole : token.text = text := by
    have spelled := Token.scan_spell text
    rw [tokens, List.flatMap_singleton] at spelled
    exact String.toList_inj.mp spelled
  have sound : token.Sound := by
    have member : token ∈ Token.scan text := by
      rw [tokens]
      exact List.mem_cons_self
    exact Token.sound_of_mem_scan member
  rw [← whole]
  exact ⟨rfl, sound.blank blank⟩

theorem breaks (reading : Reading text nodes) {node : Cst} (member : node ∈ nodes)
    (type : node.type = Prose.Kind.whiteSpace) :
    2 ≤ lineFeeds node ∨
      (nodes = [node] ∧ node = Cst.leaf Prose.Kind.whiteSpace text ∧
        ∀ c ∈ text.toList, Text.Property.isWhiteSpace c = true) := by
  rcases List.append_of_mem member with ⟨before, after, split⟩
  cases reading.parted.of_split split with
  | part parts => exact Or.inl (lineFeeds_of_isBreak parts)
  | paragraph =>
      rw [Cst.parent_type] at type
      exact absurd type (by decide)
  | @space token _ blank next =>
      cases parts : isBreak token with
      | true => exact Or.inl (lineFeeds_of_isBreak parts)
      | false =>
          have alone := reading.alone_of_not_isBreak split blank parts next
          have whole := reading.text_of_alone blank alone
          refine Or.inr ⟨alone, ?_, whole.2⟩
          rw [Token.leaf, blank, whole.1]
          rfl

/-- A paragraph that starts with white space is at the start of the text. -/
theorem starts (reading : Reading text nodes) {parts : List Cst}
    (member : Cst.parent Prose.Kind.paragraph parts ∈ nodes) {leaf : Cst}
    (first : (Cst.leavesAll parts).head? = some leaf) (blank : leaf.type = Prose.Kind.whiteSpace) :
    Token.StartsBlank text := by
  rcases List.append_of_mem member with ⟨before, after, split⟩
  rcases List.eq_nil_or_concat before with none | ⟨front, previous, concat⟩
  · have leaves := reading.leaves
    rw [split, none, List.nil_append, Cst.leavesAll_cons, Cst.leaves_parent] at leaves
    have start := congrArg List.head? leaves
    rw [List.head?_append, first, List.head?_map] at start
    rcases Option.map_eq_some_iff.mp start.symm with ⟨token, head, rfl⟩
    rcases List.head?_eq_some_iff.mp head with ⟨rest, tokens⟩
    exact Token.startsBlank_of_scan tokens (leaf_type_eq.mp blank)
  · have split' : nodes = front ++ previous :: Cst.parent Prose.Kind.paragraph parts :: after := by
      rw [split, concat]
      simp
    rcases reading.space_or_paragraph split' with space | paragraph
    · have space := isSpace_leaves space
      have apart := reading.not_both_blank split' (by rw [space.1]; rfl)
        (by rw [Cst.leaves_parent]; exact first)
      exact absurd ⟨space.2, blank⟩ apart
    · rcases reading.break_of_paragraph split' paragraph.1 with ⟨token, _, same⟩
      cases congrArg Cst.children same

/-- A paragraph that ends with white space is at the end of the text. -/
theorem ends (reading : Reading text nodes) {parts : List Cst}
    (member : Cst.parent Prose.Kind.paragraph parts ∈ nodes) {leaf : Cst}
    (last : (Cst.leavesAll parts).getLast? = some leaf) (blank : leaf.type = Prose.Kind.whiteSpace) :
    Token.EndsBlank text := by
  rcases List.append_of_mem member with ⟨before, after, split⟩
  cases after with
  | nil =>
      have leaves := reading.leaves
      rw [split, Cst.leavesAll_append, Cst.leavesAll_cons, Cst.leaves_parent, Cst.leavesAll_nil,
        List.append_nil] at leaves
      have final := congrArg List.getLast? leaves
      rw [List.getLast?_append, last, List.getLast?_map] at final
      rcases Option.map_eq_some_iff.mp final.symm with ⟨token, found, rfl⟩
      rcases List.getLast?_eq_some_iff.mp found with ⟨front, tokens⟩
      exact Token.endsBlank_of_scan tokens (leaf_type_eq.mp blank)
  | cons next after =>
      rcases reading.break_of_paragraph split rfl with ⟨token, parts', rfl⟩
      have space := isSpace_leaves ⟨token, kind_of_isBreak parts', rfl⟩
      have apart := reading.not_both_blank split (by rw [Cst.leaves_parent]; exact last)
        (by rw [space.1]; rfl)
      exact absurd ⟨blank, space.2⟩ apart

end Reading

/-- The document of every text has its form. -/
theorem parse_form (text : String) :
    ∃ nodes, parse text = .parent Prose.Kind.root nodes ∧ DocumentForm text nodes := by
  rcases exists_reading text with ⟨nodes, root, reading⟩
  refine ⟨nodes, root, ?_⟩
  exact {
    each := fun node member => reading.each member
    alternate := reading.alternate
    neighbours := reading.neighbours
    breaks := fun node member type => reading.breaks member type
    starts := fun parts member leaf first blank => reading.starts member first blank
    ends := fun parts member leaf last blank => reading.ends member last blank }

end English
end Prose

import Mathlib.Data.List.Induction
import Prose.Plugin.Stock
import Prose.Proofs.Json.Fields
import Prose.Proofs.Tree.Places

namespace Prose
namespace Stock

/-!
# What the stock transforms do at a place

No stock transform moves, adds or drops a node or changes a type.  The texts of words are rewritten, and
annotations with three keys are set.  What one transform does at a place is stated by `Acts`, and what
several of them do in turn by `Made`.
-/

namespace Transform

/-! ## Words -/

/-- What a transform makes of the text of a word. -/
def rewrite : Transform → String → String
  | .position, word => word
  | .stats, word => word
  | .redact isMatch mask, word => if isMatch word then Tree.masked mask word else word
  | .uppercase, word => Text.Casing.upper word
  | .lowercase, word => Text.Casing.lower word

def rewriteAll (transforms : List Transform) (word : String) : String :=
  transforms.foldl (fun word transform => transform.rewrite word) word

/-- A transform masks a word: its pattern matches the text of the word. -/
def Masks (transform : Transform) (word : String) : Prop :=
  ∃ isMatch mask, transform = .redact isMatch mask ∧ isMatch word = true

/-- One of some transforms masks a word, as its text is when the turn comes to that transform. -/
def Redacted (transforms : List Transform) (word : String) : Prop :=
  ∃ before transform after, transforms = before ++ transform :: after ∧
    transform.Masks (rewriteAll before word)

theorem rewriteAll_concat (transforms : List Transform) (transform : Transform) (word : String) :
    rewriteAll (transforms ++ [transform]) word = transform.rewrite (rewriteAll transforms word) := by
  rw [rewriteAll, List.foldl_append]
  rfl

theorem not_redacted_nil (word : String) : ¬ Redacted [] word := by
  rintro ⟨before, transform, after, split, _⟩
  cases before <;> cases split

/-- With one more transform, those words are redacted as well that it masks. -/
theorem redacted_concat {transforms : List Transform} {transform : Transform} {word : String} :
    Redacted (transforms ++ [transform]) word ↔
      Redacted transforms word ∨ transform.Masks (rewriteAll transforms word) := by
  constructor
  · rintro ⟨before, other, after, split, masks⟩
    rcases List.eq_nil_or_concat after with none | ⟨front, last, concat⟩
    · rw [none] at split
      rcases List.append_inj' split rfl with ⟨same, ⟨⟩⟩
      rw [same]
      exact Or.inr masks
    · rw [concat, List.concat_eq_append, ← List.cons_append, ← List.append_assoc] at split
      rcases List.append_inj' split rfl with ⟨same, _⟩
      exact Or.inl ⟨before, other, front, same, masks⟩
  · rintro (⟨before, other, after, split, masks⟩ | masks)
    · exact ⟨before, other, after ++ [transform], by rw [split]; simp, masks⟩
    · exact ⟨transforms, transform, [], rfl, masks⟩

end Transform

/-! ## One transform -/

/-- A node carries the mark of a redacted word. -/
def Marked (node : Tree) : Prop := node.data.find? "redacted" = some (.boolean true)

/-- The keys of the annotations that the stock transforms set at a place. -/
def Sets (place : List Nat) (node : Tree) (key : String) : Prop :=
  key = "position" ∨ (key = "redacted" ∧ node.word?.isSome) ∨ (key = "stats" ∧ place = [])

/-- What a transform makes of the node at a place. -/
structure Acts (transform : Transform) (place : List Nat) (before after : Tree) : Prop where
  type : after.type = before.type
  count : after.children.length = before.children.length
  other : before.word? = none → after.value? = before.value?
  word : ∀ word, before.word? = some word → after.value? = some (transform.rewrite word)
  marked : ∀ word, before.word? = some word → (Marked after ↔ Marked before ∨ transform.Masks word)
  keys : ∀ field ∈ after.data, Sets place before field.1 ∨ field ∈ before.data

theorem value?_of_word? {node : Tree} {word : String} (isWord : node.word? = some word) :
    node.value? = some word := by
  unfold Tree.word? at isWord
  split at isWord
  · exact isWord
  · cases isWord

/-- Setting another annotation than the mark acts as a transform that leaves words alone. -/
theorem acts_of_insert {transform : Transform} {place : List Nat} {before after : Tree} {key : String}
    {mark : Json} (type : after.type = before.type)
    (count : after.children.length = before.children.length) (value : after.value? = before.value?)
    (data : after.data = before.data.insert key mark) (sets : Sets place before key)
    (unmarked : key ≠ "redacted") (same : ∀ word, transform.rewrite word = word)
    (never : ∀ word, ¬ transform.Masks word) : Acts transform place before after where
  type := type
  count := count
  other _ := value
  word word isWord := by rw [value, same, value?_of_word? isWord]
  marked word _ := by
    rw [Marked, data, Json.Fields.find?_insert_of_ne unmarked.symm, Marked]
    exact (or_iff_left (never word)).symm
  keys field member := by
    rw [data] at member
    rcases Json.Fields.mem_insert member with new | old
    · exact Or.inl (new ▸ sets)
    · exact Or.inr old

theorem acts_of_same {transform : Transform} {place : List Nat} (node : Tree)
    (same : ∀ word, transform.rewrite word = word) (never : ∀ word, ¬ transform.Masks word) :
    Acts transform place node node where
  type := rfl
  count := rfl
  other _ := rfl
  word word isWord := by rw [same, value?_of_word? isWord]
  marked word _ := (or_iff_left (never word)).symm
  keys field member := Or.inr member

/-- The edit of words that a transform makes, if it makes one. -/
def Transform.edit? : Transform → Option (String → Tree.Edit)
  | .position => none
  | .stats => none
  | .redact isMatch mask => some fun word =>
      if isMatch word then .replaceAndMark (Tree.masked mask word) "redacted" (.boolean true)
      else .keep
  | .uppercase => some fun word => .replace (Text.Casing.upper word)
  | .lowercase => some fun word => .replace (Text.Casing.lower word)

/-- An edited word has the text that the transform makes of it, and is marked if it is masked. -/
theorem edited_word {transform : Transform} {edit : String → Tree.Edit}
    (edits : transform.edit? = some edit) {node : Tree} {word : String}
    (isWord : node.word? = some word) :
    (node.editWords edit).value? = some (transform.rewrite word) ∧
      ((transform.Masks word ∧ (node.editWords edit).data = node.data.insert "redacted" (.boolean true)) ∨
        (¬ transform.Masks word ∧ (node.editWords edit).data = node.data)) := by
  rw [Tree.editWords_of_word isWord]
  cases transform with
  | position => cases edits
  | stats => cases edits
  | uppercase =>
      cases edits
      exact ⟨rfl, Or.inr ⟨nofun, rfl⟩⟩
  | lowercase =>
      cases edits
      exact ⟨rfl, Or.inr ⟨nofun, rfl⟩⟩
  | redact isMatch mask =>
      cases edits
      cases matching : isMatch word with
      | true =>
          simp only [if_true, Transform.rewrite, matching]
          exact ⟨rfl, Or.inl ⟨⟨isMatch, mask, rfl, matching⟩, rfl⟩⟩
      | false =>
          simp only [Transform.rewrite, matching]
          refine ⟨value?_of_word? isWord, Or.inr ⟨?_, rfl⟩⟩
          rintro ⟨other, _, ⟨⟩, masks⟩
          rw [matching] at masks
          cases masks

theorem acts_of_edit {transform : Transform} {edit : String → Tree.Edit}
    (edits : transform.edit? = some edit) (place : List Nat) (node : Tree) :
    Acts transform place node (node.editWords edit) where
  type := Tree.type_editWords edit node
  count := by rw [Tree.children_editWords, List.length_map]
  other none := (Tree.editWords_of_other none edit).2
  word word isWord := (edited_word edits isWord).1
  marked word isWord := by
    rcases (edited_word edits isWord).2 with ⟨masks, data⟩ | ⟨never, data⟩
    · rw [Marked, data, Json.Fields.find?_insert_self]
      exact iff_of_true rfl (Or.inr masks)
    · rw [Marked, data, Marked]
      exact (or_iff_left never).symm
  keys field member := by
    cases isWord : node.word? with
    | none => exact Or.inr ((Tree.editWords_of_other isWord edit).1 ▸ member)
    | some word =>
        rcases (edited_word edits isWord).2 with ⟨_, data⟩ | ⟨_, data⟩
        · rw [data] at member
          rcases Json.Fields.mem_insert member with new | old
          · rw [new]
            exact Or.inl (Or.inr (Or.inl ⟨rfl, by rw [isWord]; rfl⟩))
          · exact Or.inr old
        · exact Or.inr (data ▸ member)

theorem acts_edited {transform : Transform} {edit : String → Tree.Edit}
    (edits : transform.edit? = some edit) (tree : Tree) (place : List Nat) :
    Option.Rel (Acts transform place) (tree.at? place) ((tree.editWords edit).at? place) := by
  rw [Tree.at?_editWords]
  cases tree.at? place with
  | none => exact .none
  | some node => exact .some (acts_of_edit edits place node)

theorem acts_positions (tree : Tree) (place : List Nat) :
    Option.Rel (Acts .position place) (tree.at? place) (tree.withPositions.at? place) := by
  rcases Tree.at?_positionFrom 0 tree place with ⟨first, positioned⟩
  rw [Tree.withPositions, positioned]
  cases tree.at? place with
  | none => exact .none
  | some node =>
      rcases Tree.positionFrom_node first node with ⟨type, value, mark, data⟩
      have count : (Tree.positionFrom first node).1.children.length = node.children.length := by
        rw [Tree.children_positionFrom, Tree.length_positionAll]
      exact .some (acts_of_insert type count value data (Or.inl rfl) (by decide) (fun _ => rfl) nofun)

theorem acts_stats (tree : Tree) (place : List Nat) :
    Option.Rel (Acts .stats place) (tree.at? place) (tree.withStats.at? place) := by
  rw [Tree.withStats]
  cases place with
  | nil =>
      have count := congrArg List.length (Tree.children_annotate tree "stats" (Counts.ofTree tree).toJson)
      have sets : Sets [] tree "stats" := Or.inr (Or.inr ⟨rfl, rfl⟩)
      exact .some (acts_of_insert (Tree.type_annotate tree _ _) count (Tree.value?_annotate tree _ _)
        (Tree.data_annotate tree _ _) sets (by decide) (fun _ => rfl) nofun)
  | cons index place =>
      rw [Tree.at?_annotate tree _ _ (List.cons_ne_nil index place)]
      cases tree.at? (index :: place) with
      | none => exact .none
      | some node => exact .some (acts_of_same node (fun _ => rfl) nofun)

/-- At every place a transform acts on the node that stands there. -/
theorem acts_apply (transform : Transform) (tree : Tree) (place : List Nat) :
    Option.Rel (Acts transform place) (tree.at? place) ((transform.apply tree).at? place) := by
  cases transform with
  | position => exact acts_positions tree place
  | stats => exact acts_stats tree place
  | redact isMatch mask => exact acts_edited rfl tree place
  | uppercase => exact acts_edited rfl tree place
  | lowercase => exact acts_edited rfl tree place

/-! ## Several transforms -/

/-- What transforms, one after the other, make of the node at a place that carried no annotations. -/
structure Made (transforms : List Transform) (place : List Nat) (before after : Tree) : Prop where
  type : after.type = before.type
  count : after.children.length = before.children.length
  other : before.word? = none → after.value? = before.value?
  word : ∀ word, before.word? = some word →
    after.value? = some (Transform.rewriteAll transforms word)
  marked : ∀ word, before.word? = some word →
    (Marked after ↔ Transform.Redacted transforms word)
  keys : ∀ field ∈ after.data, Sets place before field.1

theorem made_nil (place : List Nat) {node : Tree} (bare : node.data = []) : Made [] place node node where
  type := rfl
  count := rfl
  other _ := rfl
  word _ isWord := value?_of_word? isWord
  marked word _ := by
    rw [Marked, bare]
    exact iff_of_false nofun (Transform.not_redacted_nil word)
  keys field member := by
    rw [bare] at member
    cases member

variable {transforms : List Transform} {place : List Nat} {before after : Tree}

theorem Made.word?_of_other (made : Made transforms place before after) (other : before.word? = none) :
    after.word? = none := by
  have value := made.other other
  unfold Tree.word? Tree.is at other ⊢
  rw [made.type, value]
  exact other

theorem Made.word?_of_word (made : Made transforms place before after) {word : String}
    (isWord : before.word? = some word) :
    after.word? = some (Transform.rewriteAll transforms word) := by
  have value := made.word word isWord
  unfold Tree.word? Tree.is at isWord ⊢
  rw [made.type, value]
  split at isWord
  · rename_i name
    rw [if_pos name]
  · cases isWord

theorem Made.concat (made : Made transforms place before after) {transform : Transform} {last : Tree}
    (acts : Acts transform place after last) : Made (transforms ++ [transform]) place before last where
  type := acts.type.trans made.type
  count := acts.count.trans made.count
  other none := (acts.other (made.word?_of_other none)).trans (made.other none)
  word word isWord := by
    rw [acts.word _ (made.word?_of_word isWord), Transform.rewriteAll_concat]
  marked word isWord := by
    rw [acts.marked _ (made.word?_of_word isWord), made.marked word isWord, Transform.redacted_concat]
  keys field member := by
    rcases acts.keys field member with (position | ⟨redacted, isWord⟩ | stats) | old
    · exact Or.inl position
    · refine Or.inr (Or.inl ⟨redacted, ?_⟩)
      cases other : before.word? with
      | none =>
          rw [made.word?_of_other other] at isWord
          cases isWord
      | some word => rfl
    · exact Or.inr (Or.inr stats)
    · exact made.keys field old

theorem Made.rel_concat {transform : Transform} {first second third : Option Tree}
    (made : Option.Rel (Made transforms place) first second)
    (acts : Option.Rel (Acts transform place) second third) :
    Option.Rel (Made (transforms ++ [transform]) place) first third := by
  cases made with
  | none =>
      cases acts
      exact .none
  | some made =>
      cases acts with
      | some acts => exact .some (made.concat acts)

def Transform.applyAll (transforms : List Transform) (tree : Tree) : Tree :=
  transforms.foldl (fun tree transform => transform.apply tree) tree

/-- At every place of a tree without annotations stands what the transforms make of the node there. -/
theorem made_applyAll (transforms : List Transform) {tree : Tree}
    (bare : ∀ place node, tree.at? place = some node → node.data = []) (place : List Nat) :
    Option.Rel (Made transforms place) (tree.at? place)
      ((Transform.applyAll transforms tree).at? place) := by
  -- The last transform acts on what the others have made, so the list is taken apart from its end.
  induction transforms using List.reverseRecOn with
  | nil =>
      rw [Transform.applyAll, List.foldl_nil]
      cases found : tree.at? place with
      | none => exact .none
      | some node => exact .some (made_nil place (bare place node found))
  | append_singleton transforms transform inductionHypothesis =>
      have last : Transform.applyAll (transforms ++ [transform]) tree =
          transform.apply (Transform.applyAll transforms tree) := by
        rw [Transform.applyAll, List.foldl_append]
        rfl
      rw [last]
      exact Made.rel_concat inductionHypothesis (acts_apply transform _ place)

end Stock
end Prose

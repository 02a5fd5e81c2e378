import Mathlib.Data.List.Chain
import Prose.Proofs.English.Runs

namespace Prose

/-!
# The tokens of a text and their neighbours

No token of a text is empty, and a token of white space is white space throughout.  A run goes on as far
as it can, so no word is next to a word and no white space is next to white space.
-/

namespace Text
namespace Cluster

theorem split_ne_nil {before : List Char} (some : before ≠ []) (text : List Char) :
    ∀ piece ∈ split before text, piece ≠ [] := by
  induction text generalizing before with
  | nil =>
      rw [split, List.forall_mem_singleton]
      exact fun none => some (List.reverse_eq_nil_iff.mp none)
  | cons c rest inductionHypothesis =>
      rw [split]
      split
      · exact inductionHypothesis (List.cons_ne_nil c before)
      · rw [List.forall_mem_cons]
        exact ⟨fun none => some (List.reverse_eq_nil_iff.mp none),
          inductionHypothesis (List.cons_ne_nil c [])⟩

theorem clusters_ne_nil (text : List Char) : ∀ cluster ∈ clusters text, cluster ≠ [] := by
  cases text with
  | nil => exact nofun
  | cons c rest => exact split_ne_nil (List.cons_ne_nil c []) rest

end Cluster
end Text

namespace English
namespace Token

variable {kind : Kind} {c : Char} {rest : List Char}

/-! ## The extent of a run -/

/-- Every character of a run but the first goes on with it. -/
theorem continues_of_mem_extent {text : List Char} (member : c ∈ (extent kind text).1) :
    ∃ after, continues kind c after = true := by
  induction text with
  | nil => cases member
  | cons first rest inductionHypothesis =>
      cases goesOn : continues kind first rest with
      | true =>
          rw [extent_of_continues goesOn] at member
          rcases List.mem_cons.mp member with same | further
          · exact ⟨rest, same ▸ goesOn⟩
          · exact inductionHypothesis further
      | false =>
          rw [extent_of_stops goesOn] at member
          cases member

/-- The character behind a run does not go on with it. -/
theorem stops_of_extent {text : List Char} (behind : (extent kind text).2 = c :: rest) :
    continues kind c rest = false := by
  induction text with
  | nil => cases behind
  | cons first more inductionHypothesis =>
      cases goesOn : continues kind first more with
      | true =>
          rw [extent_of_continues goesOn] at behind
          exact inductionHypothesis behind
      | false =>
          rw [extent_of_stops goesOn] at behind
          cases behind
          exact goesOn

/-! ## The tokens of a run -/

theorem isWhiteSpace_of_kindOf (blank : kindOf c = .whiteSpace) :
    Text.Property.isWhiteSpace c = true := by
  unfold kindOf at blank
  split at blank
  · cases blank
  · split at blank
    · assumption
    · split at blank <;> cases blank

theorem kind_of_mem_ofRun {token : Token} {run : List Char} (member : token ∈ ofRun (kind, run)) :
    token.kind = kind := by
  by_cases symbol : kind = .symbol
  · subst symbol
    rcases List.mem_map.mp member with ⟨cluster, _, rfl⟩
    rfl
  · rw [ofRun_of_other symbol, List.mem_singleton] at member
    rw [member]

/-- No token of a run is empty, unless the run is. -/
theorem text_ne_of_mem_ofRun {token : Token} {run : List Char} (some : run ≠ [])
    (member : token ∈ ofRun (kind, run)) : token.text ≠ "" := by
  intro none
  by_cases symbol : kind = .symbol
  · subst symbol
    rcases List.mem_map.mp member with ⟨cluster, inside, rfl⟩
    exact Text.Cluster.clusters_ne_nil run cluster inside (String.ofList_eq_empty_iff.mp none)
  · rw [ofRun_of_other symbol, List.mem_singleton] at member
    rw [member] at none
    exact some (String.ofList_eq_empty_iff.mp none)

theorem ofRun_whiteSpace (run : List Char) :
    ofRun (.whiteSpace, run) = [⟨.whiteSpace, String.ofList run⟩] := rfl

theorem exists_ofRun (kind : Kind) {run : List Char} (some : run ≠ []) :
    ∃ token more, ofRun (kind, run) = token :: more := by
  apply List.exists_cons_of_ne_nil
  intro none
  have spelled := ofRun_spell (kind, run)
  rw [none] at spelled
  exact some spelled.symm

/-! ## The tokens of a text -/

/-- What a token of a text is: not empty, and white space throughout if it is white space. -/
structure Sound (token : Token) : Prop where
  some : token.text ≠ ""
  blank : token.kind = .whiteSpace → ∀ c ∈ token.text.toList, Text.Property.isWhiteSpace c = true

/-- Neighbouring tokens of one kind are punctuation or symbols. -/
def Apart (first second : Token) : Prop :=
  first.kind = second.kind → first.kind = .punctuation ∨ first.kind = .symbol

theorem sound_of_mem_ofRun {token : Token}
    (member : token ∈ ofRun (kindOf c, c :: (extent (kindOf c) rest).1)) : token.Sound where
  some := text_ne_of_mem_ofRun (List.cons_ne_nil _ _) member
  blank := by
    intro blank
    have kind := (kind_of_mem_ofRun member).symm.trans blank
    rw [kind, ofRun_whiteSpace, List.mem_singleton] at member
    rw [member, String.toList_ofList, List.forall_mem_cons]
    refine ⟨isWhiteSpace_of_kindOf kind, fun other inside => ?_⟩
    rcases continues_of_mem_extent inside with ⟨_, goesOn⟩
    exact goesOn

theorem sound_of_mem_scan {text : String} {token : Token} (member : token ∈ scan text) :
    token.Sound := by
  unfold scan at member
  generalize text.toList = chars at member
  induction chars using runs_induction with
  | nil => cases member
  | cons c rest inductionHypothesis =>
      rw [runs_cons, List.flatMap_cons, List.mem_append] at member
      exact member.elim sound_of_mem_ofRun inductionHypothesis

/-- The kind of the first token is that of the first character. -/
theorem kind_of_head_runs {token : Token}
    (first : ((runs (c :: rest)).flatMap ofRun).head? = some token) : token.kind = kindOf c := by
  rcases exists_ofRun (kindOf c) (List.cons_ne_nil c (extent (kindOf c) rest).1)
    with ⟨head, more, tokens⟩
  have member : head ∈ ofRun (kindOf c, c :: (extent (kindOf c) rest).1) := by
    rw [tokens]
    exact List.mem_cons_self
  rw [runs_cons, List.flatMap_cons, tokens] at first
  cases first
  exact kind_of_mem_ofRun member

/-- A character that does not go on with a word or with white space starts something else. -/
theorem kindOf_of_stops (stops : continues kind c rest = false) (same : kind = kindOf c) :
    kind = .punctuation ∨ kind = .symbol := by
  cases kind with
  | punctuation => exact Or.inl rfl
  | symbol => exact Or.inr rfl
  | whiteSpace =>
      have space : Text.Property.isWhiteSpace c = true := isWhiteSpace_of_kindOf same.symm
      have none : Text.Property.isWhiteSpace c = false := stops
      rw [space] at none
      cases none
  | word =>
      have none : continuesWord c = false := (Bool.or_eq_false_iff.mp stops).1
      have start : startsWord c = false := (Bool.or_eq_false_iff.mp none).1
      unfold kindOf at same
      rw [start] at same
      split at same
      · contradiction
      · split at same
        · cases same
        · split at same <;> cases same

/-- The tokens of a run are apart: there is one, or they are symbols. -/
theorem ofRun_apart (kind : Kind) (run : List Char) : (ofRun (kind, run)).IsChain Apart := by
  by_cases symbol : kind = .symbol
  · subst symbol
    refine (List.isChain_map _).mpr (List.Pairwise.isChain ?_)
    exact List.pairwise_of_forall fun _ _ _ => Or.inr rfl
  · rw [ofRun_of_other symbol]
    exact List.isChain_singleton _

/-- Neighbouring tokens of a text are apart. -/
theorem scan_apart (text : String) : (scan text).IsChain Apart := by
  unfold scan
  generalize text.toList = chars
  induction chars using runs_induction with
  | nil => exact .nil
  | cons c rest inductionHypothesis =>
      rw [runs_cons, List.flatMap_cons]
      -- Only where two runs meet is there anything to show: the second starts where the first must stop.
      refine (ofRun_apart _ _).append inductionHypothesis ?_
      intro last final next first same
      have left := kind_of_mem_ofRun (List.mem_of_getLast? final)
      generalize behind : (extent (kindOf c) rest).2 = more at first
      cases more with
      | nil => cases first
      | cons d more =>
          rw [kind_of_head_runs first, left] at same
          rw [left]
          exact kindOf_of_stops (stops_of_extent behind) same

/-! ## The ends of a text -/

def StartsBlank (text : String) : Prop :=
  ∃ c, text.toList.head? = some c ∧ Text.Property.isWhiteSpace c = true

def EndsBlank (text : String) : Prop :=
  ∃ c, text.toList.getLast? = some c ∧ Text.Property.isWhiteSpace c = true

theorem Sound.toList_ne_nil {token : Token} (sound : token.Sound) : token.text.toList ≠ [] :=
  fun none => sound.some (String.toList_eq_nil_iff.mp none)

theorem startsBlank_of_scan {text : String} {token : Token} {rest : List Token}
    (tokens : scan text = token :: rest) (blank : token.kind = .whiteSpace) : StartsBlank text := by
  have sound : token.Sound := sound_of_mem_scan (tokens ▸ List.mem_cons_self)
  have spelled := scan_spell text
  rw [tokens, List.flatMap_cons] at spelled
  refine ⟨token.text.toList.head sound.toList_ne_nil, ?_, ?_⟩
  · rw [← spelled, List.head?_append_of_ne_nil _ sound.toList_ne_nil, List.head?_eq_some_head]
  · exact sound.blank blank _ (List.head_mem _)

theorem endsBlank_of_scan {text : String} {token : Token} {front : List Token}
    (tokens : scan text = front ++ [token]) (blank : token.kind = .whiteSpace) : EndsBlank text := by
  have sound : token.Sound :=
    sound_of_mem_scan (tokens ▸ List.mem_append_right _ List.mem_cons_self)
  have spelled := scan_spell text
  rw [tokens, List.flatMap_append, List.flatMap_singleton] at spelled
  refine ⟨token.text.toList.getLast sound.toList_ne_nil, ?_, ?_⟩
  · rw [← spelled, List.getLast?_append_of_ne_nil _ sound.toList_ne_nil,
      List.getLast?_eq_some_getLast]
  · exact sound.blank blank _ (List.getLast_mem _)

end Token
end English
end Prose

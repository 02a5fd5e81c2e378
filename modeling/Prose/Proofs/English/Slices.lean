import Prose.Proofs.English.Neighbours

namespace Prose
namespace English
namespace Token

/-!
# Slices of a text

Some neighbouring tokens of a text spell a slice of it.  The slice alone has the same tokens, unless it
was cut between two symbols: these may come from one run of symbols, and what joins two of them into a
cluster may be left outside.

The only run that looks ahead is a word, which asks what follows an apostrophe.  What is cut away behind
a run of a slice cannot have been asked for: the run has ended in front of it.
-/

variable {kind : Kind} {c : Char} {rest : List Char}

/-! ## The runs of a slice -/

/-- A character that goes on with a run goes on with it whatever text is behind. -/
theorem continues_append_of_continues (goesOn : continues kind c rest = true) (more : List Char) :
    continues kind c (rest ++ more) = true := by
  cases rest with
  | cons d rest => cases kind <;> exact goesOn
  | nil =>
      cases kind with
      | word =>
          have word : continuesWord c = true := by simpa [continues] using goesOn
          exact Bool.or_eq_true_iff.mpr (.inl word)
      | whiteSpace => exact goesOn
      | punctuation => exact goesOn
      | symbol => exact goesOn

/-- A run that ends in front of some text goes on to its last character without that text. -/
theorem continues_of_extent_nil {text : List Char} (goesOn : continues kind c text = true)
    (ends : (extent kind text).1 = []) : continues kind c [] = true := by
  cases text with
  | nil => exact goesOn
  | cons d rest =>
      cases kind with
      | whiteSpace => exact goesOn
      | punctuation => exact goesOn
      | symbol => exact goesOn
      | word =>
          have stops : continues .word d rest = false := by
            cases further : continues .word d rest with
            | false => rfl
            | true => rw [extent_of_continues further] at ends; cases ends
          have none : continuesWord d = false := (Bool.or_eq_false_iff.mp stops).1
          have word : continuesWord c = true := by simpa [continues, none] using goesOn
          exact Bool.or_eq_true_iff.mpr (.inl word)

/-- A run that ends within a text does so without what is behind the text. -/
theorem extent_of_append {text behind more : List Char}
    (within : (extent kind (text ++ more)).2 = behind ++ more) :
    extent kind text = ((extent kind (text ++ more)).1, behind) := by
  have nothing : ∀ behind, (extent kind more).2 = behind ++ more →
      (extent kind more).1 = [] ∧ behind = [] := by
    intro behind within
    have whole := extent_append kind more
    rw [within, ← List.append_assoc, List.append_left_eq_self] at whole
    exact List.append_eq_nil_iff.mp whole
  induction text generalizing behind with
  | nil =>
      rcases nothing behind within with ⟨ends, rfl⟩
      rw [List.nil_append, ends, extent]
  | cons c rest inductionHypothesis =>
      rw [List.cons_append] at within ⊢
      cases goesOn : continues kind c (rest ++ more) with
      | true =>
          rw [extent_of_continues goesOn] at within ⊢
          have continued : continues kind c rest = true := by
            cases rest with
            | nil => exact continues_of_extent_nil goesOn (nothing behind within).1
            | cons d rest => cases kind <;> exact goesOn
          rw [extent_of_continues continued, inductionHypothesis within]
      | false =>
          rw [extent_of_stops goesOn] at within ⊢
          have stops : continues kind c rest = false := by
            rw [Bool.eq_false_iff]
            intro continued
            rw [continues_append_of_continues continued] at goesOn
            cases goesOn
          have behind_eq : c :: rest = behind := List.append_cancel_right (by exact within)
          rw [extent_of_stops stops, behind_eq]

/-- The runs of a text spell it. -/
theorem runs_spell (text : List Char) : (runs text).flatMap Prod.snd = text := by
  induction text using runs_induction with
  | nil => rfl
  | cons c rest inductionHypothesis =>
      rw [runs_cons, List.flatMap_cons, inductionHypothesis, List.cons_append, extent_append]

/-- The last runs of a text are the runs of what they spell. -/
theorem runs_of_suffix {text : List Char} {front back : List (Kind × List Char)}
    (split : runs text = front ++ back) : runs (back.flatMap Prod.snd) = back := by
  induction front generalizing text with
  | nil =>
      rw [List.nil_append] at split
      rw [← split, runs_spell]
  | cons run front inductionHypothesis =>
      cases text with
      | nil => cases split
      | cons c rest =>
          rw [runs_cons, List.cons_append] at split
          exact inductionHypothesis (List.cons.inj split).2

/-- The first runs of a text are the runs of what they spell. -/
theorem runs_of_prefix {text : List Char} {front back : List (Kind × List Char)}
    (split : runs text = front ++ back) : runs (front.flatMap Prod.snd) = front := by
  induction front generalizing text with
  | nil => rfl
  | cons run front inductionHypothesis =>
      cases text with
      | nil => cases split
      | cons c rest =>
          rw [runs_cons, List.cons_append, List.cons.injEq] at split
          rcases split with ⟨rfl, behind⟩
          have spelled : (extent (kindOf c) rest).2 =
              front.flatMap Prod.snd ++ back.flatMap Prod.snd := by
            rw [← List.flatMap_append, ← behind, runs_spell]
          have whole := extent_append (kindOf c) rest
          rw [spelled, ← List.append_assoc] at whole
          have within : (extent (kindOf c)
              ((extent (kindOf c) rest).1 ++ front.flatMap Prod.snd ++ back.flatMap Prod.snd)).2 =
                front.flatMap Prod.snd ++ back.flatMap Prod.snd := by
            rw [whole, spelled]
          rw [List.flatMap_cons, List.cons_append, runs_cons, extent_of_append within, whole,
            inductionHypothesis behind]

/-! ## The tokens of a slice -/

/-- No run of a text reaches over the place between two lists of its tokens, since one of the tokens
next to it is no symbol. -/
def Seam (front back : List Token) : Prop :=
  ∀ last first, front.getLast? = some last → back.head? = some first →
    last.kind ≠ .symbol ∨ first.kind ≠ .symbol

/-- Only a run of symbols has more than one token. -/
theorem kinds_of_two_le_length {run : Kind × List Char} (several : 2 ≤ (ofRun run).length) :
    ∀ token ∈ ofRun run, token.kind = .symbol := by
  rcases run with ⟨kind, chars⟩
  by_cases symbol : kind = .symbol
  · subst symbol
    exact fun token member => kind_of_mem_ofRun member
  · rw [ofRun_of_other symbol, List.length_singleton] at several
    exact absurd several (Nat.not_succ_le_self 1)

/-- Runs can be split where the tokens have a seam. -/
theorem exists_runs_of_seam {runs : List (Kind × List Char)} {front back : List Token}
    (tokens : runs.flatMap ofRun = front ++ back) (seam : Seam front back) :
    ∃ before after, runs = before ++ after ∧ before.flatMap ofRun = front ∧
      after.flatMap ofRun = back := by
  induction runs generalizing front with
  | nil =>
      rcases List.append_eq_nil_iff.mp tokens.symm with ⟨rfl, rfl⟩
      exact ⟨[], [], rfl, rfl, rfl⟩
  | cons run more inductionHypothesis =>
      rw [List.flatMap_cons] at tokens
      rcases List.append_eq_append_iff.mp tokens with ⟨further, rfl, inside⟩ | ⟨further, whole, rfl⟩
      · have seam' : Seam further back := by
          intro last first final start
          exact seam last first (by rw [List.getLast?_append, final]; rfl) start
        rcases inductionHypothesis inside seam' with ⟨before, after, rfl, rfl, rfl⟩
        exact ⟨run :: before, after, rfl, rfl, rfl⟩
      · cases further with
        | nil => exact ⟨[run], more, rfl, by rw [List.flatMap_singleton, whole, List.append_nil], rfl⟩
        | cons first further =>
            rcases List.eq_nil_or_concat front with rfl | ⟨initial, last, rfl⟩
            · exact ⟨[], run :: more, rfl, rfl, by rw [List.flatMap_cons, whole]; rfl⟩
            · rw [List.concat_eq_append] at whole seam
              have kinds : ∀ token ∈ ofRun run, token.kind = .symbol := by
                refine kinds_of_two_le_length ?_
                simp only [whole, List.length_append, List.length_cons]
                omega
              have symbols := seam last first (by simp) rfl
              rw [kinds last (by simp [whole]), kinds first (by simp [whole])] at symbols
              exact absurd rfl (symbols.elim id id)

/-- The tokens between two seams are the tokens of the slice that they spell. -/
theorem scan_slice {text : String} {before tokens after : List Token}
    (split : scan text = before ++ (tokens ++ after)) (left : Seam before (tokens ++ after))
    (right : Seam tokens after) : scan (String.join (tokens.map Token.text)) = tokens := by
  rcases exists_runs_of_seam split left with ⟨first, others, runs_eq, _, spelled⟩
  rcases exists_runs_of_seam spelled right with ⟨middle, last, rfl, rfl, _⟩
  have alone := runs_of_prefix (runs_of_suffix runs_eq)
  have chars : (String.join ((middle.flatMap ofRun).map Token.text)).toList =
      middle.flatMap Prod.snd := by
    rw [String.toList_join, List.flatMap_map, List.flatMap_assoc]
    simp only [ofRun_spell]
  rw [scan, chars, alone]

end Token
end English
end Prose

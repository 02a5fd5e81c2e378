import Prose.Proofs.English.Paragraphs
import Prose.Proofs.English.Slices

namespace Prose
namespace English

/-!
# Stretches of a text

White space with two line feeds or more parts a text into stretches.  They are defined on the characters
of the text, without tokens: a run of white space is complete when something else follows it or the text
ends.  The tokens of the stretches, scanned one by one, are the sections of the tokens of the text.
-/

/-! ## The characters of stretches -/

/-- The stretches from a complete run of white space on, with those behind it: the run ends a stretch if
it has two line feeds, and belongs to one otherwise. -/
def atSpace (space : List Char) (behind : List Char × List (List Char)) :
    List Char × List (List Char) :=
  if 2 ≤ space.count '\n' then ([], behind.1 :: behind.2) else (space ++ behind.1, behind.2)

/-- The first stretch and the others from some place on, behind the white space in front of the place. -/
def stretchesFrom (space : List Char) : List Char → List Char × List (List Char)
  | [] => atSpace space ([], [])
  | c :: rest =>
    if Text.Property.isWhiteSpace c then stretchesFrom (space ++ [c]) rest
    else atSpace space (c :: (stretchesFrom [] rest).1, (stretchesFrom [] rest).2)

/-- The stretches of a text between its paragraph breaks. -/
def stretches (text : String) : List String :=
  ((stretchesFrom [] text.toList).1 :: (stretchesFrom [] text.toList).2).map String.ofList

/-- Whether a text is not all white space. -/
def isFilled (text : String) : Bool := text.toList.any fun c => !Text.Property.isWhiteSpace c

theorem atSpace_nil (behind : List Char × List (List Char)) : atSpace [] behind = behind := rfl

/-- White space is taken in up to its end. -/
theorem stretchesFrom_blank_append {front : List Char}
    (blank : ∀ c ∈ front, Text.Property.isWhiteSpace c = true) (space text : List Char) :
    stretchesFrom space (front ++ text) = stretchesFrom (space ++ front) text := by
  induction front generalizing space with
  | nil => rw [List.nil_append, List.append_nil]
  | cons c rest inductionHypothesis =>
      rw [List.forall_mem_cons] at blank
      rw [List.cons_append, stretchesFrom, if_pos blank.1, inductionHypothesis blank.2,
        List.append_assoc, List.singleton_append]

/-- White space is complete in front of a text that does not start with white space. -/
theorem stretchesFrom_of_complete {text : List Char}
    (starts : ∀ first, text.head? = some first → Text.Property.isWhiteSpace first = false)
    (space : List Char) : stretchesFrom space text = atSpace space (stretchesFrom [] text) := by
  cases text with
  | nil => rfl
  | cons c rest =>
      have other : ¬Text.Property.isWhiteSpace c = true := by simp [starts c rfl]
      rw [stretchesFrom, if_neg other, stretchesFrom, if_neg other, atSpace_nil]

/-- What is not white space belongs to the first stretch. -/
theorem stretchesFrom_solid_append {front : List Char}
    (solid : ∀ c ∈ front, Text.Property.isWhiteSpace c = false) (text : List Char) :
    stretchesFrom [] (front ++ text) =
      (front ++ (stretchesFrom [] text).1, (stretchesFrom [] text).2) := by
  induction front with
  | nil => rfl
  | cons c rest inductionHypothesis =>
      rw [List.forall_mem_cons] at solid
      have other : ¬Text.Property.isWhiteSpace c = true := by simp [solid.1]
      rw [List.cons_append, stretchesFrom, if_neg other, atSpace_nil, inductionHypothesis solid.2]
      rfl

/-! ## The tokens of stretches -/

namespace Token

variable {c : Char} {rest : List Char}

/-- The characters that some tokens spell. -/
def spelled (tokens : List Token) : List Char := tokens.flatMap fun token => token.text.toList

theorem spelled_append (tokens more : List Token) :
    spelled (tokens ++ more) = spelled tokens ++ spelled more := List.flatMap_append

/-- A run of white space is white space throughout. -/
theorem blank_of_run (kind : kindOf c = .whiteSpace) :
    ∀ d ∈ c :: (extent (kindOf c) rest).1, Text.Property.isWhiteSpace d = true := by
  rw [List.forall_mem_cons, kind]
  refine ⟨isWhiteSpace_of_kindOf kind, fun d inside => ?_⟩
  rcases continues_of_mem_extent inside with ⟨_, goesOn⟩
  exact goesOn

/-- No other run holds white space. -/
theorem solid_of_run (kind : kindOf c ≠ .whiteSpace) :
    ∀ d ∈ c :: (extent (kindOf c) rest).1, Text.Property.isWhiteSpace d = false := by
  rw [List.forall_mem_cons]
  refine ⟨?_, fun d inside => ?_⟩
  · rw [Bool.eq_false_iff]
    exact fun blank => kind (kindOf_of_isWhiteSpace blank)
  · rcases continues_of_mem_extent inside with ⟨after, goesOn⟩
    rw [Bool.eq_false_iff]
    intro blank
    rw [stops_of_isWhiteSpace blank kind] at goesOn
    cases goesOn

theorem mem_run_of_mem_ofRun {run : Kind × List Char} {token : Token} (member : token ∈ ofRun run)
    {d : Char} (inside : d ∈ token.text.toList) : d ∈ run.2 := by
  rw [← ofRun_spell run]
  exact List.mem_flatMap.mpr ⟨token, member, inside⟩

/-- A token that is no white space holds none. -/
theorem solid_of_mem_scan {text : String} {token : Token} (member : token ∈ scan text)
    (word : token.kind ≠ .whiteSpace) :
    ∀ c ∈ token.text.toList, Text.Property.isWhiteSpace c = false := by
  unfold scan at member
  generalize text.toList = chars at member
  induction chars using runs_induction with
  | nil => cases member
  | cons c rest inductionHypothesis =>
      rw [runs_cons, List.flatMap_cons, List.mem_append] at member
      refine member.elim (fun here d inside => ?_) inductionHypothesis
      rw [kind_of_mem_ofRun here] at word
      exact solid_of_run word d (mem_run_of_mem_ofRun here inside)

/-- A text is not all white space if one of its tokens is none. -/
theorem isFilled_eq (text : String) :
    isFilled text = (scan text).any fun token => !isSpace token := by
  rw [isFilled, Bool.eq_iff_iff, List.any_eq_true, List.any_eq_true]
  constructor
  · rintro ⟨c, inside, other⟩
    rw [← scan_spell text] at inside
    rcases List.mem_flatMap.mp inside with ⟨token, member, here⟩
    refine ⟨token, member, ?_⟩
    cases space : isSpace token with
    | false => rfl
    | true =>
        rw [(sound_of_mem_scan member).blank (of_decide_eq_true space) c here] at other
        cases other
  · rintro ⟨token, member, word⟩
    have kind : token.kind ≠ .whiteSpace := by simpa [isSpace] using word
    rcases List.exists_mem_of_ne_nil _ (sound_of_mem_scan member).toList_ne_nil with ⟨c, here⟩
    refine ⟨c, ?_, by rw [solid_of_mem_scan member kind c here]; rfl⟩
    rw [← scan_spell text]
    exact List.mem_flatMap.mpr ⟨token, member, here⟩

/-- The stretches of a text are spelled by the sections of its tokens. -/
theorem stretchesFrom_eq (text : List Char) :
    stretchesFrom [] text =
      (spelled (sections ((runs text).flatMap ofRun)).1,
        (sections ((runs text).flatMap ofRun)).2.map fun part => spelled part.2) := by
  induction text using runs_induction with
  | nil => rfl
  | cons c rest inductionHypothesis =>
      have whole : c :: rest =
          (c :: (extent (kindOf c) rest).1) ++ (extent (kindOf c) rest).2 := by
        rw [List.cons_append, extent_append]
      rw [runs_cons, List.flatMap_cons, whole]
      by_cases kind : kindOf c = .whiteSpace
      · have behind : ∀ first, (extent (kindOf c) rest).2.head? = some first →
            Text.Property.isWhiteSpace first = false := by
          intro first found
          rcases List.head?_eq_some_iff.mp found with ⟨more, split⟩
          have stops := stops_of_extent split
          rw [kind] at stops
          exact stops
        rw [stretchesFrom_blank_append (blank_of_run kind), List.nil_append,
          stretchesFrom_of_complete behind, inductionHypothesis]
        generalize c :: (extent (kindOf c) rest).1 = space
        generalize (runs (extent (kindOf c) rest).2).flatMap ofRun = more
        have parts : isBreak ⟨.whiteSpace, String.ofList space⟩ = decide (2 ≤ space.count '\n') := by
          rw [isBreak, isParagraphBreak, String.toList_ofList]
          exact Bool.true_and _
        rw [kind, ofRun_whiteSpace, List.singleton_append, sections, atSpace, parts]
        by_cases feeds : 2 ≤ space.count '\n'
        · rw [if_pos feeds, if_pos (decide_eq_true feeds)]
          rfl
        · rw [if_neg feeds, if_neg (by simpa using feeds)]
          simp [spelled]
      · have within : ∀ token ∈ ofRun (kindOf c, c :: (extent (kindOf c) rest).1),
            isBreak token = false := by
          intro token member
          rw [isBreak, kind_of_mem_ofRun member, decide_eq_false kind, Bool.false_and]
        rw [stretchesFrom_solid_append (solid_of_run kind), inductionHypothesis,
          sections_append_of_within within, spelled_append]
        simp only [spelled, ofRun_spell]

/-- The tokens of the stretches of a text are the sections of its tokens. -/
theorem map_scan_stretches (text : String) :
    (stretches text).map scan = (sections (scan text)).1 :: (sections (scan text)).2.map Prod.snd := by
  have alone : ∀ tokens ∈ (sections (scan text)).1 :: (sections (scan text)).2.map Prod.snd,
      scan (String.ofList (spelled tokens)) = tokens := by
    intro tokens member
    rcases exists_slice_of_mem_sections member with ⟨before, after, split, last, next⟩
    have slice := scan_slice split (fun token _ final _ => .inl (last token final))
      fun _ token _ start => .inr (next token start)
    have chars : String.join (tokens.map Token.text) = String.ofList (spelled tokens) := by
      rw [← String.toList_inj, String.toList_join, List.flatMap_map, String.toList_ofList]
      rfl
    rw [← chars, slice]
  rw [List.forall_mem_cons] at alone
  rw [stretches, stretchesFrom_eq]
  simp only [List.map_cons, List.map_map]
  refine congrArg₂ List.cons alone.1 (List.map_congr_left fun part inside => ?_)
  exact alone.2 part.2 (List.mem_map_of_mem inside)

end Token

/-- A single line feed parts nothing, and the space around two of them belongs to the break. -/
example : stretches "a\nb \n \n\tc" = ["a\nb", "c"] := by decide +kernel

end English
end Prose

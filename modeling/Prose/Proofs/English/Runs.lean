import Prose.English.Token

namespace Prose

/-!
# The runs of a text

A run is found from its first character, and the next run from the first character behind it.  The
pieces that a text is cut into spell the text: its runs, the clusters of a run, and so its tokens.
-/

namespace Text
namespace Cluster

theorem split_flatten (before text : List Char) :
    (split before text).flatten = before.reverse ++ text := by
  induction text generalizing before with
  | nil => simp [split]
  | cons c rest inductionHypothesis =>
      rw [split]
      split
      · rw [inductionHypothesis, List.reverse_cons, List.append_assoc]
        rfl
      · rw [List.flatten_cons, inductionHypothesis]
        rfl

/-- The clusters of a text spell it. -/
theorem clusters_flatten (text : List Char) : (clusters text).flatten = text := by
  cases text with
  | nil => rfl
  | cons c rest => exact split_flatten [c] rest

end Cluster
end Text

namespace English
namespace Token

/-- The characters in front that go on with a run, and what is behind them. -/
def extent (kind : Kind) : List Char → List Char × List Char
  | [] => ([], [])
  | c :: rest =>
    if continues kind c rest then (c :: (extent kind rest).1, (extent kind rest).2)
    else ([], c :: rest)

variable {kind : Kind} {c : Char} {rest : List Char}

theorem extent_of_continues (goesOn : continues kind c rest = true) :
    extent kind (c :: rest) = (c :: (extent kind rest).1, (extent kind rest).2) := by
  rw [extent, if_pos goesOn]

theorem extent_of_stops (stops : continues kind c rest = false) :
    extent kind (c :: rest) = ([], c :: rest) := by
  rw [extent, if_neg (by simp [stops])]

/-- A run and what is behind it spell the text. -/
theorem extent_append (kind : Kind) (text : List Char) :
    (extent kind text).1 ++ (extent kind text).2 = text := by
  induction text with
  | nil => rfl
  | cons c rest inductionHypothesis =>
      cases goesOn : continues kind c rest with
      | true => rw [extent_of_continues goesOn, List.cons_append, inductionHypothesis]
      | false => rw [extent_of_stops goesOn, List.nil_append]

theorem length_extent_le (kind : Kind) (text : List Char) :
    (extent kind text).2.length ≤ text.length := by
  have length := congrArg List.length (extent_append kind text)
  rw [List.length_append] at length
  omega

theorem runsFrom_eq (kind : Kind) (run text : List Char) :
    runsFrom kind run text =
      (kind, run.reverse ++ (extent kind text).1) :: runs (extent kind text).2 := by
  induction text generalizing run with
  | nil => rw [runsFrom, extent, List.append_nil, runs]
  | cons c rest inductionHypothesis =>
      cases goesOn : continues kind c rest with
      | true =>
          rw [runsFrom, if_pos goesOn, inductionHypothesis, extent_of_continues goesOn,
            List.reverse_cons, List.append_assoc]
          rfl
      | false =>
          rw [runsFrom, if_neg (by simp [goesOn]), extent_of_stops goesOn, List.append_nil]
          rfl

/-- The first run, and those behind it. -/
theorem runs_cons (c : Char) (rest : List Char) :
    runs (c :: rest) =
      (kindOf c, c :: (extent (kindOf c) rest).1) :: runs (extent (kindOf c) rest).2 :=
  runsFrom_eq (kindOf c) [c] rest

/-- Induction from run to run. -/
theorem runs_induction {motive : List Char → Prop} (nil : motive [])
    (cons : ∀ c rest, motive (extent (kindOf c) rest).2 → motive (c :: rest)) (text : List Char) :
    motive text :=
  match text with
  | [] => nil
  | c :: rest => cons c rest (runs_induction nil cons (extent (kindOf c) rest).2)
termination_by text.length
decreasing_by exact Nat.lt_succ_of_le (length_extent_le _ _)

/-- A run of anything but symbols is one token. -/
theorem ofRun_of_other {kind : Kind} (other : kind ≠ .symbol) (run : List Char) :
    ofRun (kind, run) = [⟨kind, String.ofList run⟩] := by
  cases kind with
  | symbol => exact absurd rfl other
  | word => rfl
  | whiteSpace => rfl
  | punctuation => rfl

/-- The tokens of a run spell it. -/
theorem ofRun_spell (run : Kind × List Char) :
    (ofRun run).flatMap (fun token => token.text.toList) = run.2 := by
  rcases run with ⟨kind, chars⟩
  by_cases symbol : kind = .symbol
  · subst symbol
    simp only [ofRun, List.flatMap_map, String.toList_ofList]
    exact List.flatMap_id.trans (Text.Cluster.clusters_flatten chars)
  · rw [ofRun_of_other symbol, List.flatMap_singleton, String.toList_ofList]

/-- The tokens of a text spell it. -/
theorem scan_spell (text : String) :
    (scan text).flatMap (fun token => token.text.toList) = text.toList := by
  rw [scan, List.flatMap_assoc]
  simp only [ofRun_spell]
  generalize text.toList = chars
  induction chars using runs_induction with
  | nil => rfl
  | cons c rest inductionHypothesis =>
      rw [runs_cons, List.flatMap_cons, inductionHypothesis, List.cons_append, extent_append]

end Token
end English
end Prose

import Prose.Proofs.Pipeline.Sequence

namespace Prose

/-!
# The trees of a run

The tree that a run has come to goes from step to step, and only a continuation puts another one in its
place.  So two plugins between which no tree has been replaced are given the same one.
-/

namespace Story

variable {η β ν : Type} {verdict : Nat → Plugin η β → Option (Signal ν)} {plugins : List (Plugin η β)}
variable {tree now : ν} {step : Nat} {before : List (Start η β ν)}

/-- No step from one on and in front of another has replaced the tree. -/
def Unreplaced (verdict : Nat → Plugin η β → Option (Signal ν)) (plugins : List (Plugin η β))
    (first last : Nat) : Prop :=
  ∀ step plugin other, first ≤ step → step < last → plugins[step]? = some plugin →
    verdict step plugin ≠ some (.replace other)

namespace Passed

/-- The starts of the steps that have been passed are starts of earlier steps. -/
theorem step_lt (passed : Passed verdict plugins tree step now before) {start : Start η β ν}
    (member : start ∈ before) : start.step < step := by
  induction passed with
  | zero => cases member
  | succ _ _ _ _ inductionHypothesis =>
      rcases List.mem_append.mp member with earlier | last
      · exact Nat.lt_succ_of_lt (inductionHypothesis earlier)
      · cases List.mem_singleton.mp last
        exact Nat.lt_succ_self _

/-- A signal that replaces no tree leaves the tree as it is. -/
theorem eq_of_apply {signal : Signal ν} {next : ν} (kept : ∀ other, signal ≠ .replace other)
    (applied : signal.apply now = .ok next) : next = now := by
  cases signal with
  | resume => cases applied; rfl
  | replace other => exact absurd rfl (kept other)
  | fail error => cases applied

/-- What a plugin was given is what the run has come to, unless the tree has been replaced since. -/
theorem tree_eq (passed : Passed verdict plugins tree step now before) {start : Start η β ν}
    (member : start ∈ before) (kept : Unreplaced verdict plugins start.step step) :
    start.tree = now := by
  induction passed with
  | zero => cases member
  | @succ step plugin signal now next before passed here given applied inductionHypothesis =>
      have le : start.step ≤ step := by
        rcases List.mem_append.mp member with earlier | last
        · exact Nat.le_of_lt (passed.step_lt earlier)
        · cases List.mem_singleton.mp last
          exact Nat.le_refl _
      have same : next = now := by
        refine eq_of_apply (fun other replaced => ?_) applied
        exact kept step plugin other le (Nat.lt_succ_self _) here (replaced ▸ given)
      rw [same]
      rcases List.mem_append.mp member with earlier | last
      · refine inductionHypothesis earlier fun place plugin other first last => ?_
        exact kept place plugin other first (Nat.lt_succ_of_lt last)
      · cases List.mem_singleton.mp last
        rfl

/-- Two plugins are given the same tree, unless it has been replaced between them. -/
theorem tree_eq_tree (passed : Passed verdict plugins tree step now before)
    {first second : Start η β ν} (first_mem : first ∈ before) (second_mem : second ∈ before)
    (le : first.step ≤ second.step) (kept : Unreplaced verdict plugins first.step second.step) :
    first.tree = second.tree := by
  induction passed with
  | zero => cases first_mem
  | succ passed here given applied inductionHypothesis =>
      rcases List.mem_append.mp second_mem with earlier | last
      · rcases List.mem_append.mp first_mem with earlier' | last'
        · exact inductionHypothesis earlier' earlier
        · cases List.mem_singleton.mp last'
          exact absurd (passed.step_lt earlier) (Nat.not_lt.mpr le)
      · cases List.mem_singleton.mp last
        rcases List.mem_append.mp first_mem with earlier' | last'
        · exact passed.tree_eq earlier' kept
        · cases List.mem_singleton.mp last'
          rfl

end Passed
end Story

namespace Run

open Story

variable {η β ν : Type} {run : Run η β ν} {plugins : List (Plugin η β)} {tree ref : ν}
variable {story : List (Event η β ν)}

/-- A run that has delivered a tree has passed all its steps. -/
theorem Accords.passed_of_ok (accords : Accords story plugins tree run)
    (delivered : run.outcome = some (.ok ref)) :
    ∃ step, Passed (verdict story) plugins tree step ref (starts story) ∧ plugins[step]? = none := by
  rcases accords with ⟨plugins_eq, _, _, before, passed, stage⟩
  cases stage with
  | turn _ unsettled => rw [delivered] at unsettled; cases unsettled
  | ahead _ unsettled => rw [delivered] at unsettled; cases unsettled
  | waiting _ unsettled => rw [delivered] at unsettled; cases unsettled
  | failed outcome => rw [delivered] at outcome; cases outcome
  | finished outcome _ last started =>
      rw [delivered] at outcome
      cases outcome
      exact ⟨run.cursor, started ▸ passed, plugins_eq ▸ last⟩

end Run
end Prose

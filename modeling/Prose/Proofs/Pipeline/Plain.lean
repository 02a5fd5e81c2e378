import Prose.Proofs.Pipeline.Steps

namespace Prose
namespace Run

/-!
# Runs of plain plugins

A plugin is plain if it is sync, calls no continuation and never fails.  A run of plain plugins is a fold
over them: each gets the state that the one before it has left, and the run ends with the tree that it
began with.
-/

variable {η β ν σ : Type} {conduct : Conduct η β ν σ}

/-- A sync plugin whose turns never call a continuation and never fail. -/
structure Plain (conduct : Conduct η β ν σ) (plugin : Plugin η β) : Prop where
  sync : plugin.isAsync = false
  turn : ∀ state tree, (conduct plugin state tree).2 = ⟨none, .ok ()⟩

/-- The state that plain plugins leave. -/
def leave (conduct : Conduct η β ν σ) (tree : ν) (plugins : List (Plugin η β)) (state : σ) : σ :=
  plugins.foldl (fun state plugin => (conduct plugin state tree).1) state

/-- The step of a plain plugin comes to the tree that it is given. -/
theorem Plain.step_eq {plugin : Plugin η β} (plain : Plain conduct plugin) (state : σ) (tree : ν) :
    (conduct plugin state tree).2.step plugin tree = .ok tree := by
  rw [plain.turn, step_of_returned, plain.sync, if_neg Bool.false_ne_true]

/-- A run of plain plugins leaves the state that they leave, and gives back its tree. -/
theorem collect_plain {plugins : List (Plugin η β)} (plain : ∀ plugin ∈ plugins, Plain conduct plugin)
    (state : σ) (tree : ν) :
    collect conduct plugins state tree = (leave conduct tree plugins state, .ok tree) := by
  rw [collect_eq]
  induction plugins generalizing state with
  | nil => rfl
  | cons plugin rest inductionHypothesis =>
      rw [List.forall_mem_cons] at plain
      rw [follow_cons_of_ok (plain.1.step_eq state tree), inductionHypothesis plain.2]
      rfl

end Run
end Prose

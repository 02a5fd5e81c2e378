import Prose.Pipeline.Prompt
import Prose.Proofs.Pipeline.Moves

namespace Prose
namespace Run

open Story

/-!
# Steps of prompt runs

What a plugin does in its turn tells what its step comes to: a tree to go on with, or a failure.  A run
takes one plugin after the other and hands each the tree and the state that the step before it has left.
`follow` says so without a run, and a run carried to the point where it rests comes to the same.

So it makes no difference whether plugins share one run or each has a run of its own.  Both ways end with
the same state and the same result, and a failure is that of the same plugin.
-/

variable {η β ν σ : Type}

/-! ## Steps -/

/-- What the step of a plugin comes to by its turn.  An async plugin completes it by the call of its
continuation, and without one it completes it by an error only; otherwise the run is left waiting.  A
sync plugin completes it by its return. -/
def Turn.step (turn : Turn ν) (plugin : Plugin η β) (tree : ν) : Except Error ν :=
  match turn.signal with
  | none =>
    match turn.returned with
    | .error error => .error error
    | .ok _ => if plugin.isAsync then .error (.suspended plugin.name) else .ok tree
  | some signal =>
    match signal.apply tree with
    | .error error => .error error
    | .ok next => if plugin.isAsync then .ok next else turn.returned.map fun _ => next

/-- What plugins come to one after the other: the state that they leave, and the tree of the last step
or the first failure. -/
def follow (conduct : Conduct η β ν σ) : List (Plugin η β) → σ → ν → σ × Except Error ν
  | [], state, tree => (state, .ok tree)
  | plugin :: rest, state, tree =>
    match (conduct plugin state tree).2.step plugin tree with
    | .ok next => follow conduct rest (conduct plugin state tree).1 next
    | .error error => ((conduct plugin state tree).1, .error error)

section

variable {plugin : Plugin η β} {tree : ν}

theorem step_of_called {signal : Signal ν} {next : ν} (applied : signal.apply tree = .ok next)
    (returned : Except Error Unit) :
    Turn.step ⟨some signal, returned⟩ plugin tree =
      if plugin.isAsync then .ok next else returned.map fun _ => next := by
  simp only [Turn.step, applied]

theorem step_of_failed {signal : Signal ν} {error : Error}
    (applied : signal.apply tree = .error error) (returned : Except Error Unit) :
    Turn.step ⟨some signal, returned⟩ plugin tree = .error error := by
  simp only [Turn.step, applied]

theorem step_of_returned (plugin : Plugin η β) (tree : ν) :
    Turn.step ⟨none, .ok ()⟩ plugin tree =
      if plugin.isAsync then .error (.suspended plugin.name) else .ok tree := rfl

variable {conduct : Conduct η β ν σ} {state : σ}

theorem follow_cons_of_ok {next : ν}
    (stepped : (conduct plugin state tree).2.step plugin tree = .ok next)
    (rest : List (Plugin η β)) :
    follow conduct (plugin :: rest) state tree =
      follow conduct rest (conduct plugin state tree).1 next := by
  simp only [follow, stepped]

theorem follow_cons_of_error {error : Error}
    (failed : (conduct plugin state tree).2.step plugin tree = .error error)
    (rest : List (Plugin η β)) :
    follow conduct (plugin :: rest) state tree =
      ((conduct plugin state tree).1, .error error) := by
  simp only [follow, failed]

/-- A failure is that of one of the plugins, and all plugins in front of it have been passed. -/
theorem exists_of_follow_error {plugins : List (Plugin η β)} {error : Error} {last : σ}
    (failed : follow conduct plugins state tree = (last, .error error)) :
    ∃ before plugin after now there, plugins = before ++ plugin :: after ∧
      follow conduct before state tree = (now, .ok there) ∧
      follow conduct [plugin] now there = (last, .error error) := by
  induction plugins generalizing state tree with
  | nil => cases failed
  | cons plugin rest inductionHypothesis =>
      cases stepped : (conduct plugin state tree).2.step plugin tree with
      | error other =>
          rw [follow_cons_of_error stepped] at failed
          exact ⟨[], plugin, rest, state, tree, rfl, rfl, (follow_cons_of_error stepped []).trans failed⟩
      | ok next =>
          rw [follow_cons_of_ok stepped] at failed
          rcases inductionHypothesis failed with ⟨before, other, after, now, there, rfl, passed, ends⟩
          exact ⟨plugin :: before, other, after, now, there, rfl,
            (follow_cons_of_ok stepped before).trans passed, ends⟩

end

/-! ## The turn of a plugin in a run -/

/-- The run with the plugin at its cursor in its turn. -/
def during (run : Run η β ν) : Run η β ν := { run with active := some run.cursor }

/-- The run behind the turn of the plugin at its cursor. -/
def behind (run : Run η β ν) : Run η β ν := { run with active := none, cursor := run.cursor + 1 }

def failed (run : Run η β ν) (error : Error) : Run η β ν :=
  { run with active := none, outcome := some (.error error) }

section

variable {run : Run η β ν} {plugin : Plugin η β} {turn : Turn ν}

/-- A sync plugin fails by its return. -/
theorem returned_error_of_sync {step : Nat} (active : run.active = some step)
    (sync : run.isAsync step = false) (unsettled : run.outcome = none) (error : Error) :
    run.returned (.error error) = (run.failed error, .settle (.error error)) := by
  have idle : ({ run with active := none } : Run η β ν).outcome = none := unsettled
  simp only [returned, active, isAsync] at sync ⊢
  simp only [sync, Bool.false_eq_true, if_false]
  exact settle_of_unsettled idle _

/-- The plugin at the cursor fails by its return. -/
theorem returned_error_of_unsettled (active : run.active = some run.cursor)
    (unsettled : run.outcome = none) (error : Error) :
    run.returned (.error error) = (run.failed error, .settle (.error error)) := by
  have idle : ({ run with active := none } : Run η β ν).outcome = none := unsettled
  exact (returned_error active error).trans (settle_of_unsettled idle _)

/-- A run that is settled while a plugin is in its turn rests when the plugin returns. -/
theorem returned_of_outcome {outcome : Except Error ν} (active : run.active = some run.cursor)
    (settled : run.outcome = some outcome) (result : Except Error Unit) :
    (run.returned result).2.step? = none ∧ (run.returned result).1.outcome = some outcome := by
  have kept := (tells_returned run result).outcome_eq
  rw [settled, Option.some_or] at kept
  refine ⟨?_, kept⟩
  cases result with
  | error error =>
      rw [returned_error active]
      exact (active_settle _ _).2
  | ok value =>
      cases async : run.isAsync run.cursor with
      | true =>
          rw [returned_ok_of_async active async]
          rfl
      | false =>
          have idle : ({ run with active := none, cursor := run.cursor + 1 } : Run η β ν).outcome =
              some outcome := settled
          rw [returned_ok_of_sync active async, advance_of_settled idle]
          rfl

/-- A call of its continuation by the plugin in its turn only moves the cursor. -/
theorem signal_during {signal : Signal ν} {next : ν} (unsettled : run.outcome = none)
    (applied : signal.apply run.tree = .ok next) :
    (run.during.signal run.cursor signal).1 =
      { run.during with tree := next, cursor := run.cursor + 1 } := by
  have pending : run.during.outcome = none := unsettled
  have active : run.during.active = some run.cursor := rfl
  exact congrArg Prod.fst ((signal_of_ok pending applied).trans
    (complete_of_active { run.during with tree := next } active))

/-- A step that comes to a tree makes the run go on behind it with that tree. -/
theorem take_of_ok (unsettled : run.outcome = none) (here : run.plugins[run.cursor]? = some plugin)
    {next : ν} (stepped : turn.step plugin run.tree = .ok next) :
    run.during.take run.cursor turn = { run.behind with tree := next }.advance := by
  have active : run.during.active = some run.cursor := rfl
  have async_eq : run.during.isAsync run.cursor = plugin.isAsync := isAsync_eq here
  rcases turn with ⟨signal, returned⟩
  cases signal with
  | none =>
      cases returned with
      | error error => cases stepped
      | ok value =>
          rw [step_of_returned] at stepped
          cases async : plugin.isAsync with
          | true => rw [async, if_pos rfl] at stepped; cases stepped
          | false =>
              rw [async, if_neg Bool.false_ne_true] at stepped
              cases stepped
              exact returned_ok_of_sync active (async_eq.trans async)
  | some signal =>
      cases applied : signal.apply run.tree with
      | error error => rw [step_of_failed applied] at stepped; cases stepped
      | ok other =>
          -- The cursor has been moved by the call, and the run goes on when the plugin returns.
          let moved : Run η β ν := { run.during with tree := other, cursor := run.cursor + 1 }
          have active : moved.active = some run.cursor := rfl
          have async_eq : moved.isAsync run.cursor = plugin.isAsync := isAsync_eq here
          rw [step_of_called applied] at stepped
          simp only [take, signal_during unsettled applied]
          cases async : plugin.isAsync with
          | true =>
              rw [async, if_pos rfl] at stepped
              cases stepped
              exact returned_of_moved active (async_eq.trans async) (Nat.succ_ne_self run.cursor) returned
          | false =>
              rw [async, if_neg Bool.false_ne_true] at stepped
              cases returned with
              | error error => cases stepped
              | ok value =>
                  cases stepped
                  exact returned_ok_of_sync active (async_eq.trans async)

/-- A step that fails leaves a run that rests with the failure. -/
theorem take_of_error (unsettled : run.outcome = none)
    (here : run.plugins[run.cursor]? = some plugin) {error : Error}
    (failed : turn.step plugin run.tree = .error error) :
    (run.during.take run.cursor turn).2.step? = none ∧
      (run.during.take run.cursor turn).1.result = .error error := by
  have active : run.during.active = some run.cursor := rfl
  have pending : run.during.outcome = none := unsettled
  have async_eq : run.during.isAsync run.cursor = plugin.isAsync := isAsync_eq here
  rcases turn with ⟨signal, returned⟩
  cases signal with
  | none =>
      cases returned with
      | error other =>
          cases failed
          simp only [take, returned_error_of_unsettled active pending]
          exact ⟨rfl, rfl⟩
      | ok value =>
          rw [step_of_returned] at failed
          cases async : plugin.isAsync with
          | false => rw [async, if_neg Bool.false_ne_true] at failed; cases failed
          | true =>
              rw [async, if_pos rfl] at failed
              cases failed
              have waiting : run.during.returned (.ok value) =
                  ({ run.during with active := none }, .rest) :=
                returned_ok_of_async active (async_eq.trans async)
              have idle : ({ run.during with active := none } : Run η β ν).outcome = none := unsettled
              simp only [take, waiting]
              exact ⟨rfl, result_of_unsettled idle here⟩
  | some signal =>
      cases applied : signal.apply run.tree with
      | error other =>
          -- The call settles the run, and what the plugin returns has no effect.
          rw [step_of_failed applied] at failed
          cases failed
          cases signal with
          | resume => cases applied
          | replace tree => cases applied
          | fail reason =>
              cases applied
              let settled : Run η β ν := { run.during with outcome := some (.error error) }
              have called : (run.during.signal run.cursor (.fail error)).1 = settled :=
                congrArg Prod.fst ((signal_of_fail pending error).trans (settle_of_unsettled pending _))
              have active : settled.active = some settled.cursor := rfl
              have rested := returned_of_outcome active rfl returned
              simp only [take, called]
              exact ⟨rested.1, result_of_settled rested.2⟩
      | ok next =>
          let moved : Run η β ν := { run.during with tree := next, cursor := run.cursor + 1 }
          have active : moved.active = some run.cursor := rfl
          have async_eq : moved.isAsync run.cursor = plugin.isAsync := isAsync_eq here
          have pending : moved.outcome = none := unsettled
          rw [step_of_called applied] at failed
          cases async : plugin.isAsync with
          | true => rw [async, if_pos rfl] at failed; cases failed
          | false =>
              rw [async, if_neg Bool.false_ne_true] at failed
              cases returned with
              | ok value => cases failed
              | error other =>
                  cases failed
                  have settled := returned_error_of_sync active (async_eq.trans async) pending error
                  simp only [take, signal_during unsettled applied]
                  rw [settled]
                  exact ⟨rfl, rfl⟩

end

/-! ## Carrying a run -/

variable {conduct : Conduct η β ν σ}

/-- A run that asks for no plugin is not carried on. -/
theorem carry_of_still (turns : Nat) (state : σ) {moved : Run η β ν × Effect η β ν}
    (still : moved.2.step? = none) : carry conduct turns state moved = (state, moved.1) := by
  rcases moved with ⟨run, effect⟩
  cases effect with
  | start step plugin tree => cases still
  | settle result => cases turns <;> rfl
  | rest => cases turns <;> rfl

theorem carry_start (turns : Nat) (state : σ) (run : Run η β ν) (step : Nat) (plugin : Plugin η β)
    (tree : ν) :
    carry conduct (turns + 1) state (run, .start step plugin tree) =
      carry conduct turns (conduct plugin state tree).1
        (run.take step (conduct plugin state tree).2) := rfl

/-- From the cursor on, a run comes to what its plugins come to one after the other. -/
theorem carry_follow {rest : List (Plugin η β)} {turns : Nat} (enough : rest.length ≤ turns)
    (state : σ) {run : Run η β ν} (unsettled : run.outcome = none)
    (left : run.plugins.drop run.cursor = rest) :
    ((carry conduct turns state run.advance).1, (carry conduct turns state run.advance).2.result) =
      follow conduct rest state run.tree := by
  induction rest generalizing turns state run with
  | nil =>
      have last : run.plugins[run.cursor]? = none :=
        List.getElem?_eq_none_iff.mpr (List.drop_eq_nil_iff.mp left)
      rw [advance_of_none unsettled last, carry_of_still turns state rfl]
      rfl
  | cons plugin rest inductionHypothesis =>
      have here : run.plugins[run.cursor]? = some plugin := by
        rw [← List.head?_drop, left, List.head?_cons]
      have start : run.advance = (run.during, .start run.cursor plugin run.tree) :=
        advance_of_some unsettled here
      cases turns with
      | zero => cases enough
      | succ turns =>
          rw [start, carry_start]
          cases stepped : (conduct plugin state run.tree).2.step plugin run.tree with
          | ok next =>
              have further : ({ run.behind with tree := next } : Run η β ν).plugins.drop
                  ({ run.behind with tree := next } : Run η β ν).cursor = rest := by
                change run.plugins.drop (run.cursor + 1) = rest
                rw [← List.tail_drop, left, List.tail_cons]
              rw [take_of_ok unsettled here stepped, follow_cons_of_ok stepped]
              exact inductionHypothesis (Nat.le_of_succ_le_succ enough) _ unsettled further
          | error error =>
              have rested := take_of_error unsettled here stepped
              rw [carry_of_still turns _ rested.1, follow_cons_of_error stepped, rested.2]

/-- A run comes to what its plugins come to one after the other. -/
theorem collect_eq (conduct : Conduct η β ν σ) (plugins : List (Plugin η β)) (state : σ) (tree : ν) :
    collect conduct plugins state tree = follow conduct plugins state tree := by
  have unsettled : (initial plugins tree).outcome = none := rfl
  exact carry_follow (Nat.le_refl plugins.length) state unsettled rfl

/-- Runs of one plugin each come to what the plugins come to one after the other. -/
theorem collectEach_eq (conduct : Conduct η β ν σ) (plugins : List (Plugin η β)) (state : σ)
    (tree : ν) : collectEach conduct plugins state tree = follow conduct plugins state tree := by
  induction plugins generalizing state tree with
  | nil => rfl
  | cons plugin rest inductionHypothesis =>
      rw [collectEach, collect_eq]
      cases stepped : (conduct plugin state tree).2.step plugin tree with
      | ok next =>
          rw [follow_cons_of_ok stepped, follow_cons_of_ok stepped]
          exact inductionHypothesis _ next
      | error error => rw [follow_cons_of_error stepped, follow_cons_of_error stepped]

/-! ## One run or many -/

/-- What plugins come to in one run is what they come to if each has a run of its own. -/
structure OneByOne (conduct : Conduct η β ν σ) (plugins : List (Plugin η β)) (state : σ) (tree : ν) :
    Prop where
  /-- They leave the same state, and give the same tree or the same failure. -/
  same : collect conduct plugins state tree = collectEach conduct plugins state tree
  /-- A failure is that of one plugin, which comes to it by its turn, in either way: behind plugins that
  have been passed, and in a run of its own. -/
  failure : ∀ last error, collect conduct plugins state tree = (last, .error error) →
    ∃ before plugin after now there, plugins = before ++ plugin :: after ∧
      collect conduct before state tree = (now, .ok there) ∧
      collectEach conduct before state tree = (now, .ok there) ∧
      collect conduct [plugin] now there = (last, .error error) ∧
      (conduct plugin now there).2.step plugin there = .error error

theorem oneByOne (conduct : Conduct η β ν σ) (plugins : List (Plugin η β)) (state : σ) (tree : ν) :
    OneByOne conduct plugins state tree where
  same := (collect_eq conduct plugins state tree).trans (collectEach_eq conduct plugins state tree).symm
  failure := by
    intro last error failed
    rw [collect_eq] at failed
    rcases exists_of_follow_error failed with ⟨before, plugin, after, now, there, split, passed, ends⟩
    refine ⟨before, plugin, after, now, there, split, ?_, ?_, ?_, ?_⟩
    · rw [collect_eq, passed]
    · rw [collectEach_eq, passed]
    · rw [collect_eq, ends]
    · cases stepped : (conduct plugin now there).2.step plugin there with
      | ok next =>
          rw [follow_cons_of_ok stepped] at ends
          cases ends
      | error other =>
          rw [follow_cons_of_error stepped] at ends
          cases ends
          rfl

/-- The first plugin replaces the tree, and the second one lets go of its continuation: the third is not
started, and the run waits for the second. -/
example :
    let plugin (name : String) (id : Nat) : Plugin Unit (Turn Nat) :=
      ⟨⟨name, .async, none, ⟨if id = 0 then some (.replace 9) else none, .ok ()⟩⟩, id⟩
    let conduct : Conduct Unit (Turn Nat) Nat (List Nat) := fun plugin seen tree =>
      (seen ++ [tree], plugin.transform)
    collect conduct [plugin "swap" 0, plugin "park" 1, plugin "last" 2] [] 7 =
      ([7, 9], .error (.suspended "park")) := rfl

end Run
end Prose

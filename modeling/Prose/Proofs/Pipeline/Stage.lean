import Prose.Proofs.Pipeline.Story

namespace Prose

/-!
# Runs and their stories

A run keeps a cursor, the step whose plugin is in its turn, a tree and a result.  `Accords` says what
these have to do with its story: the steps in front of the cursor are those that the story has passed,
the tree is the one after them, and the run stands at one of the stages of `Stage`.

Nothing is said about who calls a continuation and when.  So the statements here hold for every order
of returns and calls, as long as a plugin returns only in its turn and a continuation is called only
if it has been handed out, which is to an async plugin that has been started.
-/

namespace Effect

open Story

variable {η β ν : Type}

/-- The events that an effect adds to the story of its run. -/
def events : Effect η β ν → List (Event η β ν)
  | .start step plugin tree => [.started step plugin tree]
  | .settle result => [.settled result]
  | .rest => []

def step? : Effect η β ν → Option Nat
  | .start step _ _ => some step
  | _ => none

def result? : Effect η β ν → Option (Except Error ν)
  | .settle result => some result
  | _ => none

end Effect

namespace Run

open Story

variable {η β ν : Type}

/-! ## What the moves of a run do -/

theorem settled_eq_false {run : Run η β ν} (unsettled : run.outcome = none) :
    run.settled = false := by
  simp only [settled, unsettled, Option.isSome_none]

theorem settled_eq_true {run : Run η β ν} {result : Except Error ν}
    (outcome : run.outcome = some result) : run.settled = true := by
  simp only [settled, outcome, Option.isSome_some]

theorem isAsync_eq {run : Run η β ν} {step : Nat} {plugin : Plugin η β}
    (here : run.plugins[step]? = some plugin) : run.isAsync step = plugin.isAsync := by
  simp only [isAsync, here, Option.any_some]

/-- A settled run shows its outcome. -/
theorem result_of_settled {run : Run η β ν} {result : Except Error ν}
    (outcome : run.outcome = some result) : run.result = result := by
  simp only [Run.result, outcome]

/-- A run that waits shows the plugin at its cursor. -/
theorem result_of_unsettled {run : Run η β ν} {plugin : Plugin η β} (unsettled : run.outcome = none)
    (here : run.plugins[run.cursor]? = some plugin) :
    run.result = .error (.suspended plugin.name) := by
  simp only [Run.result, unsettled, pluginName, here]

theorem status_of_settled {run : Run η β ν} {result : Except Error ν}
    (outcome : run.outcome = some result) : run.status = .settled := by
  simp only [status, settled_eq_true outcome, if_true]

theorem status_of_unsettled {run : Run η β ν} {plugin : Plugin η β} (unsettled : run.outcome = none)
    (here : run.plugins[run.cursor]? = some plugin) : run.status = .suspended plugin.name := by
  simp only [status, settled_eq_false unsettled, Bool.false_eq_true, if_false, pluginName, here]

theorem settle_of_unsettled {run : Run η β ν} (unsettled : run.outcome = none)
    (result : Except Error ν) :
    run.settle result = ({ run with outcome := some result }, .settle result) := by
  simp only [settle, settled_eq_false unsettled, Bool.false_eq_true, if_false]

theorem settle_of_settled {run : Run η β ν} {earlier : Except Error ν}
    (outcome : run.outcome = some earlier) (result : Except Error ν) :
    run.settle result = (run, .rest) := by
  simp only [settle, settled_eq_true outcome, if_true]

theorem advance_of_some {run : Run η β ν} {plugin : Plugin η β} (unsettled : run.outcome = none)
    (here : run.plugins[run.cursor]? = some plugin) :
    run.advance =
      ({ run with active := some run.cursor }, .start run.cursor plugin run.tree) := by
  simp only [advance, settled_eq_false unsettled, Bool.false_eq_true, if_false, here]

theorem advance_of_none {run : Run η β ν} (unsettled : run.outcome = none)
    (last : run.plugins[run.cursor]? = none) :
    run.advance =
      ({ run with active := none, outcome := some (.ok run.tree) }, .settle (.ok run.tree)) := by
  simp only [advance, settle, settled, unsettled, Option.isSome_none, Bool.false_eq_true, if_false,
    last]

theorem advance_of_settled {run : Run η β ν} {result : Except Error ν}
    (outcome : run.outcome = some result) :
    run.advance = ({ run with active := none }, .rest) := by
  simp only [advance, settled_eq_true outcome, if_true]

section

variable {run : Run η β ν} {step : Nat}

theorem returned_ok_of_sync (active : run.active = some step) (sync : run.isAsync step = false) :
    run.returned (.ok ()) = { run with active := none, cursor := step + 1 }.advance := by
  simp only [returned, active, isAsync] at sync ⊢
  simp only [sync, Bool.false_eq_true, if_false]

theorem returned_ok_of_async (active : run.active = some run.cursor)
    (async : run.isAsync run.cursor = true) :
    run.returned (.ok ()) = ({ run with active := none }, .rest) := by
  simp only [returned, active, isAsync] at async ⊢
  simp only [async, if_true]

theorem returned_error (active : run.active = some run.cursor) (error : Error) :
    run.returned (.error error) = { run with active := none }.settle (.error error) := by
  simp only [returned, active, if_true]
  split <;> rfl

theorem returned_of_moved (active : run.active = some step) (async : run.isAsync step = true)
    (moved : run.cursor ≠ step) (result : Except Error Unit) :
    run.returned result = { run with active := none }.advance := by
  simp only [returned, active, isAsync] at async ⊢
  simp only [async, if_true, if_neg moved]

theorem signal_of_settled {result : Except Error ν} (outcome : run.outcome = some result)
    (signal : Signal ν) : run.signal step signal = (run, .rest) := by
  simp only [Run.signal, settled_eq_true outcome, Bool.true_or, if_true]

theorem signal_of_moved (moved : run.cursor ≠ step) (signal : Signal ν) :
    run.signal step signal = (run, .rest) := by
  simp only [Run.signal, decide_eq_true moved, Bool.or_true, if_true]

theorem signal_of_ok {signal : Signal ν} {next : ν} (unsettled : run.outcome = none)
    (applied : signal.apply run.tree = .ok next) :
    run.signal run.cursor signal = { run with tree := next }.complete := by
  have pending : ¬ (run.settled || decide (run.cursor ≠ run.cursor)) = true := by
    simp [settled_eq_false unsettled]
  unfold Run.signal
  rw [if_neg pending]
  cases signal with
  | resume => cases applied; rfl
  | replace tree => cases applied; rfl
  | fail error => cases applied

theorem signal_of_fail (unsettled : run.outcome = none) (error : Error) :
    run.signal run.cursor (.fail error) = run.settle (.error error) := by
  have pending : ¬ (run.settled || decide (run.cursor ≠ run.cursor)) = true := by
    simp [settled_eq_false unsettled]
  unfold Run.signal
  rw [if_neg pending]

theorem complete_of_active (run : Run η β ν) (active : run.active = some step) :
    run.complete = ({ run with cursor := run.cursor + 1 }, .rest) := by
  simp only [complete, active, Option.isSome_some, if_true]

theorem complete_of_idle (run : Run η β ν) (idle : run.active = none) :
    run.complete = { run with cursor := run.cursor + 1 }.advance := by
  simp only [complete, idle, Option.isSome_none, Bool.false_eq_true, if_false]

end

/-! ## Orderly stories -/

/-- What has to have happened before an event.  A plugin starts only as long as the run has no result,
and only after the step before its own has been completed successfully. -/
def Due (plugins : List (Plugin η β)) (before : List (Event η β ν)) : Event η β ν → Prop
  | .started step plugin _ =>
    results before = [] ∧ plugins[step]? = some plugin ∧
      ∀ earlier, step = earlier + 1 →
        ∃ previous signal, plugins[earlier]? = some previous ∧
          verdict before earlier previous = some signal ∧ signal.succeeds = true
  | .settled _ => results before = []
  | _ => True

/-- Every event of a story was due when it happened. -/
def Orderly (plugins : List (Plugin η β)) (story : List (Event η β ν)) : Prop :=
  ∀ before event after, story = before ++ event :: after → Due plugins before event

theorem orderly_nil (plugins : List (Plugin η β)) :
    Orderly plugins ([] : List (Event η β ν)) := by
  intro before event after split
  have impossible := congrArg List.length split
  simp at impossible

theorem Orderly.snoc {plugins : List (Plugin η β)} {story : List (Event η β ν)}
    {event : Event η β ν} (orderly : Orderly plugins story) (due : Due plugins story event) :
    Orderly plugins (story ++ [event]) := by
  intro before other after split
  rcases List.eq_nil_or_concat after with rfl | ⟨initial, last, rfl⟩
  · have parts := List.append_inj' split rfl
    cases parts.2
    exact parts.1 ▸ due
  · rw [List.concat_eq_append, ← List.cons_append, ← List.append_assoc] at split
    exact orderly before other initial (List.append_inj' split rfl).1

/-! ## Stages -/

/-- Where a run stands in its story, `before` being the starts of the steps that it has passed. -/
inductive Stage (story : List (Event η β ν)) (run : Run η β ν)
    (before : List (Start η β ν)) : Prop where
  /-- The plugin at the cursor is in its turn, and its step has not been completed. -/
  | turn {plugin : Plugin η β} (active : run.active = some run.cursor)
      (unsettled : run.outcome = none) (here : run.plugins[run.cursor]? = some plugin)
      (awaited : verdict story run.cursor plugin = none)
      (started : starts story = before ++ [⟨run.cursor, plugin, run.tree⟩])
  /-- The plugin in front of the cursor is still in its turn, though its step has been completed. -/
  | ahead {step : Nat} {plugin : Plugin η β} (active : run.active = some step)
      (unsettled : run.outcome = none) (here : run.plugins[step]? = some plugin)
      (async : plugin.isAsync = true) (moved : run.cursor = step + 1)
      (started : starts story = before)
  /-- The plugin at the cursor has returned, and its continuation has not been called. -/
  | waiting {plugin : Plugin η β} (active : run.active = none) (unsettled : run.outcome = none)
      (here : run.plugins[run.cursor]? = some plugin) (async : plugin.isAsync = true)
      (returned : .returned run.cursor (.ok ()) ∈ story)
      (awaited : verdict story run.cursor plugin = none)
      (started : starts story = before ++ [⟨run.cursor, plugin, run.tree⟩])
  /-- The step at the cursor has failed.  Its plugin may still be in its turn. -/
  | failed {plugin : Plugin η β} {error : Error} (outcome : run.outcome = some (.error error))
      (active : run.active = none ∨ run.active = some run.cursor ∧ plugin.isAsync = true)
      (here : run.plugins[run.cursor]? = some plugin)
      (given : verdict story run.cursor plugin = some (.fail error))
      (started : starts story = before ++ [⟨run.cursor, plugin, run.tree⟩])
  /-- All steps have been passed. -/
  | finished (outcome : run.outcome = some (.ok run.tree)) (active : run.active = none)
      (last : run.plugins[run.cursor]? = none) (started : starts story = before)

/-- A story in which every event was due, and in which no step has signals before it is started. -/
structure Told (plugins : List (Plugin η β)) (story : List (Event η β ν)) : Prop where
  orderly : Orderly plugins story
  silent : ∀ step plugin, (starts story).length ≤ step → verdict story step plugin = none

/-- A run is as its story has it, if it was opened with some plugins over a tree. -/
structure Accords (story : List (Event η β ν)) (plugins : List (Plugin η β)) (tree : ν)
    (run : Run η β ν) : Prop where
  plugins_eq : run.plugins = plugins
  results_eq : results story = run.outcome.toList
  told : Told plugins story
  stage : ∃ before, Passed (verdict story) plugins tree run.cursor run.tree before ∧
    Stage story run before

/-! ## Telling a story on -/

section

variable {story : List (Event η β ν)} {event : Event η β ν} {plugins : List (Plugin η β)}

theorem starts_snoc_of_none (quiet : event.start? = none) :
    starts (story ++ [event]) = starts story := by
  rw [starts_append, starts, starts, List.filterMap_cons_none quiet, List.filterMap_nil,
    List.append_nil]

theorem results_snoc_of_none (quiet : event.result? = none) :
    results (story ++ [event]) = results story := by
  rw [results_append, results, results, List.filterMap_cons_none quiet, List.filterMap_nil,
    List.append_nil]

theorem signal?_returned_of_ne {step other : Nat} (different : step ≠ other)
    (result : Except Error Unit) (plugin : Plugin η β) :
    (Event.returned step result : Event η β ν).signal? other plugin = none := by
  cases result <;> simp [Event.signal?, different]

theorem signal?_called_of_ne {step other : Nat} (different : step ≠ other) (signal : Signal ν)
    (plugin : Plugin η β) :
    (Event.called step signal : Event η β ν).signal? other plugin = none := by
  simp [Event.signal?, different]

/-- What is heard of the code around a run: a return or a call, for a step that has been started. -/
structure Heard (story : List (Event η β ν)) (event : Event η β ν) : Prop where
  start : event.start? = none
  result : event.result? = none
  late : ∀ step plugin, (starts story).length ≤ step → event.signal? step plugin = none

theorem heard_returned {step : Nat} (started : step < (starts story).length)
    (result : Except Error Unit) : Heard story (.returned step result) where
  start := rfl
  result := rfl
  late := fun _ plugin later => signal?_returned_of_ne (by omega) result plugin

theorem heard_called {step : Nat} (started : step < (starts story).length) (signal : Signal ν) :
    Heard story (.called step signal) where
  start := rfl
  result := rfl
  late := fun _ plugin later => signal?_called_of_ne (by omega) signal plugin

theorem Told.heard (told : Told plugins story) (heard : Heard story event) :
    Told plugins (story ++ [event]) where
  orderly := by
    refine told.orderly.snoc ?_
    cases event with
    | started step plugin tree => exact absurd heard.start (by simp [Event.start?])
    | settled result => exact absurd heard.result (by simp [Event.result?])
    | opened plugins tree => trivial
    | returned step result => trivial
    | called step signal => trivial
  silent := by
    intro step plugin later
    rw [starts_snoc_of_none heard.start] at later
    rw [verdict_snoc_of_none (told.silent step plugin later), heard.late step plugin later]

theorem Told.start {step : Nat} {plugin : Plugin η β} {tree : ν} (told : Told plugins story)
    (due : Due plugins story (.started step plugin tree)) :
    Told plugins (story ++ [.started step plugin tree]) where
  orderly := told.orderly.snoc due
  silent := by
    intro other plugin later
    rw [starts_append, List.length_append] at later
    exact verdict_snoc_of_none (told.silent other plugin (by omega)) _

theorem Told.settle {result : Except Error ν} (told : Told plugins story)
    (noResults : results story = []) : Told plugins (story ++ [.settled result]) where
  orderly := told.orderly.snoc noResults
  silent := by
    intro step plugin later
    rw [starts_snoc_of_none rfl] at later
    exact verdict_snoc_of_none (told.silent step plugin later) _

end

end Run
end Prose

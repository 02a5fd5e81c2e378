import Prose.Proofs.Pipeline.Stage

namespace Prose
namespace Run

open Story

/-!
# The moves of a run

Each move of a run keeps it in accord with its story: that it is opened, that the plugin in its turn
returns, and that a continuation that was handed out is called.  The cases are those of `Stage`.

The last section says what a move does to the active step and to the result, whatever the story.
-/

variable {η β ν : Type} {run : Run η β ν} {plugins : List (Plugin η β)} {tree : ν}
variable {story : List (Event η β ν)} {before : List (Start η β ν)}

/-! ## The starts in a story -/

/-- The plugins started are the first ones of those that the run was opened with, in order. -/
theorem Accords.starts_eq (accords : Accords story plugins tree run) :
    ∃ count, (starts story).map (fun start => (start.plugin, start.step)) =
      (plugins.take count).zipIdx := by
  rcases accords with ⟨plugins_eq, _, _, before, passed, stage⟩
  have next : ∀ {plugin : Plugin η β}, run.plugins[run.cursor]? = some plugin →
      starts story = before ++ [⟨run.cursor, plugin, run.tree⟩] →
      ∃ count, (starts story).map (fun start => (start.plugin, start.step)) =
        (plugins.take count).zipIdx := by
    intro plugin here started
    have inside : run.cursor < plugins.length :=
      plugins_eq ▸ (List.getElem?_eq_some_iff.mp here).1
    refine ⟨run.cursor + 1, ?_⟩
    rw [started, List.map_append, passed.starts_eq, List.take_add_one, ← plugins_eq, here,
      List.zipIdx_append, List.length_take, plugins_eq, Nat.min_eq_left (Nat.le_of_lt inside)]
    simp
  cases stage with
  | turn _ _ here _ started => exact next here started
  | waiting _ _ here _ _ _ started => exact next here started
  | failed _ _ here _ started => exact next here started
  | ahead _ _ _ _ _ started => exact ⟨run.cursor, started ▸ passed.starts_eq⟩
  | finished _ _ _ started => exact ⟨run.cursor, started ▸ passed.starts_eq⟩

/-- A plugin that has been started is that of its step. -/
theorem Accords.of_mem_starts (accords : Accords story plugins tree run) {start : Start η β ν}
    (member : start ∈ starts story) :
    run.plugins[start.step]? = some start.plugin ∧ start.step < (starts story).length := by
  rcases accords.starts_eq with ⟨count, same⟩
  have indexed : (start.plugin, start.step) ∈ (plugins.take count).zipIdx :=
    same ▸ List.mem_map.mpr ⟨start, member, rfl⟩
  have there := List.mk_mem_zipIdx_iff_getElem?.mp indexed
  have length := congrArg List.length same
  rw [List.length_map, List.length_zipIdx] at length
  have inside := (List.getElem?_eq_some_iff.mp there).1
  refine ⟨?_, length ▸ inside⟩
  rw [List.length_take] at inside
  rw [accords.plugins_eq, ← there, List.getElem?_take_of_lt (by omega)]

/-- No plugin is started after a result. -/
theorem starts_eq_nil_of_results {later : List (Event η β ν)}
    (orderly : Orderly plugins (story ++ later)) (settled : results story ≠ []) :
    starts later = [] := by
  refine List.filterMap_eq_nil_iff.mpr fun event member => ?_
  rcases List.append_of_mem member with ⟨initial, rest, split⟩
  have due := orderly (story ++ initial) event rest (by rw [split, List.append_assoc])
  cases event with
  | started step plugin tree =>
      have unsettled := due.1
      rw [results_append] at unsettled
      exact absurd (List.append_eq_nil_iff.mp unsettled).1 settled
  | opened plugins tree => rfl
  | returned step result => rfl
  | called step signal => rfl
  | settled result => rfl

/-- A settled run has the tree and the cursor that the starts in its story give it. -/
theorem Accords.eq_of_settled {later : List (Event η β ν)} {other : Run η β ν}
    {outcome : Except Error ν} (accords : Accords story plugins tree run)
    (accords' : Accords later plugins tree other) (starts_eq : starts later = starts story)
    (settled : run.outcome = some outcome) (settled' : other.outcome = some outcome) :
    other.tree = run.tree ∧ other.cursor = run.cursor := by
  rcases accords with ⟨_, _, _, before, passed, stage⟩
  rcases accords' with ⟨_, _, _, before', passed', stage'⟩
  have same := settled.trans settled'.symm
  cases stage with
  | turn _ unsettled => rw [unsettled] at settled; cases settled
  | ahead _ unsettled => rw [unsettled] at settled; cases settled
  | waiting _ unsettled => rw [unsettled] at settled; cases settled
  | failed failure _ _ _ started =>
      cases stage' with
      | turn _ unsettled => rw [unsettled] at settled'; cases settled'
      | ahead _ unsettled => rw [unsettled] at settled'; cases settled'
      | waiting _ unsettled => rw [unsettled] at settled'; cases settled'
      | finished success => rw [failure, success] at same; cases same
      | failed _ _ _ _ started' =>
          rw [started, started'] at starts_eq
          have last := (List.append_inj' starts_eq rfl).2
          simp only [List.cons.injEq, Start.mk.injEq, and_true] at last
          exact ⟨last.2.2, last.1⟩
  | finished success _ _ started =>
      cases stage' with
      | turn _ unsettled => rw [unsettled] at settled'; cases settled'
      | ahead _ unsettled => rw [unsettled] at settled'; cases settled'
      | waiting _ unsettled => rw [unsettled] at settled'; cases settled'
      | failed failure => rw [failure, success] at same; cases same
      | finished success' _ _ started' =>
          rw [success, success'] at same
          refine ⟨(Except.ok.inj (Option.some.inj same)).symm, ?_⟩
          rw [← passed.length_eq, ← passed'.length_eq, ← started, ← started', starts_eq]

/-! ## Going on and failing -/

/-- A run that goes on behind the steps it has passed starts the next plugin, or is finished. -/
theorem accords_advance (told : Told plugins story) (plugins_eq : run.plugins = plugins)
    (unsettled : run.outcome = none) (noResults : results story = [])
    (passed : Passed (verdict story) plugins tree run.cursor run.tree before)
    (started : starts story = before) :
    Accords (story ++ run.advance.2.events) plugins tree run.advance.1 := by
  have length : (starts story).length = run.cursor := by rw [started, passed.length_eq]
  cases here : run.plugins[run.cursor]? with
  | none =>
      rw [advance_of_none unsettled here]
      refine ⟨plugins_eq, ?_, told.settle noResults, before, passed.snoc _, ?_⟩
      · rw [results_append, noResults]
        rfl
      · refine .finished rfl rfl here ?_
        exact (starts_snoc_of_none rfl).trans started
  | some plugin =>
      rw [advance_of_some unsettled here]
      have due : Due plugins story (.started run.cursor plugin run.tree) := by
        refine ⟨noResults, plugins_eq ▸ here, fun earlier same => ?_⟩
        exact passed.success_of_lt (by omega)
      refine ⟨plugins_eq, ?_, told.start due, before, passed.snoc _, ?_⟩
      · refine (results_snoc_of_none rfl).trans ?_
        rw [noResults, unsettled]
        rfl
      · refine .turn rfl unsettled here ?_ ?_
        · exact verdict_snoc_of_none (told.silent run.cursor plugin (Nat.le_of_eq length)) _
        · simp only [Effect.events, starts_append, started]
          rfl

/-- A run whose step at the cursor fails is settled with the failure. -/
theorem accords_settle {plugin : Plugin η β} {error : Error} (told : Told plugins story)
    (plugins_eq : run.plugins = plugins) (unsettled : run.outcome = none)
    (noResults : results story = [])
    (passed : Passed (verdict story) plugins tree run.cursor run.tree before)
    (active : run.active = none ∨ run.active = some run.cursor ∧ plugin.isAsync = true)
    (here : run.plugins[run.cursor]? = some plugin)
    (given : verdict story run.cursor plugin = some (.fail error))
    (started : starts story = before ++ [⟨run.cursor, plugin, run.tree⟩]) :
    Accords (story ++ (run.settle (.error error)).2.events) plugins tree
      (run.settle (.error error)).1 := by
  rw [settle_of_unsettled unsettled]
  refine ⟨plugins_eq, ?_, told.settle noResults, before, passed.snoc _, ?_⟩
  · rw [results_append, noResults]
    rfl
  · refine .failed rfl active here (verdict_append_of_some given _) ?_
    exact (starts_snoc_of_none rfl).trans started

/-- A run that has just been opened goes on to its first plugin. -/
theorem accords_opened (plugins : List (Plugin η β)) (tree : ν) :
    Accords (.opened plugins tree :: (initial plugins tree).advance.2.events) plugins tree
      (initial plugins tree).advance.1 := by
  have told : Told plugins [(.opened plugins tree : Event η β ν)] := by
    refine ⟨(orderly_nil plugins).snoc trivial, fun step plugin _ => ?_⟩
    exact verdict_singleton _ step plugin
  exact accords_advance told rfl rfl rfl .zero rfl

/-! ## Returns -/

/-- The number of plugins that have been started exceeds the cursor if the one there has been. -/
theorem lt_starts {plugin : Plugin η β}
    (passed : Passed (verdict story) plugins tree run.cursor run.tree before)
    (started : starts story = before ++ [⟨run.cursor, plugin, run.tree⟩]) :
    run.cursor < (starts story).length := by
  rw [started, List.length_append, passed.length_eq]
  exact Nat.lt_succ_self _

/-- The plugin at the cursor returns. -/
theorem accords_returned_of_turn {plugin : Plugin η β} (told : Told plugins story)
    (plugins_eq : run.plugins = plugins) (unsettled : run.outcome = none)
    (noResults : results story = [])
    (passed : Passed (verdict story) plugins tree run.cursor run.tree before)
    (active : run.active = some run.cursor) (here : run.plugins[run.cursor]? = some plugin)
    (awaited : verdict story run.cursor plugin = none)
    (started : starts story = before ++ [⟨run.cursor, plugin, run.tree⟩])
    (result : Except Error Unit) :
    Accords (story ++ .returned run.cursor result :: (run.returned result).2.events) plugins tree
      (run.returned result).1 := by
  have heard := heard_returned (lt_starts passed started) result
  have told' := told.heard heard
  have noResults' := (results_snoc_of_none heard.result).trans noResults
  have started' := (starts_snoc_of_none heard.start).trans started
  have given := verdict_snoc_of_none awaited (.returned run.cursor result)
  have passed' := passed.snoc (.returned run.cursor result)
  rw [List.append_cons]
  cases result with
  | error error =>
      rw [returned_error active]
      refine accords_settle told' plugins_eq unsettled noResults' passed' (Or.inl rfl) here ?_ started'
      simp [given, Event.signal?]
  | ok value =>
      cases async : plugin.isAsync with
      | false =>
          rw [returned_ok_of_sync active ((isAsync_eq here).trans async)]
          have resumed : verdict (story ++ [.returned run.cursor (.ok value)]) run.cursor plugin =
              some .resume := by
            simp [given, Event.signal?, async]
          exact accords_advance told' plugins_eq unsettled noResults'
            (passed'.succ (plugins_eq ▸ here) resumed rfl) started'
      | true =>
          rw [returned_ok_of_async active ((isAsync_eq here).trans async)]
          simp only [Effect.events, List.append_nil]
          refine ⟨plugins_eq, ?_, told', before, passed', ?_⟩
          · rw [noResults', unsettled]
            rfl
          · refine .waiting rfl unsettled here async ?_ ?_ started'
            · exact List.mem_append_right _ (List.mem_singleton_self _)
            · simp [given, Event.signal?, async]

/-- A plugin that returns after the run has been settled has no effect, whatever it returns. -/
theorem Accords.returned_of_settled {step : Nat} {outcome : Except Error ν}
    (accords : Accords story plugins tree run) (active : run.active = some step)
    (settled : run.outcome = some outcome) (result : Except Error Unit) :
    run.returned result = ({ run with active := none }, .rest) := by
  rcases accords with ⟨_, _, _, before, _, stage⟩
  cases stage with
  | turn _ unsettled => rw [unsettled] at settled; cases settled
  | ahead _ unsettled => rw [unsettled] at settled; cases settled
  | waiting _ unsettled => rw [unsettled] at settled; cases settled
  | finished _ idle => rw [idle] at active; cases active
  | failed _ here_active here =>
      rcases here_active with idle | ⟨here_active, async⟩
      · rw [idle] at active
        cases active
      · cases result with
        | ok value => exact returned_ok_of_async here_active ((isAsync_eq here).trans async)
        | error error =>
            have idle : ({ run with active := none } : Run η β ν).outcome = some outcome := settled
            rw [returned_error here_active, settle_of_settled idle]

/-- The plugin in its turn returns. -/
theorem Accords.returned {step : Nat} (accords : Accords story plugins tree run)
    (active : run.active = some step) (result : Except Error Unit) :
    Accords (story ++ .returned step result :: (run.returned result).2.events) plugins tree
      (run.returned result).1 := by
  have ignored : ∀ outcome, run.outcome = some outcome → ∀ result,
      run.returned result = ({ run with active := none }, .rest) :=
    fun _ => accords.returned_of_settled active
  rcases accords with ⟨plugins_eq, results_eq, told, before, passed, stage⟩
  cases stage with
  | turn here_active unsettled here awaited started =>
      rw [unsettled] at results_eq
      rw [here_active] at active
      cases active
      exact accords_returned_of_turn told plugins_eq unsettled results_eq passed here_active here
        awaited started result
  | @ahead other plugin here_active unsettled here async moved started =>
      rw [unsettled] at results_eq
      rw [here_active] at active
      cases active
      have late : step < (starts story).length := by
        rw [started, passed.length_eq]
        omega
      have heard := heard_returned late result
      have different : run.cursor ≠ step := by omega
      rw [List.append_cons, returned_of_moved here_active ((isAsync_eq here).trans async) different]
      exact accords_advance (told.heard heard) plugins_eq unsettled
        ((results_snoc_of_none heard.result).trans results_eq) (passed.snoc _)
        ((starts_snoc_of_none heard.start).trans started)
  | waiting idle => rw [idle] at active; cases active
  | @failed plugin error outcome here_active here given started =>
      rcases here_active with idle | ⟨here_active, async⟩
      · rw [idle] at active
        cases active
      · rw [here_active] at active
        cases active
        have heard := heard_returned (lt_starts passed started) result
        rw [ignored _ outcome result]
        refine ⟨plugins_eq, (results_snoc_of_none heard.result).trans results_eq, told.heard heard,
          before, passed.snoc _, ?_⟩
        exact .failed outcome (Or.inl rfl) here (verdict_append_of_some given _)
          ((starts_snoc_of_none heard.start).trans started)
  | finished outcome idle => rw [idle] at active; cases active

/-! ## Calls -/

/-- An event leaves a run at its stage if it is no signal for the step that the run waits for. -/
theorem Stage.heard {event : Event η β ν} (stage : Stage story run before)
    (heard : Heard story event)
    (deaf : run.outcome = none → ∀ plugin, event.signal? run.cursor plugin = none) :
    Stage (story ++ [event]) run before := by
  have same : starts (story ++ [event]) = starts story := starts_snoc_of_none heard.start
  cases stage with
  | turn active unsettled here awaited started =>
      refine .turn active unsettled here ?_ (same.trans started)
      rw [verdict_snoc_of_none awaited, deaf unsettled]
  | ahead active unsettled here async moved started =>
      exact .ahead active unsettled here async moved (same.trans started)
  | waiting active unsettled here async returned awaited started =>
      refine .waiting active unsettled here async (List.mem_append_left _ returned) ?_
        (same.trans started)
      rw [verdict_snoc_of_none awaited, deaf unsettled]
  | failed outcome active here given started =>
      exact .failed outcome active here (verdict_append_of_some given _) (same.trans started)
  | finished outcome active last started =>
      exact .finished outcome active last (same.trans started)

/-- A run that an event leaves as it is stays in accord with its story. -/
theorem Accords.heard {event : Event η β ν} (accords : Accords story plugins tree run)
    (heard : Heard story event)
    (deaf : run.outcome = none → ∀ plugin, event.signal? run.cursor plugin = none) :
    Accords (story ++ [event]) plugins tree run := by
  rcases accords with ⟨plugins_eq, results_eq, told, before, passed, stage⟩
  exact ⟨plugins_eq, (results_snoc_of_none heard.result).trans results_eq, told.heard heard, before,
    passed.snoc event, stage.heard heard deaf⟩

/-- The continuation of the step at the cursor is called before the step is completed.  If the plugin
is in its turn, only the cursor moves; otherwise the run goes on at once. -/
theorem accords_signal_of_open {plugin : Plugin η β} (told : Told plugins story)
    (plugins_eq : run.plugins = plugins) (unsettled : run.outcome = none)
    (noResults : results story = [])
    (passed : Passed (verdict story) plugins tree run.cursor run.tree before)
    (active : run.active = none ∨ run.active = some run.cursor)
    (here : run.plugins[run.cursor]? = some plugin) (async : plugin.isAsync = true)
    (awaited : verdict story run.cursor plugin = none)
    (started : starts story = before ++ [⟨run.cursor, plugin, run.tree⟩]) (signal : Signal ν) :
    Accords (story ++ .called run.cursor signal :: (run.signal run.cursor signal).2.events) plugins
      tree (run.signal run.cursor signal).1 := by
  have heard := heard_called (lt_starts passed started) signal
  have told' := told.heard heard
  have noResults' := (results_snoc_of_none heard.result).trans noResults
  have started' := (starts_snoc_of_none heard.start).trans started
  have passed' := passed.snoc (.called run.cursor signal)
  have given : verdict (story ++ [.called run.cursor signal]) run.cursor plugin = some signal := by
    simp [verdict_snoc_of_none awaited, Event.signal?, async]
  rw [List.append_cons]
  cases applied : signal.apply run.tree with
  | error error =>
      cases signal with
      | resume => cases applied
      | replace tree => cases applied
      | fail error =>
          rw [signal_of_fail unsettled]
          refine accords_settle told' plugins_eq unsettled noResults' passed' ?_ here given started'
          exact active.imp id fun here_active => ⟨here_active, async⟩
  | ok next =>
      have further := passed'.succ (plugins_eq ▸ here) given applied
      rw [signal_of_ok unsettled applied]
      rcases active with idle | here_active
      · rw [complete_of_idle { run with tree := next } idle]
        exact accords_advance told' plugins_eq unsettled noResults' further started'
      · rw [complete_of_active { run with tree := next } here_active]
        simp only [Effect.events, List.append_nil]
        refine ⟨plugins_eq, ?_, told', _, further, ?_⟩
        · rw [noResults', unsettled]
          rfl
        · exact .ahead here_active unsettled here async rfl started'

/-- A continuation that has been handed out is called. -/
theorem Accords.signal {step : Nat} {plugin : Plugin η β}
    (accords : Accords story plugins tree run) (there : run.plugins[step]? = some plugin)
    (async : plugin.isAsync = true) (handed : step < (starts story).length) (signal : Signal ν) :
    Accords (story ++ .called step signal :: (run.signal step signal).2.events) plugins tree
      (run.signal step signal).1 := by
  have heard := heard_called handed signal
  cases settled : run.outcome with
  | some result =>
      rw [signal_of_settled settled]
      refine accords.heard heard fun unsettled => ?_
      rw [settled] at unsettled
      cases unsettled
  | none =>
      by_cases same : run.cursor = step
      · subst same
        rcases accords with ⟨plugins_eq, results_eq, told, before, passed, stage⟩
        rw [settled] at results_eq
        cases stage with
        | turn active unsettled here awaited started =>
            cases here.symm.trans there
            exact accords_signal_of_open told plugins_eq unsettled results_eq passed (Or.inr active)
              here async awaited started signal
        | waiting active unsettled here _ _ awaited started =>
            cases here.symm.trans there
            exact accords_signal_of_open told plugins_eq unsettled results_eq passed (Or.inl active)
              here async awaited started signal
        | ahead active unsettled here _ moved started =>
            rw [started, passed.length_eq] at handed
            exact absurd handed (Nat.lt_irrefl _)
        | failed outcome => rw [settled] at outcome; cases outcome
        | finished outcome => rw [settled] at outcome; cases outcome
      · rw [signal_of_moved same]
        exact accords.heard heard fun _ => signal?_called_of_ne (Ne.symm same) signal

/-! ## What a move changes besides -/

/-- A move keeps the plugins, and gives the run a result exactly if it reports it. -/
structure Tells (run : Run η β ν) (moved : Run η β ν × Effect η β ν) : Prop where
  plugins_eq : moved.1.plugins = run.plugins
  outcome_eq : moved.1.outcome = run.outcome.or moved.2.result?
  unsettled : moved.2.result?.isSome → run.outcome = none

/-- A move by which nothing is reported. -/
theorem tells_of_quiet {moved : Run η β ν × Effect η β ν} (plugins_eq : moved.1.plugins = run.plugins)
    (outcome_eq : moved.1.outcome = run.outcome) (quiet : moved.2.result? = none) :
    Tells run moved := by
  refine ⟨plugins_eq, ?_, ?_⟩
  · rw [outcome_eq, quiet, Option.or_none]
  · rw [quiet]
    intro impossible
    cases impossible

/-- A move tells the same of runs that differ neither in their plugins nor in their results. -/
theorem Tells.congr {other : Run η β ν} {moved : Run η β ν × Effect η β ν}
    (tells : Tells other moved) (plugins_eq : other.plugins = run.plugins)
    (outcome_eq : other.outcome = run.outcome) : Tells run moved where
  plugins_eq := tells.plugins_eq.trans plugins_eq
  outcome_eq := outcome_eq ▸ tells.outcome_eq
  unsettled := outcome_eq ▸ tells.unsettled

theorem tells_settle (run : Run η β ν) (result : Except Error ν) :
    Tells run (run.settle result) := by
  cases settled : run.outcome with
  | some earlier =>
      rw [settle_of_settled settled]
      exact tells_of_quiet rfl rfl rfl
  | none =>
      rw [settle_of_unsettled settled]
      refine ⟨rfl, ?_, fun _ => settled⟩
      rw [settled]
      rfl

theorem tells_advance (run : Run η β ν) : Tells run run.advance := by
  cases settled : run.outcome with
  | some earlier =>
      rw [advance_of_settled settled]
      exact tells_of_quiet rfl rfl rfl
  | none =>
      cases here : run.plugins[run.cursor]? with
      | some plugin =>
          rw [advance_of_some settled here]
          exact tells_of_quiet rfl rfl rfl
      | none =>
          rw [advance_of_none settled here]
          refine ⟨rfl, ?_, fun _ => settled⟩
          rw [settled]
          rfl

theorem tells_complete (run : Run η β ν) : Tells run run.complete := by
  cases active : run.active with
  | some step =>
      rw [complete_of_active run active]
      exact tells_of_quiet rfl rfl rfl
  | none =>
      rw [complete_of_idle run active]
      exact (tells_advance { run with cursor := run.cursor + 1 }).congr rfl rfl

theorem tells_returned (run : Run η β ν) (result : Except Error Unit) :
    Tells run (run.returned result) := by
  unfold returned
  split
  · exact tells_of_quiet rfl rfl rfl
  · simp only
    split
    · split
      · split
        · exact tells_of_quiet rfl rfl rfl
        · exact (tells_settle _ _).congr rfl rfl
      · exact (tells_advance _).congr rfl rfl
    · split
      · exact (tells_advance _).congr rfl rfl
      · exact (tells_settle _ _).congr rfl rfl

theorem tells_signal (run : Run η β ν) (step : Nat) (signal : Signal ν) :
    Tells run (run.signal step signal) := by
  unfold Run.signal
  split
  · exact tells_of_quiet rfl rfl rfl
  · split
    · exact tells_complete run
    · exact (tells_complete { run with tree := _ }).congr rfl rfl
    · exact tells_settle run _

/-! ### The active step -/

theorem active_settle (run : Run η β ν) (result : Except Error ν) :
    (run.settle result).1.active = run.active ∧ (run.settle result).2.step? = none := by
  unfold settle
  split <;> exact ⟨rfl, rfl⟩

/-- A run without an active step has none after it has been settled. -/
theorem active_settle_of_idle (idle : run.active = none) (result : Except Error ν) :
    (run.settle result).1.active = (run.settle result).2.step? := by
  rw [(active_settle run result).1, (active_settle run result).2, idle]

/-- After a run has gone on, the active step is the one that has been started. -/
theorem active_advance (run : Run η β ν) : run.advance.1.active = run.advance.2.step? := by
  unfold advance
  split
  · rfl
  · split
    · exact active_settle_of_idle rfl _
    · rfl

/-- After the plugin in its turn has returned, the active step is the one that has been started. -/
theorem active_returned {step : Nat} (active : run.active = some step)
    (result : Except Error Unit) :
    (run.returned result).1.active = (run.returned result).2.step? := by
  unfold returned
  rw [active]
  simp only
  split
  · split
    · split
      · rfl
      · exact active_settle_of_idle rfl _
    · exact active_advance _
  · split
    · exact active_advance _
    · exact active_settle_of_idle rfl _

/-- A call of a continuation starts a plugin only if no plugin is in its turn. -/
theorem active_signal (run : Run η β ν) (step : Nat) (signal : Signal ν) :
    (run.signal step signal).1.active = (run.signal step signal).2.step?.or run.active ∧
      ((run.signal step signal).2.step?.isSome → run.active = none) := by
  have complete : ∀ run : Run η β ν, run.complete.1.active = run.complete.2.step?.or run.active ∧
      (run.complete.2.step?.isSome → run.active = none) := by
    intro run
    cases active : run.active with
    | some step =>
        rw [complete_of_active run active]
        exact ⟨active, fun impossible => by cases impossible⟩
    | none =>
        rw [complete_of_idle run active, active_advance, Option.or_none]
        exact ⟨rfl, fun _ => rfl⟩
  unfold Run.signal
  split
  · exact ⟨rfl, fun impossible => by cases impossible⟩
  · split
    · exact complete run
    · exact complete { run with tree := _ }
    · rename_i error
      have same := active_settle run (.error error)
      rw [same.2]
      exact ⟨same.1, fun impossible => by cases impossible⟩

end Run
end Prose

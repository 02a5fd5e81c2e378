import Prose.Proofs.Pipeline.Trees
import Prose.Proofs.Processor.Held
import Prose.Proofs.Processor.InFlight

namespace Prose

/-!
# Runs at rest

A run rests when none of its plugins is in its turn.  It then has its result, or it waits for an async
plugin that has returned without a failure and whose continuation nobody has called: there is no third
way to rest.  So whoever opened the run and gets control back is given the result if there is one, and
the name of the plugin that has not signalled otherwise.
-/

namespace Story

variable {η β ν : Type}

/-- The step behind those that have been passed has been started once. -/
theorem Passed.filter_starts {verdict : Nat → Plugin η β → Option (Signal ν)}
    {plugins : List (Plugin η β)} {tree now : ν} {step : Nat} {before : List (Start η β ν)}
    (passed : Passed verdict plugins tree step now before) (plugin : Plugin η β) :
    (before ++ [(⟨step, plugin, now⟩ : Start η β ν)]).filter (fun start => start.step = step) =
      [⟨step, plugin, now⟩] := by
  have earlier : before.filter (fun start => start.step = step) = [] :=
    List.filter_eq_nil_iff.mpr fun start member => by
      have less := passed.step_lt member
      simp only [decide_eq_true_eq]
      omega
  rw [List.filter_append, earlier, List.nil_append]
  simp

theorem mem_of_mem_starts {story : List (Event η β ν)} {start : Start η β ν}
    (member : start ∈ starts story) : .started start.step start.plugin start.tree ∈ story := by
  rcases List.mem_filterMap.mp member with ⟨event, there, same⟩
  cases event with
  | started step plugin tree =>
      cases same
      exact there
  | opened plugins tree => cases same
  | returned step result => cases same
  | called step signal => cases same
  | settled result => cases same

/-- A step without a verdict has got no signal. -/
theorem signal?_of_verdict_none {story : List (Event η β ν)} {step : Nat} {plugin : Plugin η β}
    (awaited : verdict story step plugin = none) {event : Event η β ν} (member : event ∈ story) :
    event.signal? step plugin = none :=
  List.filterMap_eq_nil_iff.mp (List.head?_eq_none_iff.mp awaited) event member

end Story

namespace Run

open Story

variable {η β ν : Type} {run : Run η β ν} {plugins : List (Plugin η β)} {tree : ν}
variable {story : List (Event η β ν)}

/-- A run waits for the continuation of the plugin at its cursor. -/
structure Waiting (story : List (Event η β ν)) (run : Run η β ν) (plugin : Plugin η β) : Prop where
  unsettled : run.outcome = none
  here : run.plugins[run.cursor]? = some plugin
  async : plugin.isAsync = true
  /-- The step has been started exactly once. -/
  started : (starts story).filter (fun start => start.step = run.cursor) =
    [⟨run.cursor, plugin, run.tree⟩]
  /-- The plugin has returned, and without a failure. -/
  returned : .returned run.cursor (.ok ()) ∈ story
  succeeded : ∀ result, .returned run.cursor result ∈ story → result = .ok ()
  /-- Its continuation has not been called. -/
  uncalled : ∀ signal, .called run.cursor signal ∉ story

/-- A run that rests without a result waits for a plugin. -/
theorem Accords.waiting (accords : Accords story plugins tree run) (idle : run.active = none)
    (unsettled : run.outcome = none) : ∃ plugin, Waiting story run plugin := by
  rcases accords with ⟨_, _, _, before, passed, stage⟩
  cases stage with
  | turn active => rw [idle] at active; cases active
  | ahead active => rw [idle] at active; cases active
  | failed outcome => rw [unsettled] at outcome; cases outcome
  | finished outcome => rw [unsettled] at outcome; cases outcome
  | @waiting plugin _ _ here async returned awaited started =>
      refine ⟨plugin, unsettled, here, async, started ▸ passed.filter_starts plugin, returned, ?_, ?_⟩
      · intro result member
        cases result with
        | ok value => rfl
        | error error =>
            have silent := signal?_of_verdict_none awaited member
            simp [Event.signal?] at silent
      · intro signal member
        have silent := signal?_of_verdict_none awaited member
        simp [Event.signal?, async] at silent

/-- A run that has failed has got its error from the step at its cursor. -/
theorem Accords.verdict_of_error {error : Error} (accords : Accords story plugins tree run)
    (failed : run.outcome = some (.error error)) :
    ∃ plugin, run.plugins[run.cursor]? = some plugin ∧
      verdict story run.cursor plugin = some (.fail error) := by
  rcases accords with ⟨_, _, _, before, passed, stage⟩
  cases stage with
  | turn _ unsettled => rw [failed] at unsettled; cases unsettled
  | ahead _ unsettled => rw [failed] at unsettled; cases unsettled
  | waiting _ unsettled => rw [failed] at unsettled; cases unsettled
  | finished outcome => rw [failed] at outcome; cases outcome
  | failed outcome _ here given =>
      rw [failed] at outcome
      cases outcome
      exact ⟨_, here, given⟩

/-! ## What a run answers -/

/-- What comes of a run for a caller that keeps what the callback is told and looks at the status when
the run rests.  The caller has nothing to give back if the run is settled and nothing has been told. -/
def completion (status : Status) (told : List (Except Error ν)) : Option (Except Error ν) :=
  match status with
  | .suspended plugin => some (.error (.suspended plugin))
  | .settled => told.getLast?

/-- The caller always has something to give back, and that is the result of the run. -/
theorem Accords.completion_eq (accords : Accords story plugins tree run) :
    completion run.status (results story) = some run.result := by
  rw [accords.results_eq]
  cases outcome : run.outcome with
  | some result =>
      rw [status_of_settled outcome, result_of_settled outcome]
      rfl
  | none =>
      rw [status, settled_eq_false outcome, if_neg Bool.false_ne_true, Run.result, outcome]
      rfl

end Run

/-- What the code that opened a run is answered when the run rests. -/
def Dispatch.answer {η β κ : Type} (dispatch : Dispatch η β κ) : Except Error Answer :=
  match dispatch.listener with
  | .caller => dispatch.run.result.map .tree
  | .callback _ => .ok .done

namespace Processor

open Story Run

variable {η β κ : Type}

/-! ## Going back to the code that opened a run -/

/-- A request after which control may go back to the code that opened a run: the one that opens it, and
the return of a plugin or of a callback that has been put in control on its behalf. -/
inductive Closes (p : Processor η β κ) : Request η β κ → Nat → Prop where
  | opened {request : Request η β κ} {tree : Ref} (opens : p.opens request = some tree) :
      Closes p request p.dispatches.size
  | returned {run step : Nat} {calls : List (Call κ)} (result : Except Error Unit)
      (top : p.calls = .turn run step .opening :: calls) : Closes p (.returned result) run
  | reported {run : Nat} {calls : List (Call κ)} (result : Except Error Unit)
      (top : p.calls = .report run .opening :: calls) : Closes p (.returned result) run

theorem rest_opening {p : Processor η β κ} {run : Nat} {dispatch : Dispatch η β κ}
    (there : p.dispatches[run]? = some dispatch) :
    p.rest run .opening = p.reply dispatch.answer := by
  rcases dispatch with ⟨state, listener⟩
  cases listener with
  | caller => simp only [rest, there, Dispatch.answer]
  | callback code => simp only [rest, there, Dispatch.answer]

/-- A run that gives control back to the code that opened it has started nothing, and answers that
code. -/
theorem answer_of_perform {p : Processor η β κ} {run : Nat} {dispatch : Dispatch η β κ}
    {answer : Except Error Answer} {effect : Effect η β Ref}
    (there : p.dispatches[run]? = some dispatch)
    (response : (p.perform run .opening effect).2 = .reply answer) :
    effect.step? = none ∧ answer = dispatch.answer := by
  have rested : (p.rest run .opening).2 = .reply answer → answer = dispatch.answer := by
    rw [rest_opening there]
    exact fun same => (Response.reply.inj same).symm
  cases effect with
  | start step plugin tree =>
      simp only [perform] at response
      split at response <;> cases response
  | settle result =>
      simp only [perform] at response
      split at response
      · cases response
      · exact ⟨rfl, rested response⟩
  | rest => exact ⟨rfl, rested response⟩

theorem answer_of_drive {p : Processor η β κ} {run : Nat} {dispatch : Dispatch η β κ}
    {answer : Except Error Answer} (move : Run η β Ref → Run η β Ref × Effect η β Ref)
    (there : p.dispatches[run]? = some dispatch)
    (response : (p.drive run .opening move).2 = .reply answer) :
    (move dispatch.run).2.step? = none ∧
      (p.drive run .opening move).1.dispatches[run]? =
        some { dispatch with run := (move dispatch.run).1 } ∧
      answer = Dispatch.answer { dispatch with run := (move dispatch.run).1 } := by
  have inside : run < p.dispatches.size := (Array.getElem?_eq_some_iff.mp there).1
  let moved : Dispatch η β κ := { dispatch with run := (move dispatch.run).1 }
  have updated : (p.dispatches.setIfInBounds run moved)[run]? = some moved :=
    Array.getElem?_setIfInBounds_self_of_lt inside
  rw [drive_eq there] at response ⊢
  rcases answer_of_perform (p := { p with dispatches := p.dispatches.setIfInBounds run moved }) updated
    response with ⟨idle, answered⟩
  exact ⟨idle, (congrArg (·[run]?) (dispatches_perform _ run .opening _)).trans updated, answered⟩

section

variable {p : Processor η β κ} {stories : Nat → List (Event η β Ref)}
variable {reports : Nat → List (κ × Except Error Ref)} {run : Nat} {dispatch : Dispatch η β κ}

/-- A callback is in control only of a run that has its result. -/
def Reporting (p : Processor η β κ) : Prop :=
  ∀ run origin, .report run origin ∈ p.calls → (p.outcome run).isSome

theorem Reporting.act (reporting : p.Reporting) (consistent : Consistent p stories reports)
    (act : Act η β κ) : (p.act act).Reporting := by
  have kept : ∀ run, (p.outcome run).isSome → ((p.act act).outcome run).isSome := by
    intro run settled
    rcases Option.isSome_iff_exists.mp settled with ⟨result, settled⟩
    have final := (consistent.final settled [act]).2.2.2
    exact Option.isSome_iff_exists.mpr ⟨result, final⟩
  cases act with
  | edit store => exact reporting
  | define definition => exact reporting
  | request request =>
      intro run origin member
      rcases (p.carries_serve request).reported run origin member with old | settled
      · exact kept run (reporting run origin old)
      · exact settled

theorem Reporting.after (reporting : p.Reporting) (consistent : Consistent p stories reports)
    (acts : List (Act η β κ)) : (p.after acts).Reporting := by
  induction acts generalizing p stories reports with
  | nil => exact reporting
  | cons act rest inductionHypothesis =>
      exact inductionHypothesis (reporting.act consistent act) (consistent.act act)

/-- Control goes back to the code that opened a run only if the run rests, and with its answer. -/
theorem Consistent.closed (consistent : Consistent p stories reports) (reporting : p.Reporting)
    {request : Request η β κ} {answer : Except Error Answer} (closes : p.Closes request run)
    (response : (p.serve request).2 = .reply answer) :
    ∃ dispatch, (p.serve request).1.dispatches[run]? = some dispatch ∧ answer = dispatch.answer ∧
      (dispatch.run.active = none ∨ dispatch.run.outcome.isSome) := by
  cases closes with
  | @opened _ first opens =>
      have noSignal : ∀ continuation signal, request ≠ .signal continuation signal := by
        rintro continuation signal rfl
        cases opens
      have noReturn : ∀ result, request ≠ .returned result := by
        rintro result rfl
        cases opens
      have cases := p.serve_cases request
      generalize p.serve request = served at cases response
      cases cases with
      | returned asked => exact absurd asked (noReturn _)
      | called asked => exact absurd asked (noSignal _ _)
      | quiet stands unheard calm =>
          have opened := unheard p.dispatches.size
          unfold heard at opened
          split at opened
          · exact absurd rfl (noSignal _ _)
          · exact absurd rfl (noReturn _)
          · simp [opens] at opened
      | @opened q tree listener stands =>
          have sizes : q.dispatches.size = p.dispatches.size := by rw [stands.dispatches_eq]
          simp only [Processor.dispatch, sizes] at response ⊢
          let state : Run η β Ref := initial q.attachments.registry.plugins tree
          have there : (q.dispatches.push ⟨state, listener⟩)[p.dispatches.size]? =
              some ⟨state, listener⟩ := by
            rw [← sizes, Array.getElem?_push_size]
          rcases answer_of_drive (p := { q with dispatches := q.dispatches.push ⟨state, listener⟩ })
            advance there response with ⟨idle, rested, answer_eq⟩
          exact ⟨_, rested, answer_eq, .inl ((active_advance _).trans idle)⟩
  | @returned _ step calls result top =>
      rcases consistent.of_top top with ⟨dispatch, there, active, _⟩
      simp only [Processor.serve, leave, top] at response ⊢
      rcases answer_of_drive (p := { p with calls := calls }) (fun state => state.returned result)
        there response with ⟨idle, rested, answer_eq⟩
      exact ⟨_, rested, answer_eq, .inl ((active_returned active result).trans idle)⟩
  | @reported _ calls result top =>
      have settled := reporting run .opening (top ▸ List.mem_cons_self)
      rcases Option.isSome_iff_exists.mp settled with ⟨outcome, settled⟩
      rcases consistent.of_outcome settled with ⟨dispatch, _, _, _, there, outcome_eq, _⟩
      simp only [Processor.serve, leave, top] at response ⊢
      rw [rest_opening (p := { p with calls := calls }) there] at response ⊢
      exact ⟨dispatch, there, (Response.reply.inj response).symm,
        .inr (outcome_eq ▸ rfl)⟩

end

/-! ## What runs come to -/

/-- A run waits for a plugin of its snapshot, whose continuation is held or has been dropped. -/
structure Waits (p : Processor η β κ) (acts : List (Act η β κ)) (run : Nat) (state : Run η β Ref)
    (plugin : Plugin η β) : Prop extends Waiting (p.story run acts) state plugin where
  snapshot : (snapshot (p.story run acts))[state.cursor]? = some plugin
  loose : ⟨run, state.cursor⟩ ∈ (p.after acts).held ∨ p.Drops acts ⟨run, state.cursor⟩

/-- What a run has come to: its result, of which its listener has been told, or a plugin to wait for. -/
inductive Come (p : Processor η β κ) (acts : List (Act η β κ)) (run : Nat)
    (dispatch : Dispatch η β κ) : Prop where
  | settled (result : Except Error Ref) (outcome : dispatch.run.outcome = some result)
      (results : results (p.story run acts) = [result])
      (reported : p.reports run acts = dispatch.listener.hears [result])
      (status : dispatch.run.status = .settled) (given : dispatch.run.result = result)
  | waiting (plugin : Plugin η β) (waits : p.Waits acts run dispatch.run plugin)
      (results : results (p.story run acts) = []) (reported : p.reports run acts = [])
      (status : dispatch.run.status = .suspended plugin.name)
      (given : dispatch.run.result = .error (.suspended plugin.name))

/-- How the runs of a processor rest in a history. -/
structure Resting (p : Processor η β κ) (acts : List (Act η β κ)) : Prop where
  /-- A run rests when no plugin of it is in its turn. -/
  idle : ∀ run dispatch, (p.after acts).dispatches[run]? = some dispatch →
    (∀ step origin, .turn run step origin ∉ (p.after acts).calls) → p.Come acts run dispatch
  /-- A run rests when control goes back to the code that opened it, and that code is answered. -/
  closed : ∀ request run answer, (p.after acts).Closes request run →
    ((p.after acts).serve request).2 = .reply answer →
      ∃ dispatch, ((p.after acts).serve request).1.dispatches[run]? = some dispatch ∧
        p.Come (acts ++ [.request request]) run dispatch ∧ answer = dispatch.answer
  /-- A caller that keeps what it is told never finds a settled run without a result. -/
  complete : ∀ run dispatch, (p.after acts).dispatches[run]? = some dispatch →
    completion dispatch.run.status (results (p.story run acts)) = some dispatch.run.result
  /-- A run is suspended only if it waits for the plugin named, or if a plugin of it has itself failed
  with that error. -/
  suspended : ∀ run dispatch name, (p.after acts).dispatches[run]? = some dispatch →
    (∀ step origin, .turn run step origin ∉ (p.after acts).calls) →
    dispatch.run.result = .error (.suspended name) →
      ∃ plugin, (snapshot (p.story run acts))[dispatch.run.cursor]? = some plugin ∧
        (p.Waits acts run dispatch.run plugin ∧ plugin.name = name ∨
          verdict (p.story run acts) dispatch.run.cursor plugin = some (.fail (.suspended name)))

section

variable {p : Processor η β κ} {acts : List (Act η β κ)} {run : Nat} {dispatch : Dispatch η β κ}

/-- The plugins of a run are those of its snapshot. -/
theorem Consistent.snapshot_eq {stories : Nat → List (Event η β Ref)}
    {reports : Nat → List (κ × Except Error Ref)} (consistent : Consistent p stories reports)
    (there : p.dispatches[run]? = some dispatch) : snapshot (stories run) = dispatch.run.plugins := by
  rcases consistent.accords run dispatch there with ⟨plugins, tree, later, opened, accords⟩
  rw [opened, accords.plugins_eq]
  rfl

/-- A run without a plugin in its turn has no active step. -/
theorem Consistent.idle {stories : Nat → List (Event η β Ref)}
    {reports : Nat → List (κ × Except Error Ref)} (consistent : Consistent p stories reports)
    (there : p.dispatches[run]? = some dispatch)
    (idle : ∀ step origin, .turn run step origin ∉ p.calls) : dispatch.run.active = none := by
  have none : turns run p.calls = [] := List.filterMap_eq_nil_iff.mpr fun call member => by
    cases call with
    | turn other step origin =>
        simp only [Call.step?, ite_eq_right_iff, reduceCtorEq, imp_false]
        rintro rfl
        exact idle step origin member
    | parser purpose => rfl
    | hook => rfl
    | report other origin => rfl
  rw [consistent.turns_eq, active, there, Option.bind_some] at none
  cases active : dispatch.run.active with
  | none => rfl
  | some step => rw [active] at none; cases none

/-- A run that rests has its result or waits. -/
theorem come_of_idle
    (consistent : Consistent (p.after acts) (fun run => p.story run acts) fun run => p.reports run acts)
    (there : (p.after acts).dispatches[run]? = some dispatch)
    (rests : dispatch.run.active = none ∨ dispatch.run.outcome.isSome) :
    p.Come acts run dispatch := by
  have reported := consistent.reported run dispatch there
  rcases consistent.accords run dispatch there with ⟨plugins, tree, later, opened, accords⟩
  have results_eq := accords.results_eq
  cases outcome : dispatch.run.outcome with
  | some result =>
      rw [outcome] at results_eq
      rw [results_eq] at reported
      exact .settled result outcome results_eq reported (status_of_settled outcome)
        (result_of_settled outcome)
  | none =>
      rw [outcome] at results_eq rests
      have idle : dispatch.run.active = none := rests.resolve_right Bool.false_ne_true
      rcases accords.waiting idle outcome with ⟨plugin, waiting⟩
      have unreported : p.reports run acts = [] := by
        rw [reported, results_eq]
        cases dispatch.listener <;> rfl
      refine .waiting plugin ⟨waiting, ?_, ?_⟩ results_eq unreported
        (status_of_unsettled outcome waiting.here) (result_of_unsettled outcome waiting.here)
      · rw [consistent.snapshot_eq there]
        exact waiting.here
      · have begun : (⟨dispatch.run.cursor, plugin, dispatch.run.tree⟩ : Start η β Ref) ∈
            starts (p.story run acts) :=
          List.mem_of_mem_filter (waiting.started ▸ List.mem_singleton_self _)
        cases fate_of_started (mem_of_mem_starts begun) waiting.async with
        | held member => exact .inl member
        | dropped drops => exact .inr drops
        | called signal call => exact absurd call (waiting.uncalled signal)

end

/-- In every history of a fresh processor, runs rest with a result or waiting for a plugin. -/
theorem rests_after (model : Model) (store : Store) (attachments : Attachments η β)
    (acts : List (Act η β κ)) : Resting (fresh model store attachments) acts := by
  have consistent := fun acts => consistent_after (κ := κ) model store attachments acts
  have reporting : ((fresh model store attachments : Processor η β κ).after acts).Reporting :=
    Reporting.after (fun run origin member => by cases member)
      (consistent_fresh model store attachments) acts
  generalize fresh model store attachments = p at consistent reporting
  constructor
  case idle =>
    intro run dispatch there idle
    exact come_of_idle (consistent acts) there (.inl ((consistent acts).idle there idle))
  case closed =>
    intro request run answer closes response
    rcases (consistent acts).closed reporting closes response with ⟨dispatch, there, same, rests⟩
    have longer := consistent (acts ++ [.request request])
    have there' : (p.after (acts ++ [.request request])).dispatches[run]? = some dispatch := by
      rw [after_append]
      exact there
    exact ⟨dispatch, there, come_of_idle longer there' rests, same⟩
  case complete =>
    intro run dispatch there
    rcases (consistent acts).accords run dispatch there with ⟨_, _, _, _, accords⟩
    exact accords.completion_eq
  case suspended =>
    intro run dispatch name there idle result_eq
    cases come_of_idle (consistent acts) there (.inl ((consistent acts).idle there idle)) with
    | waiting plugin waits _ _ _ given =>
        rw [given] at result_eq
        cases result_eq
        exact ⟨plugin, waits.snapshot, .inl ⟨waits, rfl⟩⟩
    | settled result outcome _ _ _ given =>
        rw [given] at result_eq
        subst result_eq
        rcases (consistent acts).accords run dispatch there with ⟨_, _, _, _, accords⟩
        rcases accords.verdict_of_error outcome with ⟨plugin, here, failed⟩
        rw [(consistent acts).snapshot_eq there]
        exact ⟨plugin, here, .inr failed⟩

/-- A plugin that drops its continuation and returns leaves its run waiting forever. -/
example : ((blank.after [.request (.attach patient), .request (.processTree 7),
    .request (.drop ⟨0, 0⟩)]).serve (.returned (.ok ()))).2 =
      .reply (.error (.suspended "patient")) := rfl

end Processor
end Prose

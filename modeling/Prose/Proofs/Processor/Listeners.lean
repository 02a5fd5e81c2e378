import Prose.Proofs.Processor.Resting

namespace Prose
namespace Processor

/-!
# Runs without their callbacks

A run that has a callback and one that has not go the same way for as long as they have no result and do
not rest: only then does anybody look who is told.  So a processor and the one in which a run has no
callback serve the same requests in the same way, up to the request by which the run gets its result, or by
which control goes back to the code that opened it.
-/

open Run

variable {η β κ : Type}

/-- The processor with a run that has no callback. -/
def mute (p : Processor η β κ) (run : Nat) : Processor η β κ :=
  { p with
    dispatches := p.dispatches.modify run fun dispatch => { dispatch with listener := .caller } }

/-- What is done to a processor does not depend on the callback of a run. -/
def Mutes (p : Processor η β κ) (run : Nat)
    (serve : Processor η β κ → Processor η β κ × Response η β κ) : Prop :=
  serve (p.mute run) = ((serve p).1.mute run, (serve p).2)

/-- The processor with another state of a run. -/
def moved (p : Processor η β κ) (run : Nat) (dispatch : Dispatch η β κ) : Processor η β κ :=
  { p with dispatches := p.dispatches.setIfInBounds run dispatch }

section

variable (p : Processor η β κ) {run other : Nat} {origin : Origin}

theorem dispatch_mute_self : (p.mute run).dispatches[run]? =
    p.dispatches[run]?.map fun dispatch => { dispatch with listener := .caller } := by
  rw [mute, Array.getElem?_modify, if_pos rfl]

theorem dispatch_mute_of_ne (different : run ≠ other) :
    (p.mute run).dispatches[other]? = p.dispatches[other]? := by
  rw [mute, Array.getElem?_modify, if_neg different]

theorem outcome_mute : (p.mute run).outcome other = p.outcome other := by
  rw [outcome, outcome]
  by_cases same : run = other
  · subst same
    rw [dispatch_mute_self, Option.bind_map]
    rfl
  · rw [dispatch_mute_of_ne p same]

/-! ## One run -/

/-- A run without a callback is driven as it is with one. -/
theorem drive_mute {dispatch : Dispatch η β κ} (there : p.dispatches[other]? = some dispatch)
    (move : Run η β Ref → Run η β Ref × Effect η β Ref) :
    (p.mute run).drive other origin move =
      ((p.moved other { dispatch with run := (move dispatch.run).1 }).mute run).perform other origin
        (move dispatch.run).2 := by
  have inside := (Array.getElem?_eq_some_iff.mp there).1
  by_cases same : run = other
  · subst same
    have muted : (p.mute run).dispatches[run]? = some { dispatch with listener := .caller } := by
      rw [dispatch_mute_self, there]
      rfl
    rw [drive_eq muted]
    congr 1
    simp only [mute, moved, mk.injEq, true_and, and_true]
    refine Array.ext_getElem? fun place => ?_
    by_cases here : run = place
    · subst here
      simp [Array.getElem_modify, inside]
    · simp [Array.getElem?_modify, here]
  · rw [drive_eq ((dispatch_mute_of_ne p same).trans there)]
    congr 1
    simp only [mute, moved, mk.injEq, true_and, and_true]
    refine Array.ext_getElem? fun place => ?_
    by_cases here : other = place
    · subst here
      simp [Array.getElem_modify, same, inside]
    · simp [Array.getElem?_modify, here]

theorem mutes_rest (apart : run ≠ other ∨ origin = .signal) :
    p.Mutes run fun p => p.rest other origin := by
  rcases apart with different | rfl
  · cases origin with
    | signal => rfl
    | opening =>
        cases there : p.dispatches[other]? with
        | none => simp only [Mutes, rest, dispatch_mute_of_ne p different, there, reply]
        | some dispatch =>
            simp only [Mutes, rest_opening there,
              rest_opening ((dispatch_mute_of_ne p different).trans there)]
            rfl
  · rfl

theorem mutes_perform_of_ne (different : run ≠ other) (effect : Effect η β Ref) :
    p.Mutes run fun p => p.perform other origin effect := by
  have rested : p.Mutes run fun p => p.rest other origin := p.mutes_rest (Or.inl different)
  cases effect with
  | start step plugin tree =>
      cases async : plugin.isAsync <;> simp only [Mutes, perform, async] <;> rfl
  | rest => exact rested
  | settle result =>
      simp only [Mutes, perform, dispatch_mute_of_ne p different]
      split
      · rfl
      · exact rested

theorem mutes_drive_of_ne (different : run ≠ other)
    (move : Run η β Ref → Run η β Ref × Effect η β Ref) :
    p.Mutes run fun p => p.drive other origin move := by
  cases there : p.dispatches[other]? with
  | none => simp only [Mutes, drive, dispatch_mute_of_ne p different, there, reply]
  | some dispatch =>
      simp only [Mutes, drive_mute p there, drive_eq there]
      exact mutes_perform_of_ne (p.moved other { dispatch with run := (move dispatch.run).1 }) different _

/-- What a run asks for is done with and without its callback, unless it gets its result or control goes
back to the code that opened it. -/
theorem mutes_perform (effect : Effect η β Ref) (unsettled : effect.result? = none)
    (signal : effect = .rest → origin = .signal) : p.Mutes run fun p => p.perform other origin effect := by
  cases effect with
  | start step plugin tree =>
      cases async : plugin.isAsync <;> simp only [Mutes, perform, async] <;> rfl
  | rest => exact p.mutes_rest (Or.inr (signal rfl))
  | settle result => cases unsettled

/-- A run without a callback that is driven goes on as it does with one, or both get the same result, or
control goes back to the code that opened them. -/
theorem drive_mute_cases (run : Nat) (origin : Origin)
    {move : Run η β Ref → Run η β Ref × Effect η β Ref}
    (tells : ∀ state, Tells state (move state)) :
    p.Mutes run (fun p => p.drive run origin move) ∨
    (∃ result, (p.drive run origin move).1.outcome run = some result ∧
      ((p.mute run).drive run origin move).1.outcome run = some result) ∨
    (origin = .opening ∧ ∃ q answer answer', q.calls = p.calls ∧
      p.drive run origin move = reply q answer ∧
      (p.mute run).drive run origin move = (q.mute run).reply answer') := by
  cases there : p.dispatches[run]? with
  | none =>
      refine Or.inl ?_
      simp only [Mutes, drive, dispatch_mute_self, there]
      rfl
  | some dispatch =>
      let q := p.moved run { dispatch with run := (move dispatch.run).1 }
      have driven : p.drive run origin move = q.perform run origin (move dispatch.run).2 :=
        drive_eq there origin move
      have muted : (p.mute run).drive run origin move =
          (q.mute run).perform run origin (move dispatch.run).2 := drive_mute p there move
      have inside := (Array.getElem?_eq_some_iff.mp there).1
      have told := (tells dispatch.run).outcome_eq
      cases effect : (move dispatch.run).2 with
      | start step plugin tree =>
          rw [effect] at driven muted
          refine Or.inl ?_
          simp only [Mutes, driven, muted]
          exact mutes_perform q _ rfl fun impossible => by cases impossible
      | settle result =>
          have unsettled := (tells dispatch.run).unsettled
          rw [effect] at driven muted told unsettled
          have settled : q.outcome run = some result := by
            simp only [q, moved, outcome, Array.getElem?_setIfInBounds_self_of_lt inside,
              Option.bind_some]
            rw [told, unsettled rfl]
            rfl
          refine Or.inr (Or.inl ⟨result, ?_, ?_⟩)
          · rw [driven, outcome_of_dispatches (congrArg (·[run]?) (dispatches_perform q run origin _)),
              settled]
          · rw [muted, outcome_of_dispatches (congrArg (·[run]?) (dispatches_perform _ run origin _)),
              outcome_mute, settled]
      | rest =>
          rw [effect] at driven muted
          cases origin with
          | signal =>
              refine Or.inl ?_
              simp only [Mutes, driven, muted]
              exact mutes_perform q _ rfl fun _ => rfl
          | opening =>
              rcases q.rest_eq run .opening with ⟨answer, rested⟩
              rcases (q.mute run).rest_eq run .opening with ⟨answer', rested'⟩
              exact Or.inr (Or.inr ⟨rfl, q, answer, answer', rfl, driven.trans rested,
                muted.trans rested'⟩)

/-! ## All runs -/

theorem mutes_dispatch (inside : run < p.dispatches.size) (tree : Ref) (listener : Listener κ) :
    p.Mutes run fun p => p.dispatch tree listener := by
  let opened : Processor η β κ :=
    { p with dispatches := p.dispatches.push ⟨initial p.attachments.registry.plugins tree, listener⟩ }
  have size : (p.mute run).dispatches.size = p.dispatches.size := Array.size_modify
  have pushed : { p.mute run with
      dispatches := (p.mute run).dispatches.push
        ⟨initial p.attachments.registry.plugins tree, listener⟩ } = opened.mute run := by
    simp only [opened, mute, mk.injEq, true_and, and_true]
    refine Array.ext_getElem? fun place => ?_
    simp only [Array.getElem?_push, Array.getElem?_modify, Array.size_modify]
    split <;> split <;> simp_all
  have driven : opened.Mutes run fun q => q.drive p.dispatches.size .opening advance :=
    opened.mutes_drive_of_ne (Nat.ne_of_lt inside) advance
  rw [Mutes, ← pushed] at driven
  simp only [Mutes, dispatch, size]
  exact driven

theorem mutes_build (inside : run < p.dispatches.size) (purpose : Purpose κ)
    (result : Except Error Cst) : p.Mutes run fun p => p.build purpose result := by
  cases built : result.bind (Tree.ofCst p.model) with
  | error error => simp only [Mutes, build, mute, built, reply]
  | ok tree =>
      let planted : Processor η β κ := { p with store := (p.store.plant tree).1 }
      cases purpose with
      | build => simp only [Mutes, build, mute, built, reply]
      | parse callback =>
          simp only [Mutes, build, mute, built]
          exact planted.mutes_dispatch inside _ _
      | process =>
          simp only [Mutes, build, mute, built]
          exact planted.mutes_dispatch inside _ _

theorem mutes_attach (plugin : Plugin η β) : p.Mutes run fun p => p.attach plugin := by
  cases present : p.attachments.has plugin.id with
  | true => simp [Mutes, attach, mute, present, reply]
  | false => cases hook : plugin.hasHook <;> simp [Mutes, attach, mute, present, hook, reply]

theorem mutes_attachNamed (name : String) : p.Mutes run fun p => p.attachNamed name := by
  cases resolved : p.attachments.resolve name with
  | error error => simp only [Mutes, attachNamed, mute, resolved, reply]
  | ok found =>
      cases made : found.1.plugin? found.2 with
      | none => simp only [Mutes, attachNamed, mute, resolved, made, reply]
      | some plugin =>
          simp only [Mutes, attachNamed, mute, resolved, made]
          exact mutes_attach { p with attachments := found.1 } plugin

theorem mutes_attachNew (name : String) (options : Json.Fields) :
    p.Mutes run fun p => p.attachNew name options := by
  cases created : p.attachments.create name options with
  | error error => simp only [Mutes, attachNew, mute, created, reply]
  | ok made =>
      simp only [Mutes, attachNew, mute, created]
      exact mutes_attach { p with attachments := made.1 } made.2

/-- How a request is served with and without the callback of a run: in the same way, or the run gets the
same result by it, or its plugin returns and control goes back to the code that opened it. -/
inductive Twin (p : Processor η β κ) (run : Nat) (request : Request η β κ) : Prop where
  | same (same : p.Mutes run fun p => p.serve request)
  | settled (result : Except Error Ref) (outcome : (p.serve request).1.outcome run = some result)
      (muted : ((p.mute run).serve request).1.outcome run = some result)
  | rests (q : Processor η β κ) (step : Nat) (answer answer' : Except Error Answer)
      (top : p.calls = .turn run step .opening :: q.calls) (served : p.serve request = q.reply answer)
      (muted : (p.mute run).serve request = (q.mute run).reply answer')

/-- A request by which a run is driven, for the code that opened it only if its plugin returns. -/
theorem twin_of_drive {request : Request η β κ} {q : Processor η β κ} (other : Nat) (origin : Origin)
    {move : Run η β Ref → Run η β Ref × Effect η β Ref} (tells : ∀ state, Tells state (move state))
    (served : p.serve request = q.drive other origin move)
    (muted : (p.mute run).serve request = (q.mute run).drive other origin move)
    (closes : origin = .opening → ∃ step, p.calls = .turn other step .opening :: q.calls) :
    p.Twin run request := by
  by_cases same : run = other
  · subst same
    rcases q.drive_mute_cases run origin tells with
      same | ⟨value, outcome, outcome'⟩ | ⟨opening, rested, answer, answer', kept, rests, rests'⟩
    · exact .same (by simp only [Mutes, served, muted]; exact same)
    · exact .settled value (served ▸ outcome) (muted ▸ outcome')
    · rcases closes opening with ⟨step, top⟩
      exact .rests rested step answer answer' (kept ▸ top) (served.trans rests) (muted.trans rests')
  · refine .same ?_
    simp only [Mutes, served, muted]
    exact q.mutes_drive_of_ne same _

/-- A plugin of any run returns. -/
theorem twin_returned {step : Nat} {calls : List (Call κ)}
    (top : p.calls = .turn other step origin :: calls) (result : Except Error Unit) :
    p.Twin run (.returned result) := by
  let popped : Processor η β κ := { p with calls := calls }
  have served : p.serve (.returned result) = popped.drive other origin fun run => run.returned result := by
    simp only [serve, leave, top]
    rfl
  have muted : (p.mute run).serve (.returned result) =
      (popped.mute run).drive other origin fun run => run.returned result := by
    simp only [serve, leave, mute, top]
    rfl
  refine p.twin_of_drive other origin (fun state => tells_returned state result) served muted ?_
  rintro rfl
  exact ⟨step, top⟩

/-- A continuation is called. -/
theorem twin_signal (continuation : Continuation) (signal : Signal Ref) :
    p.Twin run (.signal continuation signal) := by
  by_cases held : continuation ∈ p.held
  · let used : Processor η β κ := { p with held := p.held.erase continuation }
    have served : p.serve (.signal continuation signal) =
        used.drive continuation.run .signal fun run => run.signal continuation.step signal := by
      simp only [serve, call, if_pos held]
      rfl
    have muted : (p.mute run).serve (.signal continuation signal) =
        (used.mute run).drive continuation.run .signal fun run => run.signal continuation.step signal := by
      simp only [serve, call, if_pos (show continuation ∈ (p.mute run).held from held)]
      rfl
    refine p.twin_of_drive continuation.run .signal (fun state => tells_signal state _ signal) served muted ?_
    intro impossible
    cases impossible
  · refine .same ?_
    simp only [Mutes, serve, call, if_neg held, if_neg (show continuation ∉ (p.mute run).held from held)]
    rfl

/-- A request is served with and without the callback of a run that is not told its result. -/
theorem twin_serve (inside : run < p.dispatches.size) (untold : ∀ origin, .report run origin ∉ p.calls)
    (request : Request η β κ) : p.Twin run request := by
  cases request with
  | build text => exact .same rfl
  | process text => exact .same rfl
  | parse text callback => cases callback <;> exact .same rfl
  | run tree callback =>
      cases callback with
      | none => exact .same rfl
      | some callback => exact .same (p.mutes_dispatch inside tree _)
  | processTree tree => exact .same (p.mutes_dispatch inside tree _)
  | signal continuation signal => exact p.twin_signal continuation signal
  | drop continuation => exact .same rfl
  | attach plugin => exact .same (p.mutes_attach plugin)
  | attachNamed name => exact .same (p.mutes_attachNamed name)
  | attachNew name options => exact .same (p.mutes_attachNew name options)
  | parsed result =>
      refine .same ?_
      cases top : p.calls with
      | nil => simp only [Mutes, serve, mute, top, reply]
      | cons call calls =>
          cases call with
          | parser purpose =>
              simp only [Mutes, serve, mute, top]
              exact mutes_build { p with calls := calls } inside purpose result
          | hook => simp only [Mutes, serve, mute, top, reply]
          | turn other step origin => simp only [Mutes, serve, mute, top, reply]
          | report other origin => simp only [Mutes, serve, mute, top, reply]
  | returned result =>
      cases top : p.calls with
      | nil => exact .same (by simp only [Mutes, serve, leave, mute, top, reply])
      | cons call calls =>
          cases call with
          | parser purpose => exact .same (by simp only [Mutes, serve, leave, mute, top, reply])
          | hook => exact .same (by simp only [Mutes, serve, leave, mute, top, reply])
          | turn other step origin => exact p.twin_returned top result
          | report other origin =>
              have different : run ≠ other := by
                rintro rfl
                exact untold origin (top ▸ List.mem_cons_self)
              refine .same ?_
              simp only [Mutes, serve, leave, mute, top]
              exact mutes_rest { p with calls := calls } (Or.inl different)

end

end Processor
end Prose

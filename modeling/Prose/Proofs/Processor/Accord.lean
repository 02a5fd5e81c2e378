import Prose.Proofs.Processor.History

namespace Prose
namespace Processor

open Story Run

/-!
# Processors and the stories of their runs

In every state that a history leads to, each run of a processor is in accord with its story, a plugin
of it is in its turn exactly if the code in control was called by it, and continuations are held for
async plugins that have been started only.  `Consistent` is this invariant.  A request keeps it: it
either concerns no run, or it moves one run and leaves the others alone.
-/

variable {η β κ : Type}

/-! ## Driving a run -/

/-- The start that an effect shows. -/
def started {η β ν : Type} : Effect η β ν → List (Event η β ν)
  | .start step plugin tree => [.started step plugin tree]
  | _ => []

theorem drive_eq {p : Processor η β κ} {run : Nat} {dispatch : Dispatch η β κ}
    (there : p.dispatches[run]? = some dispatch) (origin : Origin)
    (move : Run η β Ref → Run η β Ref × Effect η β Ref) :
    p.drive run origin move =
      { p with
        dispatches := p.dispatches.setIfInBounds run
          { dispatch with run := (move dispatch.run).1 } }.perform run origin
        (move dispatch.run).2 := by
  simp only [drive, there]

theorem rest_eq (p : Processor η β κ) (run : Nat) (origin : Origin) :
    ∃ answer, p.rest run origin = p.reply answer := by
  unfold rest
  split <;> exact ⟨_, rfl⟩

section

variable (p : Processor η β κ) (run : Nat) (origin : Origin) (effect : Effect η β Ref)

/-- What a run asks for is done by a reply, by putting a plugin in control, or by calling back. -/
theorem perform_cases :
    (∃ step plugin tree, effect = .start step plugin tree ∧
      p.perform run origin effect =
        ({ p with
            calls := .turn run step origin :: p.calls
            held := if plugin.isAsync then ⟨run, step⟩ :: p.held else p.held },
          .turn plugin tree (if plugin.isAsync then some ⟨run, step⟩ else none))) ∨
    (∃ callback result, effect = .settle result ∧
      (p.dispatches[run]?).map Dispatch.listener = some (.callback callback) ∧
      p.perform run origin effect =
        ({ p with calls := .report run origin :: p.calls }, .report callback result)) ∨
    (∃ answer, effect.step? = none ∧
      (∀ result callback, effect = .settle result →
        (p.dispatches[run]?).map Dispatch.listener ≠ some (.callback callback)) ∧
      p.perform run origin effect = p.reply answer) := by
  cases effect with
  | start step plugin tree =>
      refine Or.inl ⟨step, plugin, tree, rfl, ?_⟩
      cases async : plugin.isAsync <;> simp [perform, async]
  | settle result =>
      rcases p.rest_eq run origin with ⟨answer, rested⟩
      simp only [perform]
      split
      · rename_i callback listener
        exact Or.inr (Or.inl ⟨callback, result, rfl, listener, rfl⟩)
      · rename_i none
        refine Or.inr (Or.inr ⟨answer, rfl, fun _ callback _ => none callback, rested⟩)
  | rest =>
      rcases p.rest_eq run origin with ⟨answer, rested⟩
      refine Or.inr (Or.inr ⟨answer, rfl, ?_, rested⟩)
      intro _ _ impossible
      cases impossible

theorem dispatches_perform : (p.perform run origin effect).1.dispatches = p.dispatches := by
  rcases p.perform_cases run origin effect with
    ⟨_, _, _, _, performed⟩ | ⟨_, _, _, _, performed⟩ | ⟨_, _, _, performed⟩
  · rw [performed]
  · rw [performed]
  · rw [performed]
    rfl

theorem turns_perform (other : Nat) :
    turns other (p.perform run origin effect).1.calls =
      (if run = other then effect.step?.toList else []) ++ turns other p.calls := by
  rcases p.perform_cases run origin effect with
    ⟨step, _, _, rfl, performed⟩ | ⟨_, _, rfl, _, performed⟩ | ⟨_, idle, _, performed⟩
  · rw [performed]
    by_cases same : run = other
    · simp [turns, Call.step?, same, Effect.step?]
    · simp [turns, Call.step?, same]
  · rw [performed, turns_cons_of_none rfl]
    simp [Effect.step?]
  · rw [performed, idle]
    simp [reply]

theorem held_perform (continuation : Continuation)
    (member : continuation ∈ (p.perform run origin effect).1.held) :
    continuation ∈ p.held ∨ ∃ plugin tree, continuation.run = run ∧ plugin.isAsync = true ∧
      effect = .start continuation.step plugin tree := by
  rcases p.perform_cases run origin effect with
    ⟨step, plugin, tree, rfl, performed⟩ | ⟨_, _, rfl, _, performed⟩ | ⟨_, idle, _, performed⟩
  · rw [performed] at member
    cases async : plugin.isAsync with
    | false =>
        simp only [async, Bool.false_eq_true, if_false] at member
        exact Or.inl member
    | true =>
        simp only [async, if_true] at member
        rcases List.mem_cons.mp member with rfl | old
        · exact Or.inr ⟨plugin, tree, rfl, async, rfl⟩
        · exact Or.inl old
  · rw [performed] at member
    exact Or.inl member
  · rw [performed] at member
    exact Or.inl member

/-- A continuation is handed out to the plugin that is started, for the run and the step that it is
started in. -/
theorem handed_perform {plugin : Plugin η β} {tree : Ref} {continuation : Continuation}
    (response : (p.perform run origin effect).2 = .turn plugin tree (some continuation)) :
    continuation.run = run ∧ effect = .start continuation.step plugin tree := by
  rcases p.perform_cases run origin effect with
    ⟨step, other, _, rfl, performed⟩ | ⟨_, _, rfl, _, performed⟩ | ⟨_, idle, _, performed⟩
  · rw [performed] at response
    cases async : other.isAsync with
    | false => simp [async] at response
    | true =>
        simp only [async, if_true, Response.turn.injEq, Option.some.injEq] at response
        rcases response with ⟨rfl, rfl, rfl⟩
        exact ⟨rfl, rfl⟩
  · rw [performed] at response
    cases response
  · rw [performed] at response
    cases response

theorem shown_perform (other : Nat) :
    (p.perform run origin effect).1.shown (p.perform run origin effect).2 other =
      if run = other then started effect else [] := by
  rcases p.perform_cases run origin effect with
    ⟨step, _, _, rfl, performed⟩ | ⟨_, _, rfl, _, performed⟩ | ⟨_, idle, _, performed⟩
  · rw [performed]
    rfl
  · rw [performed]
    simp [shown, started]
  · rw [performed]
    have none : started effect = [] := by
      cases effect with
      | start step plugin tree => cases idle
      | settle result => rfl
      | rest => rfl
    simp [reply, shown, none]

theorem told_perform {dispatch : Dispatch η β κ} (there : p.dispatches[run]? = some dispatch)
    (other : Nat) :
    (p.perform run origin effect).1.told (p.perform run origin effect).2 other =
      if run = other then dispatch.listener.hears effect.result?.toList else [] := by
  rcases p.perform_cases run origin effect with
    ⟨step, _, _, rfl, performed⟩ | ⟨callback, result, rfl, listener, performed⟩ |
      ⟨_, idle, silent, performed⟩
  · rw [performed]
    cases dispatch.listener <;> simp [told, Effect.result?, Listener.hears]
  · rw [there, Option.map_some, Option.some_inj] at listener
    rw [performed, listener]
    rfl
  · rw [performed]
    have none : dispatch.listener.hears effect.result?.toList = [] := by
      cases effect with
      | start step plugin tree => cases idle
      | rest => cases dispatch.listener <;> rfl
      | settle result =>
          cases listener : dispatch.listener with
          | caller => rfl
          | callback code =>
              refine absurd ?_ (silent result code rfl)
              rw [there, Option.map_some, listener]
    simp [reply, told, none]

end

/-! ## Moving one run -/

/-- Serving a request has moved one run.  The run was in the given dispatch, and was told the events
of `heard`. -/
structure Moved (p : Processor η β κ) (request : Request η β κ)
    (served : Processor η β κ × Response η β κ) (run : Nat) (dispatch : Dispatch η β κ)
    (heard : List (Event η β Ref)) (moved : Run η β Ref × Effect η β Ref) : Prop where
  others : ∀ other, run ≠ other → served.1.dispatches[other]? = p.dispatches[other]?
  there : served.1.dispatches[run]? = some { dispatch with run := moved.1 }
  outcome_eq : p.outcome run = dispatch.run.outcome
  tells : Tells dispatch.run moved
  heard_eq : ∀ other, p.heard request other = if run = other then heard else []
  shown_eq : ∀ other, served.1.shown served.2 other = if run = other then started moved.2 else []
  told_eq : ∀ other, served.1.told served.2 other =
    if run = other then dispatch.listener.hears moved.2.result?.toList else []
  turns_others : ∀ other, run ≠ other → turns other served.1.calls = turns other p.calls
  turns_run : turns run served.1.calls = moved.1.active.toList
  held : ∀ continuation ∈ served.1.held, continuation ∈ p.held ∨
    ∃ plugin tree, continuation.run = run ∧ plugin.isAsync = true ∧
      moved.2 = .start continuation.step plugin tree
  handed : ∀ plugin tree continuation, served.2 = .turn plugin tree (some continuation) →
    continuation.run = run ∧ moved.2 = .start continuation.step plugin tree

section

variable {p q : Processor η β κ} {request : Request η β κ} {run : Nat}
variable {dispatch : Dispatch η β κ} {heard : List (Event η β Ref)}

theorem moved_of_drive (p q : Processor η β κ)
    (move : Run η β Ref → Run η β Ref × Effect η β Ref)
    (there : q.dispatches[run]? = some dispatch)
    (others : ∀ other, run ≠ other → q.dispatches[other]? = p.dispatches[other]?)
    (outcome_eq : p.outcome run = dispatch.run.outcome)
    (tells : Tells dispatch.run (move dispatch.run))
    (heard_eq : ∀ other, p.heard request other = if run = other then heard else [])
    (turns_others : ∀ other, run ≠ other → turns other q.calls = turns other p.calls)
    (turns_run : (move dispatch.run).2.step?.toList ++ turns run q.calls =
      (move dispatch.run).1.active.toList)
    (held : ∀ continuation ∈ q.held, continuation ∈ p.held) (origin : Origin) :
    Moved p request (q.drive run origin move) run dispatch heard (move dispatch.run) := by
  have inside : run < q.dispatches.size := (Array.getElem?_eq_some_iff.mp there).1
  have updated : (q.dispatches.setIfInBounds run
      { dispatch with run := (move dispatch.run).1 })[run]? =
      some { dispatch with run := (move dispatch.run).1 } :=
    Array.getElem?_setIfInBounds_self_of_lt inside
  rw [drive_eq there]
  constructor
  · intro other different
    rw [dispatches_perform, Array.getElem?_setIfInBounds_ne different]
    exact others other different
  · rw [dispatches_perform]
    exact updated
  · exact outcome_eq
  · exact tells
  · exact heard_eq
  · exact shown_perform _ run origin _
  · have told := told_perform { q with dispatches := _ } run origin (move dispatch.run).2 updated
    exact told
  · intro other different
    rw [turns_perform, if_neg different]
    exact turns_others other different
  · rw [turns_perform, if_pos rfl]
    exact turns_run
  · intro continuation member
    rcases held_perform _ run origin _ continuation member with old | new
    · exact Or.inl (held continuation old)
    · exact Or.inr new
  · exact fun plugin tree continuation response => handed_perform _ run origin _ response

/-- A run gets a result exactly if the move reports it. -/
theorem settles_eq (result? : Option (Except Error Ref))
    (outcome_eq : q.outcome run = (p.outcome run).or result?)
    (unsettled : result?.isSome → p.outcome run = none) :
    p.settles q run = result?.toList.map .settled := by
  unfold settles
  rw [outcome_eq]
  cases result? with
  | none => cases p.outcome run <;> rfl
  | some result => rw [unsettled rfl]; rfl

theorem settles_of_eq (outcome_eq : q.outcome run = p.outcome run) : p.settles q run = [] :=
  settles_eq none (by rw [outcome_eq, Option.or_none]) nofun

theorem outcome_of_dispatches (same : q.dispatches[run]? = p.dispatches[run]?) :
    q.outcome run = p.outcome run := by
  simp only [outcome, same]

/-- What happens to a run that has been moved, and that nothing happens to the others. -/
theorem Moved.events_eq {served : Processor η β κ × Response η β κ}
    {moved : Run η β Ref × Effect η β Ref}
    (move : Moved p request served run dispatch heard moved) (other : Nat) :
    p.heard request other ++ (served.1.shown served.2 other ++ p.settles served.1 other) =
      if run = other then heard ++ moved.2.events else [] := by
  rw [move.heard_eq, move.shown_eq]
  by_cases same : run = other
  · subst same
    have outcome_eq : served.1.outcome run = (p.outcome run).or moved.2.result? := by
      rw [move.outcome_eq, ← move.tells.outcome_eq]
      simp only [outcome, move.there, Option.bind_some]
    rw [if_pos rfl, if_pos rfl, if_pos rfl,
      settles_eq _ outcome_eq (move.outcome_eq ▸ move.tells.unsettled)]
    cases moved.2 <;> rfl
  · rw [if_neg same, if_neg same, if_neg same,
      settles_of_eq (outcome_of_dispatches (move.others other same))]
    rfl

end

/-! ## Consistent processors -/

/-- A processor is as the stories and the reports of its runs have it. -/
structure Consistent (p : Processor η β κ) (stories : Nat → List (Event η β Ref))
    (reports : Nat → List (κ × Except Error Ref)) : Prop where
  absent : ∀ run, p.dispatches[run]? = none → stories run = [] ∧ reports run = []
  accords : ∀ run dispatch, p.dispatches[run]? = some dispatch →
    ∃ plugins tree later, stories run = .opened plugins tree :: later ∧
      Accords (stories run) plugins tree dispatch.run
  reported : ∀ run dispatch, p.dispatches[run]? = some dispatch →
    reports run = dispatch.listener.hears (results (stories run))
  turns_eq : ∀ run, turns run p.calls = (p.active run).toList
  held : ∀ continuation ∈ p.held, ∃ plugin tree,
    ⟨continuation.step, plugin, tree⟩ ∈ starts (stories continuation.run) ∧ plugin.isAsync = true

theorem consistent_fresh (model : Model) (store : Store) (attachments : Attachments η β) :
    Consistent (fresh model store attachments : Processor η β κ) (fun _ => []) fun _ => [] where
  absent := fun _ _ => ⟨rfl, rfl⟩
  accords := fun run dispatch there => by simp [fresh] at there
  reported := fun run dispatch there => by simp [fresh] at there
  turns_eq := fun run => by simp [fresh, turns, active]
  held := fun continuation member => by simp [fresh] at member

theorem hears_append (listener : Listener κ) (results more : List (Except Error Ref)) :
    listener.hears (results ++ more) = listener.hears results ++ listener.hears more := by
  cases listener with
  | callback code => exact List.map_append
  | caller => rfl

theorem results_events {η β ν : Type} (effect : Effect η β ν) :
    results effect.events = effect.result?.toList := by
  cases effect <;> rfl

/-- A processor that stands in for a consistent one is consistent. -/
theorem Consistent.stands {p q : Processor η β κ} {stories : Nat → List (Event η β Ref)}
    {reports : Nat → List (κ × Except Error Ref)} (consistent : Consistent p stories reports)
    (stands : Stands p q) : Consistent q stories reports where
  absent := stands.dispatches_eq ▸ consistent.absent
  accords := stands.dispatches_eq ▸ consistent.accords
  reported := stands.dispatches_eq ▸ consistent.reported
  turns_eq := fun run => by
    rw [stands.turns_eq, consistent.turns_eq]
    simp only [active, stands.dispatches_eq]
  held := fun continuation member =>
    consistent.held continuation (stands.held_of_held continuation member)

section

variable {p : Processor η β κ} {stories : Nat → List (Event η β Ref)}
variable {reports : Nat → List (κ × Except Error Ref)}

/-- A request that moves a run keeps a processor consistent if it keeps that run in accord with its
story. -/
theorem Consistent.moved {request : Request η β κ} {served : Processor η β κ × Response η β κ}
    {run : Nat} {dispatch : Dispatch η β κ} {heard : List (Event η β Ref)}
    {moved : Run η β Ref × Effect η β Ref} (consistent : Consistent p stories reports)
    (move : Moved p request served run dispatch heard moved)
    (accords : ∃ plugins tree later,
      stories run ++ (heard ++ moved.2.events) = .opened plugins tree :: later ∧
        Accords (stories run ++ (heard ++ moved.2.events)) plugins tree moved.1)
    (reported : reports run = dispatch.listener.hears (results (stories run)))
    (unreported : results heard = []) :
    Consistent served.1
      (fun other => stories other ++
        (p.heard request other ++ (served.1.shown served.2 other ++ p.settles served.1 other)))
      (fun other => reports other ++ served.1.told served.2 other) := by
  have same : ∀ other, run ≠ other → served.1.dispatches[other]? = p.dispatches[other]? :=
    move.others
  constructor
  · intro other none
    by_cases here : run = other
    · subst here
      rw [move.there] at none
      cases none
    · rw [move.events_eq, move.told_eq, if_neg here, if_neg here, List.append_nil, List.append_nil]
      exact consistent.absent other (same other here ▸ none)
  · intro other state there
    by_cases here : run = other
    · subst here
      rw [move.there] at there
      cases there
      rw [move.events_eq, if_pos rfl]
      exact accords
    · rw [move.events_eq, if_neg here, List.append_nil]
      exact consistent.accords other state (same other here ▸ there)
  · intro other state there
    by_cases here : run = other
    · subst here
      rw [move.there] at there
      cases there
      rw [move.events_eq, move.told_eq, if_pos rfl, if_pos rfl, results_append, results_append,
        unreported, results_events, List.nil_append, hears_append, reported]
    · rw [move.events_eq, move.told_eq, if_neg here, if_neg here, List.append_nil, List.append_nil]
      exact consistent.reported other state (same other here ▸ there)
  · intro other
    by_cases here : run = other
    · subst here
      rw [move.turns_run]
      simp only [active, move.there, Option.bind_some]
    · rw [move.turns_others other here, consistent.turns_eq]
      simp only [active, same other here]
  · intro continuation member
    rw [move.events_eq]
    rcases move.held continuation member with old | ⟨plugin, tree, rfl, async, start⟩
    · rcases consistent.held continuation old with ⟨plugin, tree, there, async⟩
      exact ⟨plugin, tree, starts_append _ _ ▸ List.mem_append_left _ there, async⟩
    · refine ⟨plugin, tree, ?_, async⟩
      rw [if_pos rfl, start, starts_append, starts_append]
      exact List.mem_append_right _ (List.mem_append_right _ (List.mem_singleton_self _))

/-- What a request does to a consistent processor: nothing that concerns a run, or a move of one run
that keeps it in accord with its story. -/
inductive Keeps (p : Processor η β κ) (stories : Nat → List (Event η β Ref))
    (reports : Nat → List (κ × Except Error Ref)) (request : Request η β κ)
    (served : Processor η β κ × Response η β κ) : Prop where
  | quiet (stands : Stands p served.1) (unheard : ∀ run, p.heard request run = [])
      (calm : served.2.calm = true)
  | moved {run : Nat} {dispatch : Dispatch η β κ} {heard : List (Event η β Ref)}
      {moved : Run η β Ref × Effect η β Ref}
      (move : Moved p request served run dispatch heard moved)
      (accords : ∃ plugins tree later,
        stories run ++ (heard ++ moved.2.events) = .opened plugins tree :: later ∧
          Accords (stories run ++ (heard ++ moved.2.events)) plugins tree moved.1)
      (reported : reports run = dispatch.listener.hears (results (stories run)))
      (unreported : results heard = [])

/-- A new run is moved to its first plugin. -/
theorem Consistent.opened {q : Processor η β κ} {request : Request η β κ} {tree : Ref}
    {listener : Listener κ} (consistent : Consistent p stories reports) (stands : Stands p q)
    (attachments_eq : q.attachments = p.attachments)
    (heard : ∀ run, p.heard request run =
      if p.dispatches.size = run then [.opened p.attachments.registry.plugins tree] else []) :
    Keeps p stories reports request (q.dispatch tree listener) := by
  have sizes : q.dispatches.size = p.dispatches.size := by rw [stands.dispatches_eq]
  have new : p.dispatches[p.dispatches.size]? = none := Array.getElem?_size
  rcases consistent.absent p.dispatches.size new with ⟨untold, unreported⟩
  have idle : turns p.dispatches.size q.calls = [] := by
    rw [stands.turns_eq, consistent.turns_eq, active, new]
    rfl
  have move : Moved p request (q.dispatch tree listener) p.dispatches.size
      ⟨initial p.attachments.registry.plugins tree, listener⟩
      [.opened p.attachments.registry.plugins tree]
      (initial p.attachments.registry.plugins tree).advance := by
    unfold Processor.dispatch
    simp only [attachments_eq, sizes]
    let state : Run η β Ref := initial p.attachments.registry.plugins tree
    refine moved_of_drive p
      { q with attachments := p.attachments, dispatches := q.dispatches.push ⟨state, listener⟩ }
      advance ?_ ?_ ?_ (tells_advance _) heard ?_ ?_ stands.held_of_held _
    · simp only [← sizes, Array.getElem?_push_size]
      rfl
    · intro other different
      simp only [stands.dispatches_eq, Array.getElem?_push, if_neg (Ne.symm different)]
    · rw [outcome, new]
      rfl
    · exact fun other _ => stands.turns_eq other
    · rw [idle, List.append_nil, active_advance]
  refine .moved move ?_ ?_ rfl
  · rw [untold]
    exact ⟨_, _, _, rfl, accords_opened _ _⟩
  · rw [untold, unreported]
    cases listener <;> rfl

/-- The plugin in control is the one in its turn in its run, and in no other turn besides. -/
theorem Consistent.of_top {run step : Nat} {origin : Origin} {calls : List (Call κ)}
    (consistent : Consistent p stories reports)
    (top : p.calls = .turn run step origin :: calls) :
    ∃ dispatch, p.dispatches[run]? = some dispatch ∧ dispatch.run.active = some step ∧
      turns run calls = [] := by
  have turn : (Call.turn run step origin : Call κ).step? run = some step := by simp [Call.step?]
  have turns_eq : step :: turns run calls = (p.active run).toList := by
    rw [← consistent.turns_eq, top, turns_cons_of_some turn]
  cases activity : p.active run with
  | none => rw [activity] at turns_eq; cases turns_eq
  | some other =>
      rcases Option.bind_eq_some_iff.mp activity with ⟨dispatch, there, active⟩
      rw [activity, Option.toList_some, List.cons.injEq] at turns_eq
      rcases turns_eq with ⟨rfl, alone⟩
      exact ⟨dispatch, there, active, alone⟩

/-- A plugin of a run returns. -/
theorem Consistent.returned {run step : Nat} {origin : Origin} {calls : List (Call κ)}
    (consistent : Consistent p stories reports)
    (top : p.calls = .turn run step origin :: calls) (result : Except Error Unit) :
    Keeps p stories reports (.returned result)
      ({ p with calls := calls }.drive run origin fun state => state.returned result) := by
  rcases consistent.of_top top with ⟨dispatch, there, active, alone⟩
  have heard : ∀ other, p.heard (.returned result) other =
      if run = other then [.returned step result] else [] := fun other => by
    simp only [Processor.heard, top]
  rcases consistent.accords run dispatch there with ⟨plugins, tree, later, opened, accords⟩
  refine .moved (moved_of_drive p { p with calls := calls } (fun state => state.returned result) there
    (fun _ _ => rfl) ?_ (tells_returned _ result) heard ?_ ?_ (fun _ member => member) origin) ?_
    (consistent.reported run dispatch there) rfl
  · rw [outcome, there, Option.bind_some]
  · intro other different
    rw [top, turns_cons_of_none (by simp [Call.step?, different])]
  · rw [alone, List.append_nil, active_returned active]
  · exact ⟨plugins, tree, _, congrArg (· ++ _) opened, accords.returned active result⟩

/-- A continuation that is held is called. -/
theorem Consistent.called {continuation : Continuation}
    (consistent : Consistent p stories reports) (member : continuation ∈ p.held)
    (signal : Signal Ref) :
    Keeps p stories reports (.signal continuation signal)
      ({ p with held := p.held.erase continuation }.drive continuation.run .signal fun state =>
        state.signal continuation.step signal) := by
  rcases consistent.held continuation member with ⟨plugin, tree, begun, async⟩
  obtain ⟨dispatch, there⟩ : ∃ dispatch, p.dispatches[continuation.run]? = some dispatch := by
    cases there : p.dispatches[continuation.run]? with
    | some dispatch => exact ⟨dispatch, rfl⟩
    | none =>
        rw [(consistent.absent _ there).1] at begun
        cases begun
  have heard : ∀ other, p.heard (.signal continuation signal) other =
      if continuation.run = other then [.called continuation.step signal] else [] := fun other => by
    simp only [Processor.heard, member, true_and]
  have activity := active_signal dispatch.run continuation.step signal
  rcases consistent.accords _ dispatch there with ⟨plugins, first, later, opened, accords⟩
  rcases accords.of_mem_starts begun with ⟨here, handed⟩
  refine .moved (moved_of_drive p { p with held := p.held.erase continuation }
    (fun state => state.signal continuation.step signal) there (fun _ _ => rfl) ?_
    (tells_signal _ _ signal) heard (fun _ _ => rfl) ?_ (fun _ => List.mem_of_mem_erase) .signal) ?_
    (consistent.reported _ dispatch there) rfl
  · rw [outcome, there, Option.bind_some]
  · have turns_eq := consistent.turns_eq continuation.run
    rw [Processor.active, there, Option.bind_some] at turns_eq
    rw [turns_eq, activity.1]
    cases started : (dispatch.run.signal continuation.step signal).2.step? with
    | none => rfl
    | some step =>
        rw [activity.2 (started ▸ rfl)]
        rfl
  · exact ⟨plugins, first, _, congrArg (· ++ _) opened, accords.signal here async handed signal⟩

/-- What any request does to a consistent processor. -/
theorem Consistent.serve (consistent : Consistent p stories reports) (request : Request η β κ) :
    Keeps p stories reports request (p.serve request) := by
  have cases := p.serve_cases request
  generalize p.serve request = served at cases
  cases cases with
  | quiet stands unheard calm => exact .quiet stands unheard calm
  | opened stands attachments_eq heard => exact consistent.opened stands attachments_eq heard
  | returned asked top => exact asked ▸ consistent.returned top _
  | called asked member => exact asked ▸ consistent.called member _

/-- Every act keeps a processor consistent. -/
theorem Consistent.act (consistent : Consistent p stories reports) (act : Act η β κ) :
    Consistent (p.act act) (fun run => stories run ++ p.events run act)
      fun run => reports run ++ p.news run act := by
  cases act with
  | request request =>
      cases consistent.serve request with
      | moved move accords reported unreported =>
          exact consistent.moved move accords reported unreported
      | quiet stands unheard calm =>
          have silent : ∀ run, p.settles (p.serve request).1 run = [] := fun run =>
            settles_of_eq (outcome_of_dispatches (by rw [stands.dispatches_eq]))
          simp only [events, news, unheard, shown_of_calm calm, told_of_calm calm, silent,
            List.append_nil]
          exact consistent.stands stands
  | edit store =>
      simp only [events, news, List.append_nil]
      exact consistent.stands ⟨rfl, fun _ member => member, fun _ => rfl⟩
  | define definition =>
      simp only [events, news, List.append_nil]
      exact consistent.stands ⟨rfl, fun _ member => member, fun _ => rfl⟩

/-- Every history keeps a processor consistent. -/
theorem Consistent.after (consistent : Consistent p stories reports) (acts : List (Act η β κ)) :
    Consistent (p.after acts) (fun run => stories run ++ p.story run acts)
      fun run => reports run ++ p.reports run acts := by
  induction acts generalizing p stories reports with
  | nil =>
      simp only [story, Processor.reports, List.append_nil]
      exact consistent
  | cons act rest inductionHypothesis =>
      have next := inductionHypothesis (consistent.act act)
      simp only [List.append_assoc] at next
      exact next

end

/-- Every state that a history of a fresh processor leads to is consistent. -/
theorem consistent_after (model : Model) (store : Store) (attachments : Attachments η β)
    (acts : List (Act η β κ)) :
    Consistent ((fresh model store attachments).after acts)
      (fun run => (fresh model store attachments).story run acts)
      fun run => (fresh model store attachments).reports run acts :=
  (consistent_fresh model store attachments).after acts

end Processor
end Prose

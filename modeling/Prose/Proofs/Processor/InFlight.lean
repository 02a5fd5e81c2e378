import Prose.Proofs.Processor.Accord

namespace Prose
namespace Processor

open Story Run

/-!
# Runs in flight

Any number of runs may be in flight on a processor.  `Safe` collects what holds of them after any history:
each is opened with the plugins attached at that time, starts them in order and each after the one before
has been completed, is settled once, and is left alone from then on.
-/

variable {η β κ : Type}

/-- The plugins that a run was opened with. -/
def snapshot : List (Event η β Ref) → List (Plugin η β)
  | .opened plugins _ :: _ => plugins
  | _ => []

def tree (p : Processor η β κ) (run : Nat) : Option Ref :=
  p.dispatches[run]?.map fun dispatch => dispatch.run.tree

def listener (p : Processor η β κ) (run : Nat) : Option (Listener κ) :=
  p.dispatches[run]?.map Dispatch.listener

/-- What holds of the runs of a processor after a history. -/
structure Safe (p : Processor η β κ) (acts : List (Act η β κ)) : Prop where
  /-- A run is opened with the plugins that are attached then. -/
  opened : ∀ run < (p.after acts).dispatches.size, ∃ earlier act later tree rest,
    acts = earlier ++ act :: later ∧ (p.after earlier).dispatches.size = run ∧
      p.story run acts = .opened (p.after earlier).attachments.registry.plugins tree :: rest
  /-- The callback of a run is called once at most. -/
  once : ∀ run, (p.reports run acts).length ≤ 1
  /-- It is called with the result of the run, as soon as there is one. -/
  reported : ∀ run listener, (p.after acts).listener run = some listener →
    p.reports run acts = listener.hears ((p.after acts).outcome run).toList
  /-- A run gets one result at most. -/
  settled : ∀ run, results (p.story run acts) = ((p.after acts).outcome run).toList
  /-- The plugins started are the first ones of those that the run was opened with, each started once
  and in order. -/
  started : ∀ run, ∃ count,
    (starts (p.story run acts)).map (fun start => (start.plugin, start.step)) =
      ((snapshot (p.story run acts)).take count).zipIdx
  /-- A plugin is started only after the step before its own has been completed successfully. -/
  completed : ∀ run before step plugin tree rest,
    p.story run acts = before ++ .started (step + 1) plugin tree :: rest →
      ∃ previous signal, (snapshot (p.story run acts))[step]? = some previous ∧
        verdict before step previous = some signal ∧ signal.succeeds = true
  /-- Whatever happens after a run has its result, it starts no plugin, its callback is not called
  again, and it keeps its tree and its result. -/
  final : ∀ run result, (p.after acts).outcome run = some result → ∀ later,
    starts ((p.after acts).story run later) = [] ∧ (p.after acts).reports run later = [] ∧
      ((p.after acts).after later).tree run = (p.after acts).tree run ∧
      ((p.after acts).after later).outcome run = some result
  /-- A continuation of a run that has its result is only used up by a call, as if it were dropped. -/
  late_call : ∀ continuation signal, ((p.after acts).outcome continuation.run).isSome →
    (p.after acts).serve (.signal continuation signal) = (p.after acts).serve (.drop continuation)
  /-- A plugin of a run that has its result may as well return without an error. -/
  late_error : ∀ run step origin calls error, ((p.after acts).outcome run).isSome →
    (p.after acts).calls = .turn run step origin :: calls →
      (p.after acts).serve (.returned (.error error)) = (p.after acts).serve (.returned (.ok ()))
  /-- A call of a continuation leaves all runs alone but its own. -/
  apart : ∀ continuation signal run, continuation.run ≠ run →
    ((p.after acts).serve (.signal continuation signal)).1.dispatches[run]? =
      (p.after acts).dispatches[run]? ∧
    (p.after acts).events run (.request (.signal continuation signal)) = [] ∧
    (p.after acts).news run (.request (.signal continuation signal)) = []
  /-- A continuation is one of the run and the step that it is handed out in. -/
  handed : ∀ request plugin tree continuation,
    ((p.after acts).serve request).2 = .turn plugin tree (some continuation) →
      .started continuation.step plugin tree ∈
        (p.after acts).events continuation.run (.request request)

/-! ## What a run keeps -/

section

variable {p : Processor η β κ} {run : Nat} {listener : Listener κ}

theorem listener_drive (p : Processor η β κ) (run : Nat) (origin : Origin)
    (move : Run η β Ref → Run η β Ref × Effect η β Ref) (other : Nat) :
    (p.drive run origin move).1.listener other = p.listener other := by
  cases there : p.dispatches[run]? with
  | none => simp only [drive, there, reply]
  | some dispatch =>
      have inside := (Array.getElem?_eq_some_iff.mp there).1
      rw [drive_eq there, Processor.listener, dispatches_perform]
      by_cases same : run = other
      · subst same
        rw [Array.getElem?_setIfInBounds_self_of_lt inside, Processor.listener, there]
        rfl
      · rw [Array.getElem?_setIfInBounds_ne same]
        rfl

/-- A run keeps its listener when a request is served. -/
theorem listener_serve (known : p.listener run = some listener) (request : Request η β κ) :
    (p.serve request).1.listener run = some listener := by
  have cases := p.serve_cases request
  generalize p.serve request = served at cases
  cases cases with
  | quiet stands =>
      rw [Processor.listener, stands.dispatches_eq]
      exact known
  | returned => exact (listener_drive _ _ _ _ run).trans known
  | called => exact (listener_drive _ _ _ _ run).trans known
  | @opened q tree other stands =>
      rcases Option.map_eq_some_iff.mp known with ⟨dispatch, there, _⟩
      have inside := (Array.getElem?_eq_some_iff.mp there).1
      refine (listener_drive _ _ _ _ run).trans ?_
      have old : (q.dispatches.push ⟨initial q.attachments.registry.plugins tree, other⟩)[run]? =
          p.dispatches[run]? := by
        rw [stands.dispatches_eq, Array.getElem?_push, if_neg (Nat.ne_of_lt inside)]
      rw [Processor.listener, old]
      exact known

/-- A run keeps its listener. -/
theorem listener_after (known : p.listener run = some listener) (acts : List (Act η β κ)) :
    (p.after acts).listener run = some listener := by
  induction acts generalizing p with
  | nil => exact known
  | cons act rest inductionHypothesis =>
      refine inductionHypothesis ?_
      cases act with
      | request request => exact listener_serve known request
      | edit store => exact known
      | define definition => exact known

end

/-! ## The opening of a run -/

/-- A request that opens a run takes the plugins attached at that time. -/
theorem opened_of_mem_heard {p : Processor η β κ} {request : Request η β κ} {run : Nat}
    {plugins : List (Plugin η β)} {tree : Ref}
    (member : .opened plugins tree ∈ p.heard request run) :
    p.dispatches.size = run ∧ plugins = p.attachments.registry.plugins := by
  unfold heard at member
  split at member
  · split at member <;> simp at member
  · split at member
    · split at member <;> simp at member
    · simp at member
  · split at member
    · split at member
      · rename_i here
        simp only [List.mem_singleton, Event.opened.injEq] at member
        exact ⟨here, member.1⟩
      · simp at member
    · simp at member

/-- The opening of a run is heard of, and neither shown nor a result. -/
theorem heard_of_opened {p : Processor η β κ} {request : Request η β κ} {run : Nat}
    {plugins : List (Plugin η β)} {tree : Ref}
    (member : .opened plugins tree ∈ p.events run (.request request)) :
    .opened plugins tree ∈ p.heard request run := by
  rcases List.mem_append.mp member with heard | answered
  · exact heard
  · rcases List.mem_append.mp answered with shown | settled
    · unfold Processor.shown at shown
      split at shown
      · split at shown <;> simp at shown
      · simp at shown
    · unfold settles at settled
      split at settled <;> simp at settled

theorem opened_of_mem_events {p : Processor η β κ} {act : Act η β κ} {run : Nat}
    {plugins : List (Plugin η β)} {tree : Ref} (member : .opened plugins tree ∈ p.events run act) :
    p.dispatches.size = run ∧ plugins = p.attachments.registry.plugins := by
  cases act with
  | edit store => cases member
  | define definition => cases member
  | request request => exact opened_of_mem_heard (heard_of_opened member)

/-- An event of a story happens by one of the acts. -/
theorem exists_act_of_mem_story {p : Processor η β κ} {run : Nat} {acts : List (Act η β κ)}
    {event : Event η β Ref} (member : event ∈ p.story run acts) :
    ∃ earlier act later, acts = earlier ++ act :: later ∧
      event ∈ (p.after earlier).events run act := by
  induction acts generalizing p with
  | nil => cases member
  | cons act rest inductionHypothesis =>
      rcases List.mem_append.mp member with now | later
      · exact ⟨[], act, rest, rfl, now⟩
      · rcases inductionHypothesis later with ⟨earlier, other, later, split, there⟩
        exact ⟨act :: earlier, other, later, congrArg (act :: ·) split, there⟩

/-- A run was opened by one of the acts, with the plugins attached at that time. -/
theorem opened_of_mem_story {p : Processor η β κ} {run : Nat} {acts : List (Act η β κ)}
    {plugins : List (Plugin η β)} {tree : Ref} (member : .opened plugins tree ∈ p.story run acts) :
    ∃ earlier act later, acts = earlier ++ act :: later ∧
      (p.after earlier).dispatches.size = run ∧
      plugins = (p.after earlier).attachments.registry.plugins := by
  rcases exists_act_of_mem_story member with ⟨earlier, act, later, split, there⟩
  exact ⟨earlier, act, later, split, opened_of_mem_events there⟩

/-! ## Runs that have their results -/

section

variable {p : Processor η β κ} {stories : Nat → List (Event η β Ref)}
variable {reports : Nat → List (κ × Except Error Ref)} {run : Nat} {result : Except Error Ref}

/-- The plugins and the stories of a consistent processor. -/
theorem Consistent.of_outcome (consistent : Consistent p stories reports)
    (settled : p.outcome run = some result) :
    ∃ dispatch plugins tree later, p.dispatches[run]? = some dispatch ∧
      dispatch.run.outcome = some result ∧ stories run = .opened plugins tree :: later ∧
      Accords (stories run) plugins tree dispatch.run := by
  rcases Option.bind_eq_some_iff.mp settled with ⟨dispatch, there, outcome⟩
  rcases consistent.accords run dispatch there with ⟨plugins, tree, later, opened, accords⟩
  exact ⟨dispatch, plugins, tree, later, there, outcome, opened, accords⟩

/-- The results in the story of a run are those that the processor has for it. -/
theorem Consistent.results_eq (consistent : Consistent p stories reports) (run : Nat) :
    results (stories run) = (p.outcome run).toList := by
  cases there : p.dispatches[run]? with
  | none =>
      rw [(consistent.absent run there).1, outcome, there]
      rfl
  | some dispatch =>
      rcases consistent.accords run dispatch there with ⟨plugins, tree, later, _, accords⟩
      rw [accords.results_eq, outcome, there, Option.bind_some]

/-- What has become of a settled run stays as it is. -/
theorem Consistent.final (consistent : Consistent p stories reports)
    (settled : p.outcome run = some result) (later : List (Act η β κ)) :
    starts (p.story run later) = [] ∧ p.reports run later = [] ∧
      (p.after later).tree run = p.tree run ∧ (p.after later).outcome run = some result := by
  have consistent' := consistent.after later
  rcases consistent.of_outcome settled with
    ⟨dispatch, plugins, first, rest, there, outcome, opened, accords⟩
  obtain ⟨dispatch', there', listener_eq⟩ := Option.map_eq_some_iff.mp
    (listener_after (congrArg (Option.map Dispatch.listener) there) later)
  rcases consistent'.accords run dispatch' there' with ⟨plugins', first', rest', opened', accords'⟩
  -- The longer story begins like the shorter one, so it is about the same plugins and the same tree.
  rw [opened, List.cons_append, List.cons.injEq, Event.opened.injEq] at opened'
  rcases opened' with ⟨⟨rfl, rfl⟩, _⟩
  have nonempty : results (stories run) ≠ [] := by
    rw [accords.results_eq, outcome]
    exact List.cons_ne_nil _ _
  have unstarted := starts_eq_nil_of_results accords'.told.orderly nonempty
  have more := accords'.results_eq
  rw [results_append, accords.results_eq, outcome] at more
  have outcome' : dispatch'.run.outcome = some result := by
    cases outcome' : dispatch'.run.outcome with
    | none => rw [outcome'] at more; cases more
    | some other =>
        rw [outcome'] at more
        exact congrArg some (List.cons.inj more).1.symm
  have unsettled : results (p.story run later) = [] := by
    rw [outcome'] at more
    exact (List.cons.inj more).2
  refine ⟨unstarted, ?_, ?_, ?_⟩
  · have reported := consistent'.reported run dispatch' there'
    rw [results_append, unsettled, List.append_nil, listener_eq,
      consistent.reported run dispatch there] at reported
    exact List.append_right_eq_self.mp reported
  · have same := accords.eq_of_settled accords' (by rw [starts_append, unstarted, List.append_nil])
      outcome outcome'
    rw [Processor.tree, Processor.tree, there, there', Option.map_some, Option.map_some, same.1]
  · rw [Processor.outcome, there', Option.bind_some, outcome']

/-- Driving a run that stays as it is and asks for nothing changes nothing. -/
theorem drive_of_rest (p : Processor η β κ) (move : Run η β Ref → Run η β Ref × Effect η β Ref)
    {dispatch : Dispatch η β κ} (there : p.dispatches[run]? = some dispatch)
    (moved : move dispatch.run = (dispatch.run, .rest)) (origin : Origin) :
    p.drive run origin move = p.rest run origin := by
  have same : p.dispatches.setIfInBounds run dispatch = p.dispatches := by
    refine Array.ext_getElem? fun other => ?_
    by_cases here : run = other
    · subst here
      rw [Array.getElem?_setIfInBounds_self_of_lt (Array.getElem?_eq_some_iff.mp there).1, there]
    · rw [Array.getElem?_setIfInBounds_ne here]
  rw [drive_eq there, moved]
  simp only [same, perform]

/-- A call of a continuation comes too late for a settled run. -/
theorem Consistent.late_call (consistent : Consistent p stories reports) {continuation : Continuation}
    (settled : p.outcome continuation.run = some result) (signal : Signal Ref) :
    p.serve (.signal continuation signal) = p.serve (.drop continuation) := by
  rcases consistent.of_outcome settled with ⟨dispatch, plugins, first, rest, there, outcome, _⟩
  simp only [Processor.serve, call]
  split
  · exact drive_of_rest { p with held := p.held.erase continuation }
      (fun run => run.signal continuation.step signal) there (signal_of_settled outcome signal) .signal
  · rename_i unheld
    rw [List.erase_of_not_mem unheld]

/-- The plugin of a settled run returns with an error as it does without one. -/
theorem Consistent.late_error (consistent : Consistent p stories reports) {step : Nat}
    {origin : Origin} {calls : List (Call κ)} (settled : p.outcome run = some result)
    (top : p.calls = .turn run step origin :: calls) (error : Error) :
    p.serve (.returned (.error error)) = p.serve (.returned (.ok ())) := by
  rcases consistent.of_top top with ⟨dispatch, there, active, _⟩
  rcases consistent.accords run dispatch there with ⟨plugins, first, rest, _, accords⟩
  have outcome : dispatch.run.outcome = some result := by
    rw [Processor.outcome, there, Option.bind_some] at settled
    exact settled
  simp only [Processor.serve, leave, top, drive, there, accords.returned_of_settled active outcome]

end

/-! ## Runs that are none of a request's business -/

/-- Driving a run concerns no other run. -/
theorem drive_of_ne (p : Processor η β κ) {run other : Nat} (different : run ≠ other)
    (origin : Origin) (move : Run η β Ref → Run η β Ref × Effect η β Ref) :
    (p.drive run origin move).1.dispatches[other]? = p.dispatches[other]? ∧
      (p.drive run origin move).1.shown (p.drive run origin move).2 other = [] ∧
      (p.drive run origin move).1.told (p.drive run origin move).2 other = [] := by
  cases there : p.dispatches[run]? with
  | none =>
      simp only [drive, there]
      exact ⟨rfl, rfl, rfl⟩
  | some dispatch =>
      have inside := (Array.getElem?_eq_some_iff.mp there).1
      rw [drive_eq there]
      refine ⟨?_, ?_, ?_⟩
      · rw [dispatches_perform, Array.getElem?_setIfInBounds_ne different]
      · rw [shown_perform, if_neg different]
      · rw [told_perform _ _ _ _ (Array.getElem?_setIfInBounds_self_of_lt inside), if_neg different]

/-- A call of a continuation concerns no run but its own. -/
theorem signal_of_ne (p : Processor η β κ) {continuation : Continuation} {run : Nat}
    (different : continuation.run ≠ run) (signal : Signal Ref) :
    (p.serve (.signal continuation signal)).1.dispatches[run]? = p.dispatches[run]? ∧
      p.events run (.request (.signal continuation signal)) = [] ∧
      p.news run (.request (.signal continuation signal)) = [] := by
  have unheard : p.heard (.signal continuation signal) run = [] := by
    simp only [heard, different, and_false, if_false]
  have alone : (p.serve (.signal continuation signal)).1.dispatches[run]? = p.dispatches[run]? ∧
      (p.serve (.signal continuation signal)).1.shown (p.serve (.signal continuation signal)).2 run =
        [] ∧
      (p.serve (.signal continuation signal)).1.told (p.serve (.signal continuation signal)).2 run =
        [] := by
    simp only [serve, call]
    split
    · exact drive_of_ne _ different .signal _
    · exact ⟨rfl, rfl, rfl⟩
  rcases alone with ⟨same, unshown, untold⟩
  refine ⟨same, ?_, untold⟩
  simp only [events, unheard, unshown, settles_of_eq (outcome_of_dispatches same), List.append_nil]

/-- A continuation belongs to the run and the step of the plugin that it is handed out to. -/
theorem Consistent.handed {p : Processor η β κ} {stories : Nat → List (Event η β Ref)}
    {reports : Nat → List (κ × Except Error Ref)} (consistent : Consistent p stories reports)
    {request : Request η β κ} {plugin : Plugin η β} {tree : Ref} {continuation : Continuation}
    (response : (p.serve request).2 = .turn plugin tree (some continuation)) :
    .started continuation.step plugin tree ∈ p.events continuation.run (.request request) := by
  cases consistent.serve request with
  | quiet _ _ calm =>
      rw [response] at calm
      cases calm
  | moved move =>
      rcases move.handed _ _ _ response with ⟨same, effect⟩
      rw [events, move.events_eq, if_pos same.symm, effect]
      exact List.mem_append_right _ (List.mem_singleton_self _)

/-! ## Safety -/

/-- After every history the runs of a processor are safe. -/
theorem safe_after (model : Model) (store : Store) (attachments : Attachments η β)
    (acts : List (Act η β κ)) : Safe (fresh model store attachments) acts := by
  have consistent := consistent_after model store attachments acts
  generalize fresh model store attachments = p at consistent
  have reported : ∀ run listener, (p.after acts).listener run = some listener →
      p.reports run acts = listener.hears ((p.after acts).outcome run).toList := by
    intro run listener known
    rcases Option.map_eq_some_iff.mp known with ⟨dispatch, there, rfl⟩
    exact (consistent.reported run dispatch there).trans
      (congrArg dispatch.listener.hears (consistent.results_eq run))
  constructor
  case reported => exact reported
  case settled => exact consistent.results_eq
  case final => exact fun run result settled => consistent.final settled
  case apart => exact fun continuation signal run different => signal_of_ne _ different signal
  case handed => exact fun request plugin tree continuation => consistent.handed
  case opened =>
    intro run inside
    have there : (p.after acts).dispatches[run]? = some (p.after acts).dispatches[run] :=
      Array.getElem?_eq_getElem inside
    rcases consistent.accords run _ there with ⟨plugins, tree, rest, opened, _⟩
    rcases opened_of_mem_story (opened ▸ List.mem_cons_self) with
      ⟨earlier, act, later, split, size, plugins_eq⟩
    exact ⟨earlier, act, later, tree, rest, split, size, plugins_eq ▸ opened⟩
  case once =>
    intro run
    cases there : (p.after acts).dispatches[run]? with
    | none =>
        rw [(consistent.absent run there).2]
        exact Nat.zero_le 1
    | some dispatch =>
        rw [reported run dispatch.listener (congrArg (Option.map Dispatch.listener) there)]
        cases dispatch.listener <;> cases (p.after acts).outcome run <;> simp [Listener.hears]
  case started =>
    intro run
    cases there : (p.after acts).dispatches[run]? with
    | none =>
        rw [(consistent.absent run there).1]
        exact ⟨0, rfl⟩
    | some dispatch =>
        rcases consistent.accords run dispatch there with ⟨plugins, tree, rest, opened, accords⟩
        rcases accords.starts_eq with ⟨count, same⟩
        refine ⟨count, same.trans ?_⟩
        rw [opened]
        rfl
  case completed =>
    intro run before step plugin tree rest split
    cases there : (p.after acts).dispatches[run]? with
    | none =>
        rw [(consistent.absent run there).1] at split
        cases before <;> cases split
    | some dispatch =>
        rcases consistent.accords run dispatch there with ⟨plugins, first, later, opened, accords⟩
        rcases accords.told.orderly before _ rest split with ⟨_, _, earlier⟩
        rw [opened]
        exact earlier step rfl
  case late_call =>
    intro continuation signal settled
    rcases Option.isSome_iff_exists.mp settled with ⟨result, settled⟩
    exact consistent.late_call settled signal
  case late_error =>
    intro run step origin calls error settled top
    rcases Option.isSome_iff_exists.mp settled with ⟨result, settled⟩
    exact consistent.late_error settled top error

/-! ### A late error -/

def patient : Plugin Unit Unit := ⟨⟨"patient", .async, none, ()⟩, 0⟩

def prompt : Plugin Unit Unit := ⟨⟨"prompt", .sync, none, ()⟩, 1⟩

/-- A processor without anything. -/
def blank : Processor Unit Unit Unit := fresh Model.empty Store.empty (.empty .empty)

/-- Both plugins are attached and a run over a tree is opened. -/
def attachAndRun : List (Act Unit Unit Unit) :=
  [.request (.attach patient), .request (.attach prompt), .request (.run 7 (some ()))]

/-- The first plugin calls its continuation and returns with an error all the same; then the second
plugin and the callback return. -/
def resumeThenFail : List (Act Unit Unit Unit) :=
  attachAndRun ++ [.request (.signal ⟨0, 0⟩ .resume),
    .request (.returned (.error (.plugin "patient" "too late"))), .request (.returned (.ok ())),
    .request (.returned (.ok ()))]

/-- The late error has no effect, and the callback is called once. -/
theorem safe_after_resumeThenFail : Safe blank resumeThenFail ∧
    blank.reports 0 resumeThenFail = [((), .ok 7)] := ⟨safe_after _ _ _ _, rfl⟩

end Processor
end Prose

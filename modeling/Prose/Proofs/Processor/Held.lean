import Prose.Proofs.Processor.Attaching

namespace Prose

/-!
# What becomes of continuations and callbacks

The continuation of an async plugin is held from the start of the plugin until it is called or dropped,
whatever else is asked for in between.  A callback is in control only of a run that has its result.

`Carries` says both of one request; the cases are those of `Processor.serve`.
-/

/-- The continuation that a request uses up, by a call of it or by dropping it. -/
def Request.spent {η β κ : Type} : Request η β κ → Option Continuation
  | .signal continuation _ => some continuation
  | .drop continuation => some continuation
  | _ => none

namespace Processor

open Story Run

variable {η β κ : Type}

/-- Serving a request loses no continuation but the given one, puts a callback in control only of a run
with a result, and holds the continuation of an async plugin that it starts. -/
structure Carries (p : Processor η β κ) (spent : Option Continuation)
    (served : Processor η β κ × Response η β κ) : Prop where
  kept : ∀ continuation ∈ p.held, spent ≠ some continuation → continuation ∈ served.1.held
  reported : ∀ run origin, .report run origin ∈ served.1.calls →
    .report run origin ∈ p.calls ∨ (served.1.outcome run).isSome
  handed : ∀ run step plugin tree, .started step plugin tree ∈ served.1.shown served.2 run →
    plugin.isAsync = true → ⟨run, step⟩ ∈ served.1.held

section

variable {p q : Processor η β κ} {spent : Option Continuation}

/-- A request that neither starts a plugin nor calls back. -/
theorem carries_of_calm {response : Response η β κ} (calm : response.calm = true)
    (kept : ∀ continuation ∈ p.held, spent ≠ some continuation → continuation ∈ q.held)
    (reported : ∀ run origin, .report run origin ∈ q.calls → .report run origin ∈ p.calls) :
    Carries p spent (q, response) where
  kept := kept
  reported := fun run origin member => .inl (reported run origin member)
  handed := fun run step plugin tree shown => by
    rw [shown_of_calm calm] at shown
    cases shown

/-- A processor may stand in for another that holds the same, with no callback in control besides. -/
theorem Carries.of_same {served : Processor η β κ × Response η β κ} (carries : Carries q none served)
    (held_eq : q.held = p.held)
    (reported : ∀ run origin, .report run origin ∈ q.calls → .report run origin ∈ p.calls) :
    Carries p none served where
  kept := held_eq ▸ carries.kept
  reported := fun run origin member => (carries.reported run origin member).imp_left
    (reported run origin)
  handed := carries.handed

/-- What a run asks for is carried out without losing anything. -/
theorem carries_perform (p : Processor η β κ) (run : Nat) (origin : Origin)
    (effect : Effect η β Ref) (settled : effect.result?.isSome → (p.outcome run).isSome) :
    Carries p none (p.perform run origin effect) := by
  rcases p.perform_cases run origin effect with
    ⟨step, plugin, tree, rfl, performed⟩ | ⟨_, _, rfl, _, performed⟩ | ⟨_, _, _, performed⟩
  · have shown_eq := p.shown_perform run origin (.start step plugin tree)
    rw [performed] at shown_eq ⊢
    refine ⟨fun continuation member _ => ?_, fun other _ member => .inl ?_,
      fun other _ _ _ shown async => ?_⟩
    · simp only
      split
      · exact List.mem_cons_of_mem _ member
      · exact member
    · simpa using member
    · rw [shown_eq] at shown
      split at shown
      · rename_i same
        cases List.mem_singleton.mp shown
        simp only [async, if_true, same]
        exact List.mem_cons_self
      · cases shown
  · rw [performed]
    refine ⟨fun _ member _ => member, fun other _ member => ?_, fun _ _ _ _ shown => ?_⟩
    · rcases List.mem_cons.mp member with new | old
      · cases new
        exact .inr (settled rfl)
      · exact .inl old
    · cases shown
  · rw [performed]
    exact carries_of_calm rfl (fun _ member _ => member) fun _ _ member => member

/-- Neither does driving a run lose anything. -/
theorem carries_drive (p q : Processor η β κ)
    (kept : ∀ continuation ∈ p.held, spent ≠ some continuation → continuation ∈ q.held)
    (reported : ∀ run origin, .report run origin ∈ q.calls → .report run origin ∈ p.calls)
    (run : Nat) (origin : Origin) {move : Run η β Ref → Run η β Ref × Effect η β Ref}
    (tells : ∀ state, Tells state (move state)) :
    Carries p spent (q.drive run origin move) := by
  cases there : q.dispatches[run]? with
  | none =>
      simp only [drive, there]
      exact carries_of_calm rfl kept reported
  | some dispatch =>
      rw [drive_eq there]
      have inside : run < q.dispatches.size := (Array.getElem?_eq_some_iff.mp there).1
      let moved : Dispatch η β κ := { dispatch with run := (move dispatch.run).1 }
      have carries := carries_perform { q with dispatches := q.dispatches.setIfInBounds run moved } run
        origin (move dispatch.run).2 fun reports => by
          rw [outcome, Array.getElem?_setIfInBounds_self_of_lt inside, Option.bind_some,
            (tells dispatch.run).outcome_eq, (tells dispatch.run).unsettled reports, Option.none_or]
          exact reports
      exact ⟨fun continuation member unspent =>
          carries.kept continuation (kept continuation member unspent)
            (Option.some_ne_none continuation).symm,
        fun other origin member => (carries.reported other origin member).imp_left
          (reported other origin),
        carries.handed⟩

end

section

variable (p : Processor η β κ)

/-- A request that puts code in control which is neither a plugin nor a callback. -/
theorem carries_reply (answer : Except Error Answer) : Carries p none (p.reply answer) :=
  carries_of_calm rfl (fun _ member _ => member) fun _ _ member => member

theorem carries_dispatch (tree : Ref) (listener : Listener κ) :
    Carries p none (p.dispatch tree listener) := by
  let state : Run η β Ref := initial p.attachments.registry.plugins tree
  exact carries_drive p { p with dispatches := p.dispatches.push ⟨state, listener⟩ }
    (fun _ member _ => member) (fun _ _ member => member) _ _ tells_advance

theorem carries_read (text : String) (purpose : Purpose κ) :
    Carries p none (p.read text purpose) :=
  carries_of_calm rfl (fun _ member _ => member) fun _ _ member => by simpa using member

theorem carries_attach (plugin : Plugin η β) : Carries p none (p.attach plugin) := by
  unfold attach
  split
  · exact p.carries_reply _
  · simp only
    split
    · exact carries_of_calm rfl (fun _ member _ => member) fun _ _ member => by simpa using member
    · exact carries_of_calm rfl (fun _ member _ => member) fun _ _ member => member

theorem carries_build (purpose : Purpose κ) (result : Except Error Cst) :
    Carries p none (p.build purpose result) := by
  unfold build
  split
  · exact p.carries_reply _
  · rename_i tree _
    have planted : ∀ listener, Carries p none
        (Processor.dispatch { p with store := (p.store.plant tree).1 } (p.store.plant tree).2
          listener) := fun listener =>
      (carries_dispatch _ _ _).of_same rfl fun _ _ member => member
    cases purpose with
    | build => exact carries_of_calm rfl (fun _ member _ => member) fun _ _ member => member
    | parse callback => exact planted _
    | process => exact planted _

theorem carries_leave (result : Except Error Unit) : Carries p none (p.leave result) := by
  unfold leave
  split
  · exact p.carries_reply _
  · rename_i call calls top
    have popped : ∀ run origin, .report run origin ∈ calls → .report run origin ∈ p.calls :=
      fun _ _ member => top ▸ List.mem_cons_of_mem _ member
    refine Carries.of_same (q := { p with calls := calls }) ?_ rfl popped
    cases call with
    | parser purpose => exact carries_reply _ _
    | hook => exact carries_reply _ _
    | turn run step origin =>
        exact carries_drive _ _ (fun _ member _ => member) (fun _ _ member => member) _ _
          fun state => tells_returned state result
    | report run origin =>
        rcases rest_eq { p with calls := calls } run origin with ⟨answer, rested⟩
        simp only [rested]
        exact carries_reply _ _

/-- No request loses a continuation but the one it uses up. -/
theorem carries_serve (request : Request η β κ) : Carries p request.spent (p.serve request) := by
  have erased : ∀ spent continuation, continuation ∈ p.held → some spent ≠ some continuation →
      continuation ∈ p.held.erase spent := fun spent continuation member unspent =>
    (List.mem_erase_of_ne fun same => unspent (congrArg some same.symm)).mpr member
  cases request with
  | build text => exact p.carries_read text _
  | process text => exact p.carries_read text _
  | parse text callback =>
      cases callback with
      | none => exact p.carries_reply _
      | some callback => exact p.carries_read text _
  | run tree callback =>
      cases callback with
      | none => exact p.carries_reply _
      | some callback => exact p.carries_dispatch tree _
  | processTree tree => exact p.carries_dispatch tree _
  | signal continuation signal =>
      simp only [serve, call]
      split
      · exact carries_drive p { p with held := p.held.erase continuation } (erased continuation)
          (fun _ _ member => member) _ _ fun state => tells_signal state _ signal
      · exact carries_of_calm rfl (fun _ member _ => member) fun _ _ member => member
  | drop continuation => exact carries_of_calm rfl (erased continuation) fun _ _ member => member
  | attach plugin => exact p.carries_attach plugin
  | attachNamed name =>
      simp only [serve, attachNamed]
      cases p.attachments.resolve name with
      | error error => exact p.carries_reply _
      | ok resolved =>
          simp only
          cases resolved.1.plugin? resolved.2 with
          | none => exact carries_of_calm rfl (fun _ member _ => member) fun _ _ member => member
          | some plugin => exact (carries_attach _ plugin).of_same rfl fun _ _ member => member
  | attachNew name options =>
      simp only [serve, attachNew]
      cases p.attachments.create name options with
      | error error => exact p.carries_reply _
      | ok created => exact (carries_attach _ created.2).of_same rfl fun _ _ member => member
  | parsed result =>
      simp only [serve]
      split
      · rename_i purpose calls top
        exact (carries_build _ purpose result).of_same rfl fun _ _ member =>
          top ▸ List.mem_cons_of_mem _ member
      · exact p.carries_reply _
  | returned result => exact p.carries_leave result

end

/-! ## Continuations in a history -/

/-- A continuation that is held is dropped by one of the acts. -/
def Drops (p : Processor η β κ) (acts : List (Act η β κ)) (continuation : Continuation) : Prop :=
  ∃ earlier later, acts = earlier ++ .request (.drop continuation) :: later ∧
    continuation ∈ (p.after earlier).held

theorem Drops.cons {p : Processor η β κ} {act : Act η β κ} {acts : List (Act η β κ)}
    {continuation : Continuation} (drops : (p.act act).Drops acts continuation) :
    p.Drops (act :: acts) continuation := by
  rcases drops with ⟨earlier, later, split, member⟩
  exact ⟨act :: earlier, later, congrArg (act :: ·) split, member⟩

/-- What becomes of a continuation: it is held still, it has been called, or it has been dropped. -/
inductive Fate (p : Processor η β κ) (acts : List (Act η β κ)) (continuation : Continuation) : Prop where
  | held (member : continuation ∈ (p.after acts).held)
  | called (signal : Signal Ref) (call : .called continuation.step signal ∈
      p.story continuation.run acts)
  | dropped (drops : p.Drops acts continuation)

theorem Fate.cons {p : Processor η β κ} {act : Act η β κ} {acts : List (Act η β κ)}
    {continuation : Continuation} (fate : (p.act act).Fate acts continuation) :
    p.Fate (act :: acts) continuation := by
  cases fate with
  | held member => exact .held member
  | called signal call => exact .called signal (List.mem_append_right _ call)
  | dropped drops => exact .dropped drops.cons

/-- A continuation that is held stays held until it is called or dropped. -/
theorem fate_of_held {p : Processor η β κ} {continuation : Continuation}
    (member : continuation ∈ p.held) (acts : List (Act η β κ)) : p.Fate acts continuation := by
  induction acts generalizing p with
  | nil => exact .held member
  | cons act rest inductionHypothesis =>
      cases act with
      | edit store => exact (inductionHypothesis (p := p.act (.edit store)) member).cons
      | define definition => exact (inductionHypothesis (p := p.act (.define definition)) member).cons
      | request request =>
          by_cases spent : request.spent = some continuation
          · cases request with
            | drop other =>
                cases Option.some.inj spent
                exact .dropped ⟨[], rest, rfl, member⟩
            | signal other signal =>
                cases Option.some.inj spent
                refine .called signal (List.mem_append_left _ (List.mem_append_left _ ?_))
                simp only [heard, member, true_and, if_true]
                exact List.mem_singleton_self _
            | _ => cases spent
          · have kept := (p.carries_serve request).kept continuation member spent
            exact (inductionHypothesis (p := p.act (.request request)) kept).cons

/-- No start is heard from the code around a run. -/
theorem started_notMem_heard (p : Processor η β κ) (request : Request η β κ) {run step : Nat}
    {plugin : Plugin η β} {tree : Ref} : .started step plugin tree ∉ p.heard request run := by
  intro member
  unfold heard at member
  split at member
  · split at member <;> simp at member
  · split at member
    · split at member <;> simp at member
    · simp at member
  · split at member
    · split at member <;> simp at member
    · simp at member

/-- The start of a plugin is shown. -/
theorem shown_of_started {p : Processor η β κ} {request : Request η β κ} {run step : Nat}
    {plugin : Plugin η β} {tree : Ref}
    (start : .started step plugin tree ∈ p.events run (.request request)) :
    .started step plugin tree ∈ (p.serve request).1.shown (p.serve request).2 run := by
  rcases List.mem_append.mp start with heard | answered
  · exact absurd heard (started_notMem_heard p request)
  · rcases List.mem_append.mp answered with shown | settled
    · exact shown
    · unfold settles at settled
      split at settled <;> simp at settled

/-- An async plugin is handed its continuation when it is started. -/
theorem held_of_started {p : Processor η β κ} {act : Act η β κ} {run step : Nat}
    {plugin : Plugin η β} {tree : Ref} (start : .started step plugin tree ∈ p.events run act)
    (async : plugin.isAsync = true) : ⟨run, step⟩ ∈ (p.act act).held := by
  cases act with
  | edit store => cases start
  | define definition => cases start
  | request request =>
      exact (p.carries_serve request).handed run step plugin tree (shown_of_started start) async

/-- What becomes of the continuation of an async plugin that has been started. -/
theorem fate_of_started {p : Processor η β κ} {acts : List (Act η β κ)} {run step : Nat}
    {plugin : Plugin η β} {tree : Ref} (start : .started step plugin tree ∈ p.story run acts)
    (async : plugin.isAsync = true) : p.Fate acts ⟨run, step⟩ := by
  induction acts generalizing p with
  | nil => cases start
  | cons act rest inductionHypothesis =>
      rcases List.mem_append.mp start with now | later
      · exact (fate_of_held (held_of_started now async) rest).cons
      · exact (inductionHypothesis later).cons

end Processor
end Prose

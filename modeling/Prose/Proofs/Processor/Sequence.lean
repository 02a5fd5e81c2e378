import Prose.Proofs.Pipeline.Sequence
import Prose.Proofs.Processor.InFlight

namespace Prose
namespace Processor

open Story Run

/-!
# The results of runs

The callback of a run is given what the plugins of the run come to one after the other, whatever else
happens on the processor and whenever continuations are called.  `Sequential` says so of a run after a
history.  Its last part compares two histories, which may have nothing in common but the plugins, the
tree and the first signal of each step.
-/

variable {η β κ : Type}

/-- A run of a processor is abreast of its story, if there is such a run. -/
def Abreast (p : Processor η β κ) (acts : List (Act η β κ)) (run : Nat) : Prop :=
  ∀ dispatch, (p.after acts).dispatches[run]? = some dispatch →
    Run.Abreast (p.story run acts) dispatch.run

/-- A run that was opened with some plugins over a tree does after a history what the plugins do one
after the other. -/
structure Sequential (p : Processor η β κ) (acts : List (Act η β κ)) (run : Nat)
    (plugins : List (Plugin η β)) (tree : Ref) : Prop where
  /-- A settled run has started the plugins that their course starts, each with the same tree, and has
  the result of the course. -/
  settled : ∀ result, (p.after acts).outcome run = some result →
    course (verdict (p.story run acts)) 0 plugins tree = ⟨starts (p.story run acts), some result⟩
  /-- The callback of a settled run has been given the result. -/
  told : ∀ callback result, (p.after acts).listener run = some (.callback callback) →
    (p.after acts).outcome run = some result → p.reports run acts = [(callback, result)]
  /-- A run that is not settled does not have a result because its course has none. -/
  abreast : Abreast p acts run →
    course (verdict (p.story run acts)) 0 plugins tree =
      ⟨starts (p.story run acts), (p.after acts).outcome run⟩
  /-- At any time, the plugins have been started that the course starts first. -/
  begun : starts (p.story run acts) <+: (course (verdict (p.story run acts)) 0 plugins tree).starts
  /-- If the continuation of the plugin in its turn is called, and the plugin then returns without an
  error, the run comes to the same as if the plugin returned first. -/
  deferred : ∀ dispatch, (p.after acts).dispatches[run]? = some dispatch →
    dispatch.run.active = some dispatch.run.cursor → dispatch.run.outcome = none →
    dispatch.run.isAsync dispatch.run.cursor = true → ∀ signal,
      let inline := dispatch.run.signal dispatch.run.cursor signal
      let deferred := dispatch.run.returned (.ok ())
      (inline.1.returned (.ok ())).1 = (deferred.1.signal dispatch.run.cursor signal).1 ∧
        inline.2.events ++ (inline.1.returned (.ok ())).2.events =
          deferred.2.events ++ (deferred.1.signal dispatch.run.cursor signal).2.events
  /-- In another history, a run of the same plugins over the same tree starts the same plugins with the
  same trees and comes to the same result, if the first signals of the steps are the same. -/
  timely : ∀ (model : Model) (store : Store) (attachments : Attachments η β)
    (others : List (Act η β κ)) (other : Nat) (rest : List (Event η β Ref)),
    (fresh model store attachments).story other others = .opened plugins tree :: rest →
    (∀ step plugin, plugins[step]? = some plugin →
      verdict ((fresh model store attachments).story other others) step plugin =
        verdict (p.story run acts) step plugin) →
    Abreast p acts run → Abreast (fresh model store attachments) others other →
      starts ((fresh model store attachments).story other others) = starts (p.story run acts) ∧
        ((fresh model store attachments).after others).outcome other = (p.after acts).outcome run

section

variable {p : Processor η β κ} {stories : Nat → List (Event η β Ref)}
variable {reports : Nat → List (κ × Except Error Ref)} {run : Nat} {plugins : List (Plugin η β)}
variable {tree : Ref} {rest : List (Event η β Ref)}

/-- A run whose story begins with its opening is there, and is in accord with its story. -/
theorem Consistent.of_opened (consistent : Consistent p stories reports)
    (opened : stories run = .opened plugins tree :: rest) :
    ∃ dispatch, p.dispatches[run]? = some dispatch ∧
      Accords (stories run) plugins tree dispatch.run := by
  cases there : p.dispatches[run]? with
  | none =>
      rw [(consistent.absent run there).1] at opened
      cases opened
  | some dispatch =>
      rcases consistent.accords run dispatch there with ⟨plugins', tree', rest', opened', accords⟩
      rw [opened, List.cons.injEq, Event.opened.injEq] at opened'
      rcases opened' with ⟨⟨rfl, rfl⟩, _⟩
      exact ⟨dispatch, rfl, accords⟩

end

/-- A settled run is abreast of its story. -/
theorem abreast_of_outcome {p : Processor η β κ} {acts : List (Act η β κ)} {run : Nat}
    {result : Except Error Ref} (settled : (p.after acts).outcome run = some result) :
    Abreast p acts run := by
  intro dispatch there
  rw [outcome, there, Option.bind_some] at settled
  exact abreast_of_settled settled

/-- A run that is abreast of its story after a history is at the end of the course of its plugins so
far. -/
theorem course_of_abreast {model : Model} {store : Store} {attachments : Attachments η β}
    {acts : List (Act η β κ)} {run : Nat} {plugins : List (Plugin η β)} {tree : Ref}
    {rest : List (Event η β Ref)}
    (opened : (fresh model store attachments).story run acts = .opened plugins tree :: rest)
    (abreast : Abreast (fresh model store attachments) acts run) :
    course (verdict ((fresh model store attachments).story run acts)) 0 plugins tree =
      ⟨starts ((fresh model store attachments).story run acts),
        ((fresh model store attachments).after acts).outcome run⟩ := by
  rcases (consistent_after model store attachments acts).of_opened opened with
    ⟨dispatch, there, accords⟩
  rw [outcome, there, Option.bind_some]
  exact accords.course_eq (abreast dispatch there)

/-- After every history, a run does what its plugins do one after the other. -/
theorem sequential_after {model : Model} {store : Store} {attachments : Attachments η β}
    {acts : List (Act η β κ)} {run : Nat} {plugins : List (Plugin η β)} {tree : Ref}
    {rest : List (Event η β Ref)}
    (opened : (fresh model store attachments).story run acts = .opened plugins tree :: rest) :
    Sequential (fresh model store attachments) acts run plugins tree := by
  have consistent := consistent_after model store attachments acts
  rcases consistent.of_opened opened with ⟨dispatch, there, accords⟩
  constructor
  case settled =>
    intro result settled
    rw [course_of_abreast opened (abreast_of_outcome settled), settled]
  case told =>
    intro callback result known settled
    rcases Option.map_eq_some_iff.mp known with ⟨dispatch, there, listener⟩
    rw [consistent.reported run dispatch there, consistent.results_eq, settled, listener]
    rfl
  case abreast => exact course_of_abreast opened
  case begun => exact accords.starts_prefix
  case deferred =>
    exact fun dispatch _ active unsettled async => signal_returned_comm active unsettled async
  case timely =>
    intro model' store' attachments' others other rest' opened' same abreast abreast'
    have courses : course (verdict ((fresh model' store' attachments').story other others)) 0
        plugins tree =
        course (verdict ((fresh model store attachments).story run acts)) 0 plugins tree := by
      refine course_congr fun place plugin there => ?_
      rw [Nat.zero_add]
      exact same place plugin there
    rw [course_of_abreast opened abreast, course_of_abreast opened' abreast'] at courses
    exact ⟨congrArg Course.starts courses, congrArg Course.result courses⟩

/-! ### A deferred call -/

/-- The first plugin replaces the tree and returns; then the second plugin and the callback return. -/
def replaceInline : List (Act Unit Unit Unit) :=
  attachAndRun ++ [.request (.signal ⟨0, 0⟩ (.replace 9)), .request (.returned (.ok ())),
    .request (.returned (.ok ())), .request (.returned (.ok ()))]

/-- The first plugin returns, and the tree is replaced later. -/
def replaceDeferred : List (Act Unit Unit Unit) :=
  attachAndRun ++ [.request (.returned (.ok ())), .request (.signal ⟨0, 0⟩ (.replace 9)),
    .request (.returned (.ok ())), .request (.returned (.ok ()))]

/-- The second plugin is given the same tree, and the result is the same. -/
theorem sequential_after_replaceInline :
    starts (blank.story 0 replaceDeferred) = starts (blank.story 0 replaceInline) ∧
      (blank.after replaceDeferred).outcome 0 = (blank.after replaceInline).outcome 0 ∧
      (blank.after replaceInline).outcome 0 = some (.ok 9) := by
  have settled : (blank.after replaceInline).outcome 0 = some (.ok 9) := rfl
  have settled' : (blank.after replaceDeferred).outcome 0 = some (.ok 9) := rfl
  have sequential : Sequential blank replaceInline 0 [patient, prompt] 7 := sequential_after rfl
  obtain ⟨starts_eq, outcome_eq⟩ := sequential.timely _ _ _ replaceDeferred 0 _ rfl
    (fun step plugin there => by
      match step with
      | 0 => cases there; rfl
      | 1 => cases there; rfl
      | _ + 2 => cases there)
    (abreast_of_outcome settled) (abreast_of_outcome settled')
  exact ⟨starts_eq, outcome_eq, settled⟩

end Processor
end Prose

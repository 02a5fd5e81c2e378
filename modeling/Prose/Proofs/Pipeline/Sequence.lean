import Prose.Proofs.Pipeline.Moves

namespace Prose

/-!
# Runs and the course of their plugins

A run that goes on when a continuation is called and one that goes on when a plugin returns come to
the same: what the plugins come to if they are gone through in order.
-/

namespace Story

variable {η β ν : Type}

/-- A course depends on the verdicts of the steps that it goes through only. -/
theorem course_congr {verdict verdict' : Nat → Plugin η β → Option (Signal ν)} {step : Nat}
    {plugins : List (Plugin η β)} {tree : ν}
    (same : ∀ place plugin, plugins[place]? = some plugin →
      verdict (step + place) plugin = verdict' (step + place) plugin) :
    course verdict step plugins tree = course verdict' step plugins tree := by
  induction plugins generalizing step tree with
  | nil => rfl
  | cons plugin rest inductionHypothesis =>
      have first : verdict step plugin = verdict' step plugin := same 0 plugin rfl
      have others : ∀ place plugin, rest[place]? = some plugin →
          verdict (step + 1 + place) plugin = verdict' (step + 1 + place) plugin := by
        intro place plugin there
        rw [Nat.add_assoc, Nat.add_comm 1 place]
        exact same (place + 1) plugin there
      cases given : verdict step plugin with
      | none => rw [course_cons_of_none given, course_cons_of_none (first ▸ given)]
      | some signal =>
          cases applied : signal.apply tree with
          | error error =>
              rw [course_cons_of_error given applied, course_cons_of_error (first ▸ given) applied]
          | ok next =>
              rw [course_cons_of_ok given applied, course_cons_of_ok (first ▸ given) applied,
                inductionHypothesis others]

end Story

namespace Run

open Story

variable {η β ν : Type} {run : Run η β ν} {plugins : List (Plugin η β)} {tree : ν}
variable {story : List (Event η β ν)}

/-- A run is abreast of its story unless the plugin in its turn has completed its step already.  Then it
has to return before the run goes on. -/
def Abreast (story : List (Event η β ν)) (run : Run η β ν) : Prop :=
  run.outcome = none → ∀ step plugin, run.active = some step → run.plugins[step]? = some plugin →
    verdict story step plugin = none

theorem abreast_of_settled {result : Except Error ν} (settled : run.outcome = some result) :
    Abreast story run := by
  intro unsettled
  rw [settled] at unsettled
  cases unsettled

theorem abreast_of_idle (idle : run.active = none) : Abreast story run := by
  intro _ step plugin active
  rw [idle] at active
  cases active

/-- A run that is abreast of its story has started the plugins that their course starts, and has the
result that the course has. -/
theorem Accords.course_eq (accords : Accords story plugins tree run) (abreast : Abreast story run) :
    course (verdict story) 0 plugins tree = ⟨starts story, run.outcome⟩ := by
  rcases accords with ⟨plugins_eq, _, _, before, passed, stage⟩
  cases stage with
  | turn _ unsettled here awaited started =>
      rw [started, unsettled]
      exact passed.course_of_none (plugins_eq ▸ here) awaited
  | waiting _ unsettled here _ _ awaited started =>
      rw [started, unsettled]
      exact passed.course_of_none (plugins_eq ▸ here) awaited
  | failed outcome _ here given started =>
      rw [started, outcome]
      exact passed.course_of_fail (plugins_eq ▸ here) given
  | finished outcome _ last started =>
      rw [started, outcome]
      exact passed.course_of_end (plugins_eq ▸ last)
  | ahead active unsettled here _ moved _ =>
      -- The step of the plugin in its turn has been passed, so it has a verdict.
      rcases passed.success_of_lt (Nat.lt_of_succ_le (Nat.le_of_eq moved.symm)) with
        ⟨plugin, signal, there, given, _⟩
      rw [← plugins_eq, here, Option.some_inj] at there
      subst there
      rw [abreast unsettled _ _ active here] at given
      cases given

/-- A run starts plugins as their course does, though perhaps not all of them yet. -/
theorem Accords.starts_prefix (accords : Accords story plugins tree run) :
    starts story <+: (course (verdict story) 0 plugins tree).starts := by
  by_cases abreast : Abreast story run
  · rewrite [accords.course_eq abreast]
    exact List.prefix_rfl
  · rcases accords with ⟨_, _, _, before, passed, stage⟩
    cases stage with
    | ahead _ _ _ _ _ started =>
        rw [started, passed.course_eq]
        exact List.prefix_append _ _
    | waiting idle => exact absurd (abreast_of_idle idle) abreast
    | failed outcome => exact absurd (abreast_of_settled outcome) abreast
    | finished outcome => exact absurd (abreast_of_settled outcome) abreast
    | turn active unsettled here awaited =>
        refine absurd (fun _ step plugin active' here' => ?_) abreast
        rw [active, Option.some_inj] at active'
        subst active'
        rw [here, Option.some_inj] at here'
        exact here' ▸ awaited

/-- Whether the continuation is called while the plugin is in its turn or right after it has returned
makes no difference to the run and to what it asks for. -/
theorem signal_returned_comm (active : run.active = some run.cursor) (unsettled : run.outcome = none)
    (async : run.isAsync run.cursor = true) (signal : Signal ν) :
    let inline := run.signal run.cursor signal
    let deferred := run.returned (.ok ())
    (inline.1.returned (.ok ())).1 = (deferred.1.signal run.cursor signal).1 ∧
      inline.2.events ++ (inline.1.returned (.ok ())).2.events =
        deferred.2.events ++ (deferred.1.signal run.cursor signal).2.events := by
  intro inline deferred
  let idle : Run η β ν := { run with active := none }
  have idle_unsettled : idle.outcome = none := unsettled
  have deferred_eq : deferred = (idle, .rest) := returned_ok_of_async active async
  cases applied : signal.apply run.tree with
  | ok next =>
      let moved : Run η β ν := { run with tree := next, cursor := run.cursor + 1 }
      have inline_eq : inline = (moved, .rest) :=
        (signal_of_ok unsettled applied).trans (complete_of_active { run with tree := next } active)
      have moved_active : moved.active = some run.cursor := active
      have returned : inline.1.returned (.ok ()) = { moved with active := none }.advance := by
        rw [inline_eq]
        exact returned_of_moved moved_active async (Nat.succ_ne_self run.cursor) (.ok ())
      have called : deferred.1.signal run.cursor signal = { moved with active := none }.advance := by
        rw [deferred_eq]
        exact (signal_of_ok idle_unsettled applied).trans
          (complete_of_idle { idle with tree := next } rfl)
      rw [returned, called, inline_eq, deferred_eq]
      exact ⟨rfl, rfl⟩
  | error error =>
      cases signal with
      | resume => cases applied
      | replace tree => cases applied
      | fail error =>
          let failed : Run η β ν := { run with outcome := some (.error error) }
          have inline_eq : inline = (failed, .settle (.error error)) :=
            (signal_of_fail unsettled error).trans (settle_of_unsettled unsettled (.error error))
          have failed_active : failed.active = some failed.cursor := active
          have returned : inline.1.returned (.ok ()) = ({ failed with active := none }, .rest) := by
            rw [inline_eq]
            exact returned_ok_of_async failed_active async
          have called : deferred.1.signal run.cursor (.fail error) =
              ({ failed with active := none }, .settle (.error error)) := by
            rw [deferred_eq]
            exact (signal_of_fail idle_unsettled error).trans
              (settle_of_unsettled idle_unsettled (.error error))
          rw [returned, called, inline_eq, deferred_eq]
          exact ⟨rfl, rfl⟩

end Run
end Prose

import Prose.Pipeline.Run

namespace Prose

/-!
# The story of a run

A story lists what happens to one run in the order in which it happens: it is opened, its plugins are
started, they return, their continuations are called, and it is settled.

A step is completed by the first of its signals.  A sync plugin has one, its return.  An async plugin
has two, a return with an error and a call of its continuation; that it returns without an error is no
signal.  `verdict` is the first signal of a step in a story.

`course` is what plugins come to if they are simply gone through in order, each step ending as its
verdict says: the plugins that start, each with the tree it is given, and the result.  The course knows
nothing of cursors, of plugins in their turn and of the time at which a signal arrives.
-/

namespace Signal

variable {ν : Type}

def apply : Signal ν → ν → Except Error ν
  | .resume, tree => .ok tree
  | .replace tree, _ => .ok tree
  | .fail error, _ => .error error

/-- Whether a step that a signal completes has been completed successfully. -/
def succeeds : Signal ν → Bool
  | .fail _ => false
  | _ => true

theorem succeeds_of_apply {signal : Signal ν} {tree next : ν}
    (applied : signal.apply tree = .ok next) : signal.succeeds = true := by
  cases signal with
  | resume => rfl
  | replace other => rfl
  | fail error => cases applied

end Signal

namespace Story

variable {η β ν : Type}

/-- Something that happens to a run. -/
inductive Event (η β ν : Type) where
  /-- The run is opened with the plugins attached then, over a tree. -/
  | opened (plugins : List (Plugin η β)) (tree : ν)
  /-- The plugin of a step is started with a tree. -/
  | started (step : Nat) (plugin : Plugin η β) (tree : ν)
  /-- The plugin of a step returns. -/
  | returned (step : Nat) (result : Except Error Unit)
  /-- The continuation of a step is called. -/
  | called (step : Nat) (signal : Signal ν)
  /-- The run has its result. -/
  | settled (result : Except Error ν)

/-- A start of a plugin. -/
structure Start (η β ν : Type) where
  step : Nat
  plugin : Plugin η β
  tree : ν

namespace Event

def start? : Event η β ν → Option (Start η β ν)
  | .started step plugin tree => some ⟨step, plugin, tree⟩
  | _ => none

/-- The result that a run gets by an event. -/
def result? : Event η β ν → Option (Except Error ν)
  | .settled result => some result
  | _ => none

/-- The signal that an event is for the step of a plugin. -/
def signal? (step : Nat) (plugin : Plugin η β) : Event η β ν → Option (Signal ν)
  | .returned other (.error error) => if other = step then some (.fail error) else none
  | .returned other (.ok _) => if other = step ∧ plugin.isAsync = false then some .resume else none
  | .called other signal => if other = step ∧ plugin.isAsync = true then some signal else none
  | _ => none

end Event

def starts (story : List (Event η β ν)) : List (Start η β ν) := story.filterMap Event.start?

def results (story : List (Event η β ν)) : List (Except Error ν) := story.filterMap Event.result?

def signals (story : List (Event η β ν)) (step : Nat) (plugin : Plugin η β) : List (Signal ν) :=
  story.filterMap (Event.signal? step plugin)

/-- The signal that completes a step, if there is one. -/
def verdict (story : List (Event η β ν)) (step : Nat) (plugin : Plugin η β) : Option (Signal ν) :=
  (signals story step plugin).head?

theorem starts_append (story more : List (Event η β ν)) :
    starts (story ++ more) = starts story ++ starts more := List.filterMap_append

theorem results_append (story more : List (Event η β ν)) :
    results (story ++ more) = results story ++ results more := List.filterMap_append

theorem verdict_append (story more : List (Event η β ν)) (step : Nat) (plugin : Plugin η β) :
    verdict (story ++ more) step plugin =
      (verdict story step plugin).or (verdict more step plugin) := by
  simp only [verdict, signals, List.filterMap_append, List.head?_append]

theorem verdict_singleton (event : Event η β ν) (step : Nat) (plugin : Plugin η β) :
    verdict [event] step plugin = event.signal? step plugin := by
  simp only [verdict, signals, List.filterMap_cons, List.filterMap_nil]
  cases event.signal? step plugin with
  | none => rfl
  | some signal => rfl

/-- A verdict stays, whatever happens later. -/
theorem verdict_append_of_some {story : List (Event η β ν)} {step : Nat} {plugin : Plugin η β}
    {signal : Signal ν} (given : verdict story step plugin = some signal)
    (more : List (Event η β ν)) : verdict (story ++ more) step plugin = some signal := by
  rw [verdict_append, given, Option.some_or]

/-- A step without a verdict gets that of the next event. -/
theorem verdict_snoc_of_none {story : List (Event η β ν)} {step : Nat} {plugin : Plugin η β}
    (awaited : verdict story step plugin = none) (event : Event η β ν) :
    verdict (story ++ [event]) step plugin = event.signal? step plugin := by
  rw [verdict_append, awaited, Option.none_or, verdict_singleton]

/-! ## The course of plugins -/

/-- The plugins that are started, and the result unless a step is never completed. -/
structure Course (η β ν : Type) where
  starts : List (Start η β ν)
  result : Option (Except Error ν)

/-- The course of plugins from a step on, gone through in order with the tree that each leaves. -/
def course (verdict : Nat → Plugin η β → Option (Signal ν)) :
    Nat → List (Plugin η β) → ν → Course η β ν
  | _, [], tree => ⟨[], some (.ok tree)⟩
  | step, plugin :: rest, tree =>
    let following : Course η β ν :=
      match verdict step plugin with
      | none => ⟨[], none⟩
      | some signal =>
        match signal.apply tree with
        | .error error => ⟨[], some (.error error)⟩
        | .ok next => course verdict (step + 1) rest next
    ⟨⟨step, plugin, tree⟩ :: following.starts, following.result⟩

section

variable {verdict : Nat → Plugin η β → Option (Signal ν)} {plugins : List (Plugin η β)}
variable {tree : ν}

theorem course_cons_of_none {step : Nat} {plugin : Plugin η β}
    (awaited : verdict step plugin = none) :
    course verdict step (plugin :: plugins) tree = ⟨[⟨step, plugin, tree⟩], none⟩ := by
  simp only [course, awaited]

theorem course_cons_of_error {step : Nat} {plugin : Plugin η β} {signal : Signal ν} {error : Error}
    (given : verdict step plugin = some signal) (failed : signal.apply tree = .error error) :
    course verdict step (plugin :: plugins) tree =
      ⟨[⟨step, plugin, tree⟩], some (.error error)⟩ := by
  simp only [course, given, failed]

theorem course_cons_of_ok {step : Nat} {plugin : Plugin η β} {signal : Signal ν} {next : ν}
    (given : verdict step plugin = some signal) (applied : signal.apply tree = .ok next) :
    course verdict step (plugin :: plugins) tree =
      ⟨⟨step, plugin, tree⟩ :: (course verdict (step + 1) plugins next).starts,
        (course verdict (step + 1) plugins next).result⟩ := by
  simp only [course, given, applied]

/-- All steps in front of a step have been completed successfully: with the tree after them, and the
starts of their plugins. -/
inductive Passed (verdict : Nat → Plugin η β → Option (Signal ν)) (plugins : List (Plugin η β))
    (tree : ν) : Nat → ν → List (Start η β ν) → Prop where
  | zero : Passed verdict plugins tree 0 tree []
  | succ {step : Nat} {plugin : Plugin η β} {signal : Signal ν} {now next : ν}
      {before : List (Start η β ν)} (passed : Passed verdict plugins tree step now before)
      (here : plugins[step]? = some plugin) (given : verdict step plugin = some signal)
      (applied : signal.apply now = .ok next) :
      Passed verdict plugins tree (step + 1) next (before ++ [⟨step, plugin, now⟩])

namespace Passed

variable {step : Nat} {now : ν} {before : List (Start η β ν)}

/-- Later verdicts do not change what has been passed. -/
theorem mono {later : Nat → Plugin η β → Option (Signal ν)}
    (passed : Passed verdict plugins tree step now before)
    (keeps : ∀ step plugin signal, verdict step plugin = some signal →
      later step plugin = some signal) :
    Passed later plugins tree step now before := by
  induction passed with
  | zero => exact .zero
  | succ _ here given applied inductionHypothesis =>
      exact .succ inductionHypothesis here (keeps _ _ _ given) applied

theorem length_eq (passed : Passed verdict plugins tree step now before) :
    before.length = step := by
  induction passed with
  | zero => rfl
  | succ _ _ _ _ inductionHypothesis =>
      rw [List.length_append, inductionHypothesis, List.length_singleton]

/-- A step that has been passed has a verdict, and a successful one. -/
theorem success_of_lt (passed : Passed verdict plugins tree step now before) {earlier : Nat}
    (less : earlier < step) :
    ∃ plugin signal, plugins[earlier]? = some plugin ∧ verdict earlier plugin = some signal ∧
      signal.succeeds = true := by
  induction passed with
  | zero => exact absurd less (Nat.not_lt_zero _)
  | @succ step plugin signal _ _ _ _ here given applied inductionHypothesis =>
      rcases Nat.lt_succ_iff_lt_or_eq.mp less with further | same
      · exact inductionHypothesis further
      · subst same
        exact ⟨plugin, signal, here, given, Signal.succeeds_of_apply applied⟩

/-- The plugins passed are those in front of the step, each once and in order. -/
theorem starts_eq (passed : Passed verdict plugins tree step now before) :
    before.map (fun start => (start.plugin, start.step)) = (plugins.take step).zipIdx := by
  induction passed with
  | zero => rfl
  | @succ step plugin _ _ _ before passed here _ _ inductionHypothesis =>
      have inside : step < plugins.length := (List.getElem?_eq_some_iff.mp here).1
      rw [List.map_append, inductionHypothesis, List.take_add_one, here, List.zipIdx_append,
        List.length_take, Nat.min_eq_left (Nat.le_of_lt inside)]
      simp

/-- The course of plugins goes through the steps that have been passed, and on from there. -/
theorem course_eq (passed : Passed verdict plugins tree step now before) :
    course verdict 0 plugins tree =
      ⟨before ++ (course verdict step (plugins.drop step) now).starts,
        (course verdict step (plugins.drop step) now).result⟩ := by
  induction passed with
  | zero => rfl
  | @succ step plugin signal now next before _ here given applied inductionHypothesis =>
      have split : plugins.drop step = plugin :: plugins.drop (step + 1) := by
        rw [List.drop_eq_getElem?_toList_append, here]
        rfl
      rw [inductionHypothesis, split, course_cons_of_ok given applied, List.append_assoc]
      rfl

/-- The course ends for now at a step that has no verdict. -/
theorem course_of_none {plugin : Plugin η β}
    (passed : Passed verdict plugins tree step now before) (here : plugins[step]? = some plugin)
    (awaited : verdict step plugin = none) :
    course verdict 0 plugins tree = ⟨before ++ [⟨step, plugin, now⟩], none⟩ := by
  rw [passed.course_eq, List.drop_eq_getElem?_toList_append, here]
  exact congrArg (fun course => (⟨before ++ course.starts, course.result⟩ : Course η β ν))
    (course_cons_of_none awaited)

/-- The course ends at a step that fails. -/
theorem course_of_fail {plugin : Plugin η β} {error : Error}
    (passed : Passed verdict plugins tree step now before) (here : plugins[step]? = some plugin)
    (given : verdict step plugin = some (.fail error)) :
    course verdict 0 plugins tree = ⟨before ++ [⟨step, plugin, now⟩], some (.error error)⟩ := by
  rw [passed.course_eq, List.drop_eq_getElem?_toList_append, here]
  exact congrArg (fun course => (⟨before ++ course.starts, course.result⟩ : Course η β ν))
    (course_cons_of_error given rfl)

/-- The course ends behind the last step. -/
theorem course_of_end (passed : Passed verdict plugins tree step now before)
    (last : plugins[step]? = none) :
    course verdict 0 plugins tree = ⟨before, some (.ok now)⟩ := by
  rw [passed.course_eq, List.drop_eq_nil_of_le (List.getElem?_eq_none_iff.mp last), course,
    List.append_nil]

end Passed

end

theorem Passed.snoc {story : List (Event η β ν)} {plugins : List (Plugin η β)} {tree now : ν}
    {step : Nat} {before : List (Start η β ν)}
    (passed : Passed (verdict story) plugins tree step now before) (event : Event η β ν) :
    Passed (verdict (story ++ [event])) plugins tree step now before :=
  passed.mono fun _ _ _ given => verdict_append_of_some given [event]

end Story
end Prose

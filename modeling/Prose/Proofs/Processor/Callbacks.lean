import Prose.Proofs.Processor.InFlight

namespace Prose

/-!
# Callbacks that have been given

A processor knows a callback if a run reports to it, or if a text is being parsed for it.  It gets to know
one only by a request that gives it, so a callback that is called has been given.
-/

/-- The callback that an act gives to a processor. -/
def Act.given {η β κ : Type} : Act η β κ → Option κ
  | .request (.parse _ callback) => callback
  | .request (.run _ callback) => callback
  | _ => none

namespace Processor

open Story

variable {η β κ : Type} {p q : Processor η β κ} {callback : κ}

def Knows (p : Processor η β κ) (callback : κ) : Prop :=
  (∃ run, p.listener run = some (.callback callback)) ∨ .parser (.parse callback) ∈ p.calls

/-- A processor with the same runs and no more calls of parsers knows no more callbacks. -/
theorem Knows.of_same (knows : q.Knows callback) (dispatches : q.dispatches = p.dispatches)
    (calls : ∀ purpose, .parser purpose ∈ q.calls → .parser purpose ∈ p.calls) : p.Knows callback := by
  rcases knows with ⟨run, listener⟩ | parser
  · exact Or.inl ⟨run, by rw [Processor.listener, ← dispatches]; exact listener⟩
  · exact Or.inr (calls _ parser)

/-! ## Requests -/

/-- Driving a run calls no parser. -/
theorem parser_drive {run : Nat} {origin : Origin} {move : Run η β Ref → Run η β Ref × Effect η β Ref}
    {purpose : Purpose κ} (parser : .parser purpose ∈ (p.drive run origin move).1.calls) :
    .parser purpose ∈ p.calls := by
  cases there : p.dispatches[run]? with
  | none =>
      rw [drive, there] at parser
      exact parser
  | some dispatch =>
      rw [drive_eq there] at parser
      let moved : Dispatch η β κ := { dispatch with run := (move dispatch.run).1 }
      rcases perform_cases { p with dispatches := p.dispatches.setIfInBounds run moved } run origin
        (move dispatch.run).2 with
        ⟨_, _, _, _, performed⟩ | ⟨_, _, _, _, performed⟩ | ⟨_, _, _, performed⟩
      · rw [performed] at parser
        exact (List.mem_cons.mp parser).resolve_left (by simp)
      · rw [performed] at parser
        exact (List.mem_cons.mp parser).resolve_left (by simp)
      · rw [performed] at parser
        exact parser

theorem knows_drive {run : Nat} {origin : Origin} {move : Run η β Ref → Run η β Ref × Effect η β Ref}
    (knows : (p.drive run origin move).1.Knows callback) : p.Knows callback := by
  rcases knows with ⟨other, listener⟩ | parser
  · exact Or.inl ⟨other, listener_drive p run origin move other ▸ listener⟩
  · exact Or.inr (parser_drive parser)

/-- A run that is opened makes its own callback known. -/
theorem knows_dispatch {tree : Ref} {listener : Listener κ}
    (knows : (p.dispatch tree listener).1.Knows callback) :
    p.Knows callback ∨ listener = .callback callback := by
  rw [dispatch] at knows
  rcases knows_drive knows with ⟨run, told⟩ | parser
  · rw [Processor.listener, Array.getElem?_push] at told
    split at told
    · exact Or.inr (Option.some.inj told)
    · exact Or.inl (Or.inl ⟨run, told⟩)
  · exact Or.inl (Or.inr parser)

/-- A text that is parsed for a callback makes it known. -/
theorem knows_read {purpose : Purpose κ} {text : String} (knows : (p.read text purpose).1.Knows callback) :
    p.Knows callback ∨ purpose = .parse callback := by
  rcases knows with listener | parser
  · exact Or.inl (Or.inl listener)
  · rcases List.mem_cons.mp parser with same | before
    · cases same
      exact Or.inr rfl
    · exact Or.inl (Or.inr before)

theorem knows_build {purpose : Purpose κ} {result : Except Error Cst}
    (knows : (p.build purpose result).1.Knows callback) :
    p.Knows callback ∨ purpose = .parse callback := by
  unfold build at knows
  split at knows
  · exact Or.inl knows
  · cases purpose with
    | build => exact Or.inl knows
    | parse other =>
        rcases knows_dispatch knows with before | same
        · exact Or.inl before
        · cases same
          exact Or.inr rfl
    | process =>
        rcases knows_dispatch knows with before | impossible
        · exact Or.inl before
        · cases impossible

theorem knows_attach {plugin : Plugin η β} (knows : (p.attach plugin).1.Knows callback) :
    p.Knows callback := by
  unfold attach at knows
  split at knows
  · exact knows
  · dsimp only at knows
    split at knows
    · exact knows.of_same rfl fun _ parser => (List.mem_cons.mp parser).resolve_left (by simp)
    · exact knows

theorem knows_leave {result : Except Error Unit} (knows : (p.leave result).1.Knows callback) :
    p.Knows callback := by
  unfold leave at knows
  split at knows
  · exact knows
  · rename_i call calls top
    have popped : ∀ purpose, .parser purpose ∈ calls → .parser purpose ∈ p.calls :=
      fun purpose parser => top ▸ List.mem_cons_of_mem call parser
    cases call with
    | parser purpose => exact knows.of_same rfl popped
    | hook => exact knows.of_same rfl popped
    | turn run step origin => exact (knows_drive knows).of_same rfl popped
    | report run origin =>
        rcases rest_eq { p with calls := calls } run origin with ⟨answer, rested⟩
        simp only [rested] at knows
        exact knows.of_same rfl popped

/-- A processor gets to know a callback only by an act that gives it. -/
theorem knows_act {act : Act η β κ} (knows : (p.act act).Knows callback) :
    p.Knows callback ∨ act.given = some callback := by
  cases act with
  | edit store => exact Or.inl knows
  | define definition => exact Or.inl knows
  | request request =>
      cases request with
      | build text => exact Or.inl ((knows_read knows).resolve_right (by simp))
      | process text => exact Or.inl ((knows_read knows).resolve_right (by simp))
      | parse text other =>
          cases other with
          | none => exact Or.inl knows
          | some other =>
              rcases knows_read knows with before | same
              · exact Or.inl before
              · cases same
                exact Or.inr rfl
      | run tree other =>
          cases other with
          | none => exact Or.inl knows
          | some other =>
              rcases knows_dispatch knows with before | same
              · exact Or.inl before
              · cases same
                exact Or.inr rfl
      | processTree tree => exact Or.inl ((knows_dispatch knows).resolve_right (by simp))
      | signal continuation signal =>
          simp only [Processor.act, serve, call] at knows
          split at knows
          · have before := knows_drive knows
            exact Or.inl before
          · exact Or.inl knows
      | drop continuation => exact Or.inl knows
      | attach plugin => exact Or.inl (knows_attach knows)
      | attachNamed name =>
          simp only [Processor.act, serve, attachNamed] at knows
          split at knows
          · exact Or.inl knows
          · split at knows
            · have before := knows_attach knows
              exact Or.inl before
            · exact Or.inl knows
      | attachNew name options =>
          simp only [Processor.act, serve, attachNew] at knows
          split at knows
          · exact Or.inl knows
          · have before := knows_attach knows
            exact Or.inl before
      | parsed result =>
          simp only [Processor.act, serve] at knows
          split at knows
          · rename_i purpose calls top
            rcases knows_build knows with before | same
            · exact Or.inl (before.of_same rfl fun _ parser => top ▸ List.mem_cons_of_mem _ parser)
            · exact Or.inl (Or.inr (top ▸ same ▸ List.mem_cons_self))
          · exact Or.inl knows
      | returned result => exact Or.inl (knows_leave knows)

/-! ## Histories -/

theorem knows_after {acts : List (Act η β κ)} (knows : (p.after acts).Knows callback) :
    p.Knows callback ∨ ∃ act ∈ acts, act.given = some callback := by
  induction acts generalizing p with
  | nil => exact Or.inl knows
  | cons act rest inductionHypothesis =>
      rcases inductionHypothesis knows with now | ⟨other, member, given⟩
      · rcases knows_act now with before | given
        · exact Or.inl before
        · exact Or.inr ⟨act, List.mem_cons_self, given⟩
      · exact Or.inr ⟨other, List.mem_cons_of_mem act member, given⟩

/-- A run whose callback has been called has that callback. -/
theorem Consistent.listener_of_reported {stories : Nat → List (Event η β Ref)}
    {reports : Nat → List (κ × Except Error Ref)} (consistent : Consistent p stories reports) {run : Nat}
    {result : Except Error Ref} (called : (callback, result) ∈ reports run) :
    ∃ dispatch, p.dispatches[run]? = some dispatch ∧ dispatch.listener = .callback callback ∧
      result ∈ results (stories run) := by
  cases there : p.dispatches[run]? with
  | none =>
      rw [(consistent.absent run there).2] at called
      cases called
  | some dispatch =>
      rw [consistent.reported run dispatch there] at called
      rcases dispatch with ⟨state, listener⟩
      cases listener with
      | caller => cases called
      | callback other =>
          rcases List.mem_map.mp called with ⟨value, member, same⟩
          cases same
          exact ⟨_, rfl, rfl, member⟩

end Processor
end Prose

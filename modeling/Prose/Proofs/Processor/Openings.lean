import Prose.Proofs.Processor.Entries
import Prose.Proofs.Processor.Resting

namespace Prose
namespace Processor

/-!
# The code that opened a run

A run goes on in the calls above the code that opened it, and control comes back to that code only by a
request that closes the run.
-/

open Story Run

variable {η β κ : Type}

/-- A call on behalf of the code that opened a run: that of a plugin in its turn, or of the callback. -/
inductive Opened (run : Nat) : Call κ → Prop where
  | turn (step : Nat) : Opened run (.turn run step .opening)
  | report : Opened run (.report run .opening)

/-- A run goes on in the calls above the code that opened it. -/
def Serves (p : Processor η β κ) (run : Nat) (below : List (Call κ)) : Prop :=
  ∃ call, Opened run call ∧ call :: below <:+ p.calls

section

variable {p q : Processor η β κ} {run : Nat} {below : List (Call κ)}
variable {stories stories' : Nat → List (Event η β Ref)}
variable {reports reports' : Nat → List (κ × Except Error Ref)}
variable {acts acts' : List (Act η β κ)} {response response' : Response η β κ}
variable {answer answer' : Except Error Answer}

theorem Serves.ne (serves : p.Serves run below) : p.calls ≠ below := by
  rintro rfl
  rcases serves with ⟨call, _, inside⟩
  have longer := inside.length_le
  rw [List.length_cons] at longer
  omega

/-- A run that is driven for the code that opened it goes on above that code, or answers it. -/
theorem serves_drive {dispatch : Dispatch η β κ} (there : p.dispatches[run]? = some dispatch)
    (calls : p.calls = below) (move : Run η β Ref → Run η β Ref × Effect η β Ref) :
    (p.drive run .opening move).1.Serves run below ∨
      ∃ answer, (p.drive run .opening move).2 = .reply answer ∧
        (p.drive run .opening move).1.calls = below := by
  rw [drive_eq there, ← calls]
  let moved : Dispatch η β κ := { dispatch with run := (move dispatch.run).1 }
  rcases perform_cases { p with dispatches := p.dispatches.setIfInBounds run moved } run .opening
    (move dispatch.run).2 with
    ⟨step, _, _, _, performed⟩ | ⟨_, _, _, _, performed⟩ | ⟨answer, _, _, performed⟩
  · rw [performed]
    exact Or.inl ⟨_, .turn step, List.suffix_refl _⟩
  · rw [performed]
    exact Or.inl ⟨_, .report, List.suffix_refl _⟩
  · rw [performed]
    exact Or.inr ⟨answer, rfl, rfl⟩

/-- A run goes on above the code that opened it until a request by which that code is answered. -/
theorem Serves.serve (consistent : Consistent p stories reports) (serves : p.Serves run below)
    (request : Request η β κ) :
    (p.serve request).1.Serves run below ∨
      ∃ answer, (p.serve request).2 = .reply answer ∧ (p.serve request).1.calls = below ∧
        p.Closes request run := by
  rcases serves with ⟨own, opened, inside⟩
  rcases p.suffix_serve request with kept | ⟨call, calls, top, kept, returns⟩
  · exact Or.inl ⟨own, opened, inside.trans kept⟩
  · rcases List.suffix_cons_iff.mp (top ▸ inside) with whole | inner
    · cases whole
      rcases returns with ⟨result, rfl⟩ | ⟨purpose, rfl⟩
      · simp only [Processor.serve, leave, top]
        cases opened with
        | turn step =>
            rcases consistent.of_top top with ⟨dispatch, there, _⟩
            rcases serves_drive (p := { p with calls := below }) there rfl
              (fun state => state.returned result) with serves | ⟨answer, response, calls⟩
            · exact Or.inl serves
            · exact Or.inr ⟨answer, response, calls, .returned result top⟩
        | report =>
            rcases rest_eq { p with calls := below } run .opening with ⟨answer, rested⟩
            simp only [rested]
            exact Or.inr ⟨answer, rfl, rfl, .reported result top⟩
      · cases opened
    · exact Or.inl ⟨own, opened, inner.trans kept⟩

/-- The code that opened a run gets control back by a request that closes the run. -/
theorem Back.of_serves (back : Back below p response acts answer)
    (consistent : Consistent p stories reports) (serves : p.Serves run below) :
    ∃ inner request, acts = inner ++ [.request request] ∧ (p.after inner).Closes request run ∧
      ((p.after inner).serve request).2 = .reply answer := by
  induction back generalizing stories reports with
  | here calls => exact absurd calls serves.ne
  | @inside p response act acts answer away rest inductionHypothesis =>
      have further : (p.act act).Serves run below → ∃ inner request,
          act :: acts = inner ++ [.request request] ∧ (p.after inner).Closes request run ∧
            ((p.after inner).serve request).2 = .reply answer := by
        intro serves
        rcases inductionHypothesis (consistent.act act) serves with ⟨inner, request, rfl, closes, last⟩
        exact ⟨act :: inner, request, rfl, closes, last⟩
      cases act with
      | edit store => exact further serves
      | define definition => exact further serves
      | request request =>
          rcases serves.serve consistent request with serves | ⟨value, replied, calls, closes⟩
          · exact further serves
          · rw [responds, replied] at rest
            cases rest with
            | here _ => exact ⟨[], request, rfl, closes, replied⟩
            | inside away _ => exact absurd calls (away value rfl)

/-! ## A run is opened -/

/-- A run that has just been opened goes on above the code that asked for it, or answers it. -/
theorem serves_dispatch (p : Processor η β κ) (tree : Ref) (listener : Listener κ) :
    (p.dispatch tree listener).1.Serves p.dispatches.size p.calls ∨
      ∃ answer, (p.dispatch tree listener).2 = .reply answer ∧
        (p.dispatch tree listener).1.calls = p.calls := by
  let opened : Dispatch η β κ := ⟨initial p.attachments.registry.plugins tree, listener⟩
  have there : (p.dispatches.push opened)[p.dispatches.size]? = some opened := Array.getElem?_push_size
  exact serves_drive (p := { p with dispatches := p.dispatches.push opened }) there rfl advance

theorem listener_dispatch (p : Processor η β κ) (tree : Ref) (listener : Listener κ) :
    (p.dispatch tree listener).1.listener p.dispatches.size = some listener := by
  refine (listener_drive _ _ _ _ _).trans ?_
  simp only [Processor.listener, Array.getElem?_push_size, Option.map_some]

/-- The code that asked for a run gets control back by a request that closes the run. -/
theorem Back.of_opens (consistent : Consistent p stories reports) {request : Request η β κ} {tree : Ref}
    (opens : p.opens request = some tree)
    (goes : (p.serve request).1.Serves p.dispatches.size below ∨
      ∃ answer, (p.serve request).2 = .reply answer ∧ (p.serve request).1.calls = below)
    (back : Back below (p.serve request).1 (p.serve request).2 acts answer) :
    ∃ inner last, .request request :: acts = inner ++ [.request last] ∧
      (p.after inner).Closes last p.dispatches.size ∧ ((p.after inner).serve last).2 = .reply answer := by
  rcases goes with serves | ⟨value, replied, calls⟩
  · rcases back.of_serves (consistent.act (.request request)) serves with
      ⟨inner, last, rfl, closes, response⟩
    exact ⟨.request request :: inner, last, rfl, closes, response⟩
  · rw [replied] at back
    cases back with
    | here _ => exact ⟨[], request, rfl, .opened opens, replied⟩
    | inside away _ => exact absurd calls (away value rfl)

end

end Processor
end Prose

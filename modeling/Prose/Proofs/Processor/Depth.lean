import Prose.Proofs.Processor.Entries
import Prose.Proofs.Processor.Resting

namespace Prose

/-!
# Calls that are left alone

Serving a request looks at the innermost call in progress at most, and only if the code in control is
done.  The calls below are left as they are, and whatever they are, the same is done and answered.
-/

/-- Whether code in control says by a request that it is done. -/
def Request.returns {η β κ : Type} : Request η β κ → Bool
  | .parsed _ | .returned _ => true
  | _ => false

namespace Processor

variable {η β κ : Type}

/-- The processor with other calls in progress. -/
def under (p : Processor η β κ) (calls : List (Call κ)) : Processor η β κ := { p with calls := calls }

/-- What is done to a processor does not depend on the calls in progress: calls are put on top of them,
and that is all. -/
def Stacks (p : Processor η β κ) (serve : Processor η β κ → Processor η β κ × Response η β κ) : Prop :=
  ∃ pushed : List (Call κ), ∀ calls,
    serve (p.under calls) = ((serve p).1.under (pushed ++ calls), (serve p).2)

section

variable (p : Processor η β κ)

theorem stacks_reply (answer : Except Error Answer) : p.Stacks fun p => p.reply answer :=
  ⟨[], fun _ => rfl⟩

theorem stacks_rest (run : Nat) (origin : Origin) : p.Stacks fun p => p.rest run origin := by
  refine ⟨[], fun calls => ?_⟩
  cases origin with
  | signal => rfl
  | opening =>
      cases there : p.dispatches[run]? with
      | none => simp only [rest, under, there, reply, List.nil_append]
      | some dispatch =>
          simp only [rest_opening there, rest_opening (p := p.under calls) there]
          rfl

theorem stacks_perform (run : Nat) (origin : Origin) (effect : Effect η β Ref) :
    p.Stacks fun p => p.perform run origin effect := by
  have lookup : ∀ calls, (p.under calls).dispatches = p.dispatches := fun _ => rfl
  cases effect with
  | start step plugin tree =>
      refine ⟨[.turn run step origin], fun calls => ?_⟩
      cases async : plugin.isAsync <;> simp only [perform, async] <;> rfl
  | rest => exact p.stacks_rest run origin
  | settle result =>
      rcases p.stacks_rest run origin with ⟨pushed, rested⟩
      cases listener : (p.dispatches[run]?).map Dispatch.listener with
      | none =>
          refine ⟨pushed, fun calls => ?_⟩
          simp only [perform, lookup, listener]
          exact rested calls
      | some known =>
          cases known with
          | caller =>
              refine ⟨pushed, fun calls => ?_⟩
              simp only [perform, lookup, listener]
              exact rested calls
          | callback callback =>
              refine ⟨[.report run origin], fun calls => ?_⟩
              simp only [perform, lookup, listener]
              rfl

theorem stacks_drive (run : Nat) (origin : Origin) (move : Run η β Ref → Run η β Ref × Effect η β Ref) :
    p.Stacks fun p => p.drive run origin move := by
  cases there : p.dispatches[run]? with
  | none =>
      refine ⟨[], fun calls => ?_⟩
      simp only [drive, under, there]
      rfl
  | some dispatch =>
      let moved : Dispatch η β κ := { dispatch with run := (move dispatch.run).1 }
      rcases stacks_perform { p with dispatches := p.dispatches.setIfInBounds run moved } run origin
        (move dispatch.run).2 with ⟨pushed, performed⟩
      refine ⟨pushed, fun calls => ?_⟩
      simp only [drive_eq there, drive_eq (p := p.under calls) there]
      exact performed calls

theorem stacks_dispatch (tree : Ref) (listener : Listener κ) :
    p.Stacks fun p => p.dispatch tree listener := by
  let opened : Dispatch η β κ := ⟨Run.initial p.attachments.registry.plugins tree, listener⟩
  exact stacks_drive { p with dispatches := p.dispatches.push opened } p.dispatches.size .opening
    Run.advance

theorem stacks_build (purpose : Purpose κ) (result : Except Error Cst) :
    p.Stacks fun p => p.build purpose result := by
  cases built : result.bind (Tree.ofCst p.model) with
  | error error =>
      refine ⟨[], fun calls => ?_⟩
      simp only [build, under, built]
      rfl
  | ok tree =>
      cases purpose with
      | build =>
          refine ⟨[], fun calls => ?_⟩
          simp only [build, under, built]
          rfl
      | parse callback =>
          rcases stacks_dispatch { p with store := (p.store.plant tree).1 } (p.store.plant tree).2
            (.callback callback) with ⟨pushed, opened⟩
          refine ⟨pushed, fun calls => ?_⟩
          simp only [build, under, built]
          exact opened calls
      | process =>
          rcases stacks_dispatch { p with store := (p.store.plant tree).1 } (p.store.plant tree).2
            .caller with ⟨pushed, opened⟩
          refine ⟨pushed, fun calls => ?_⟩
          simp only [build, under, built]
          exact opened calls

theorem stacks_attach (plugin : Plugin η β) : p.Stacks fun p => p.attach plugin := by
  cases present : p.attachments.has plugin.id with
  | true =>
      refine ⟨[], fun calls => ?_⟩
      simp only [attach, under, present]
      rfl
  | false =>
      cases hook : plugin.hasHook with
      | true =>
          refine ⟨[.hook], fun calls => ?_⟩
          simp only [attach, under, present, hook]
          rfl
      | false =>
          refine ⟨[], fun calls => ?_⟩
          simp only [attach, under, present, hook]
          rfl

theorem stacks_attachNamed (name : String) : p.Stacks fun p => p.attachNamed name := by
  cases resolved : p.attachments.resolve name with
  | error error =>
      refine ⟨[], fun calls => ?_⟩
      simp only [attachNamed, under, resolved]
      rfl
  | ok found =>
      cases made : found.1.plugin? found.2 with
      | none =>
          refine ⟨[], fun calls => ?_⟩
          simp only [attachNamed, under, resolved, made]
          rfl
      | some plugin =>
          rcases stacks_attach { p with attachments := found.1 } plugin with ⟨pushed, attached⟩
          refine ⟨pushed, fun calls => ?_⟩
          simp only [attachNamed, under, resolved, made]
          exact attached calls

theorem stacks_attachNew (name : String) (options : Json.Fields) :
    p.Stacks fun p => p.attachNew name options := by
  cases created : p.attachments.create name options with
  | error error =>
      refine ⟨[], fun calls => ?_⟩
      simp only [attachNew, under, created]
      rfl
  | ok made =>
      rcases stacks_attach { p with attachments := made.1 } made.2 with ⟨pushed, attached⟩
      refine ⟨pushed, fun calls => ?_⟩
      simp only [attachNew, under, created]
      exact attached calls

theorem stacks_call (continuation : Continuation) (signal : Signal Ref) :
    p.Stacks fun p => p.call continuation signal := by
  by_cases held : continuation ∈ p.held
  · rcases stacks_drive { p with held := p.held.erase continuation } continuation.run .signal
      (fun run => run.signal continuation.step signal) with ⟨pushed, driven⟩
    refine ⟨pushed, fun calls => ?_⟩
    simp only [call, if_pos held, if_pos (show continuation ∈ (p.under calls).held from held)]
    exact driven calls
  · refine ⟨[], fun calls => ?_⟩
    simp only [call, if_neg held, if_neg (show continuation ∉ (p.under calls).held from held)]
    rfl

/-- Code that is not done is served whatever calls are in progress. -/
theorem stacks_serve {request : Request η β κ} (busy : request.returns = false) :
    p.Stacks fun p => p.serve request := by
  cases request with
  | build text => exact ⟨[.parser .build], fun _ => rfl⟩
  | process text => exact ⟨[.parser .process], fun _ => rfl⟩
  | parse text callback =>
      cases callback with
      | none => exact p.stacks_reply _
      | some callback => exact ⟨[.parser (.parse callback)], fun _ => rfl⟩
  | run tree callback =>
      cases callback with
      | none => exact p.stacks_reply _
      | some callback => exact p.stacks_dispatch tree _
  | processTree tree => exact p.stacks_dispatch tree _
  | signal continuation signal => exact p.stacks_call continuation signal
  | drop continuation => exact ⟨[], fun _ => rfl⟩
  | attach plugin => exact p.stacks_attach plugin
  | attachNamed name => exact p.stacks_attachNamed name
  | attachNew name options => exact p.stacks_attachNew name options
  | parsed result => cases busy
  | returned result => cases busy

/-- With some code in control, a request is served whatever calls are below. -/
theorem stacks_serve_top (call : Call κ) (request : Request η β κ) :
    p.Stacks fun p => (p.under (call :: p.calls)).serve request := by
  cases busy : request.returns with
  | false =>
      rcases p.stacks_serve busy with ⟨pushed, served⟩
      refine ⟨pushed ++ [call], fun calls => ?_⟩
      simp only [served (call :: p.calls), List.append_assoc]
      exact served (call :: calls)
  | true =>
      cases request with
      | parsed result =>
          cases call with
          | parser purpose => exact p.stacks_build purpose result
          | hook => exact ⟨[.hook], fun _ => rfl⟩
          | turn run step origin => exact ⟨[.turn run step origin], fun _ => rfl⟩
          | report run origin => exact ⟨[.report run origin], fun _ => rfl⟩
      | returned result =>
          cases call with
          | parser purpose => exact ⟨[], fun _ => rfl⟩
          | hook => exact ⟨[], fun _ => rfl⟩
          | turn run step origin => exact p.stacks_drive run origin fun state => state.returned result
          | report run origin => exact p.stacks_rest run origin
      | _ => cases busy

end

/-- An act of code above a call does the same whatever that call is, and leaves it where it is. -/
theorem act_above {p : Processor η β κ} {above below : List (Call κ)} {call : Call κ}
    (calls : p.calls = above ++ call :: below) (last : Response η β κ) {act : Act η β κ}
    (busy : above = [] → ∀ request, act = .request request → request.returns = false) :
    ∃ pushed, (p.act act).calls = pushed ++ call :: below ∧ ∀ other,
      (p.under (above ++ other :: below)).act act = (p.act act).under (pushed ++ other :: below) ∧
        (p.under (above ++ other :: below)).responds last act = p.responds last act := by
  have itself : p.under (above ++ call :: below) = p := by rw [← calls]; rfl
  cases act with
  | edit store => exact ⟨above, calls, fun _ => ⟨rfl, rfl⟩⟩
  | define definition => exact ⟨above, calls, fun _ => ⟨rfl, rfl⟩⟩
  | request request =>
      obtain ⟨pushed, served⟩ : ∃ pushed : List (Call κ), ∀ other,
          (p.under (above ++ other :: below)).serve request =
            ((p.serve request).1.under (pushed ++ other :: below), (p.serve request).2) := by
        cases above with
        | nil =>
            rcases p.stacks_serve (busy rfl request rfl) with ⟨pushed, served⟩
            exact ⟨pushed, fun other => served (other :: below)⟩
        | cons top above =>
            rcases (p.under (above ++ call :: below)).stacks_serve_top top request with ⟨pushed, served⟩
            refine ⟨pushed ++ above, fun other => ?_⟩
            have kept := served (above ++ other :: below)
            simp only [show (p.under (above ++ call :: below)).under
              (top :: (p.under (above ++ call :: below)).calls) = p from itself] at kept
            rw [List.append_assoc]
            exact kept
      refine ⟨pushed, ?_, fun other => ?_⟩
      · have own := served call
        rw [itself] at own
        rw [Processor.act, own]
        rfl
      · rw [Processor.act, responds, served other]
        exact ⟨rfl, rfl⟩

end Processor
end Prose

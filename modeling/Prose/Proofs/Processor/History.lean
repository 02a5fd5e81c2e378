import Prose.Processor.Basic
import Prose.Proofs.Pipeline.Moves

namespace Prose

/-!
# Histories of a processor

A history is a list of acts of whatever code is in control: requests to the processor, edits of nodes
and new plugins.  Any code may act at any time, so histories cover nested runs, continuations called
by anybody and plugins attached on the way.

The story of a run is read off the outside of a processor: which requests are made while which code is
in control, which code is put in control by the answers, and which runs get a result.
-/

/-- What code in control does. -/
inductive Act (η β κ : Type) where
  | request (request : Request η β κ)
  /-- It edits nodes. -/
  | edit (store : Store)
  /-- It makes a plugin. -/
  | define (definition : Definition η β)

/-- The step whose plugin is in its turn by a call, if the call is one of the given run. -/
def Call.step? {κ : Type} (run : Nat) : Call κ → Option Nat
  | .turn other step _ => if other = run then some step else none
  | _ => none

/-- Whether a response puts neither a plugin of a run nor a callback in control. -/
def Response.calm {η β κ : Type} : Response η β κ → Bool
  | .turn .. => false
  | .report .. => false
  | _ => true

/-- What a listener is told if its run gets some results. -/
def Listener.hears {κ : Type} : Listener κ → List (Except Error Ref) →
    List (κ × Except Error Ref)
  | .callback code, results => results.map fun result => (code, result)
  | .caller, _ => []

namespace Processor

open Story

variable {η β κ : Type}

/-- A processor of which nothing has been asked. -/
def fresh (model : Model) (store : Store) (attachments : Attachments η β) : Processor η β κ :=
  ⟨model, store, attachments, #[], [], []⟩

def act (p : Processor η β κ) : Act η β κ → Processor η β κ
  | .request request => (p.serve request).1
  | .edit store => { p with store := store }
  | .define definition => { p with attachments := (p.attachments.make definition).1 }

def after (p : Processor η β κ) (acts : List (Act η β κ)) : Processor η β κ := acts.foldl act p

/-! ## What a run is told, and what it shows -/

/-- The tree over which a request opens a run. -/
def opens (p : Processor η β κ) : Request η β κ → Option Ref
  | .run tree (some _) => some tree
  | .processTree tree => some tree
  | .parsed result =>
    match p.calls, result.bind (Tree.ofCst p.model) with
    | .parser (.parse _) :: _, .ok tree => some (p.store.plant tree).2
    | .parser .process :: _, .ok tree => some (p.store.plant tree).2
    | _, _ => none
  | _ => none

/-- What a request tells a run: that it is opened, that the plugin in control returns, or that a
continuation that is held is called. -/
def heard (p : Processor η β κ) (request : Request η β κ) (run : Nat) : List (Event η β Ref) :=
  match request with
  | .signal continuation signal =>
    if continuation ∈ p.held ∧ continuation.run = run then [.called continuation.step signal]
    else []
  | .returned result =>
    match p.calls with
    | .turn other step _ :: _ => if other = run then [.returned step result] else []
    | _ => []
  | request =>
    match p.opens request with
    | some tree =>
      if p.dispatches.size = run then [.opened p.attachments.registry.plugins tree] else []
    | none => []

/-- The start of a plugin of a run that has been put in control by a response. -/
def shown (p : Processor η β κ) (response : Response η β κ) (run : Nat) : List (Event η β Ref) :=
  match response, p.calls with
  | .turn plugin tree _, .turn other step _ :: _ =>
    if other = run then [.started step plugin tree] else []
  | _, _ => []

/-- The callback of a run that has been put in control by a response, with the result it gets. -/
def told (p : Processor η β κ) (response : Response η β κ) (run : Nat) :
    List (κ × Except Error Ref) :=
  match response, p.calls with
  | .report callback result, .report other _ :: _ =>
    if other = run then [(callback, result)] else []
  | _, _ => []

def outcome (p : Processor η β κ) (run : Nat) : Option (Except Error Ref) :=
  p.dispatches[run]?.bind fun dispatch => dispatch.run.outcome

/-- The step of a run whose plugin is in its turn. -/
def active (p : Processor η β κ) (run : Nat) : Option Nat :=
  p.dispatches[run]?.bind fun dispatch => dispatch.run.active

/-- The result that a run has got from one state to the next. -/
def settles (before after : Processor η β κ) (run : Nat) : List (Event η β Ref) :=
  match before.outcome run, after.outcome run with
  | none, some result => [.settled result]
  | _, _ => []

/-- What happens to a run by an act. -/
def events (p : Processor η β κ) (run : Nat) : Act η β κ → List (Event η β Ref)
  | .request request =>
    p.heard request run ++
      ((p.serve request).1.shown (p.serve request).2 run ++ p.settles (p.serve request).1 run)
  | _ => []

/-- What the callback of a run is told by an act. -/
def news (p : Processor η β κ) (run : Nat) : Act η β κ → List (κ × Except Error Ref)
  | .request request => (p.serve request).1.told (p.serve request).2 run
  | _ => []

/-- The story of a run in a history. -/
def story (p : Processor η β κ) (run : Nat) : List (Act η β κ) → List (Event η β Ref)
  | [] => []
  | act :: rest => p.events run act ++ (p.act act).story run rest

/-- The calls of the callback of a run in a history, with what it is told. -/
def reports (p : Processor η β κ) (run : Nat) : List (Act η β κ) → List (κ × Except Error Ref)
  | [] => []
  | act :: rest => p.news run act ++ (p.act act).reports run rest

/-! ## What a request can do -/

/-- The steps of a run that are in their turns by some calls. -/
def turns (run : Nat) (calls : List (Call κ)) : List Nat := calls.filterMap (Call.step? run)

theorem turns_cons_of_none {run : Nat} {call : Call κ} (other : call.step? run = none)
    (calls : List (Call κ)) : turns run (call :: calls) = turns run calls :=
  List.filterMap_cons_none other

theorem turns_cons_of_some {run step : Nat} {call : Call κ} (turn : call.step? run = some step)
    (calls : List (Call κ)) : turns run (call :: calls) = step :: turns run calls :=
  List.filterMap_cons_some turn

/-- One processor may stand in for another: no code has got in or out of its turn, and no continuation
has been added. -/
structure Stands (p q : Processor η β κ) : Prop where
  dispatches_eq : q.dispatches = p.dispatches
  held_of_held : ∀ continuation ∈ q.held, continuation ∈ p.held
  turns_eq : ∀ run, turns run q.calls = turns run p.calls

/-- What serving a request comes to: nothing that concerns a run, a new run, the return of a plugin, or
the call of a continuation. -/
inductive Served (p : Processor η β κ) (request : Request η β κ) :
    Processor η β κ × Response η β κ → Prop where
  | quiet {q : Processor η β κ} {response : Response η β κ} (stands : Stands p q)
      (unheard : ∀ run, p.heard request run = []) (calm : response.calm = true) :
      Served p request (q, response)
  | opened {q : Processor η β κ} {tree : Ref} {listener : Listener κ} (stands : Stands p q)
      (attachments_eq : q.attachments = p.attachments)
      (heard : ∀ run, p.heard request run =
        if p.dispatches.size = run then [.opened p.attachments.registry.plugins tree] else []) :
      Served p request (q.dispatch tree listener)
  | returned {run step : Nat} {origin : Origin} {calls : List (Call κ)}
      {result : Except Error Unit} (asked : request = .returned result)
      (top : p.calls = .turn run step origin :: calls) :
      Served p request ({ p with calls := calls }.drive run origin fun state =>
        state.returned result)
  | called {continuation : Continuation} {signal : Signal Ref}
      (asked : request = .signal continuation signal) (member : continuation ∈ p.held) :
      Served p request ({ p with held := p.held.erase continuation }.drive continuation.run .signal
        fun state => state.signal continuation.step signal)

theorem Stands.refl (p : Processor η β κ) : Stands p p :=
  ⟨rfl, fun _ member => member, fun _ => rfl⟩

theorem shown_of_calm {response : Response η β κ} (calm : response.calm = true)
    (p : Processor η β κ) (run : Nat) : p.shown response run = [] := by
  cases response with
  | turn plugin tree continuation => cases calm
  | reply answer => rfl
  | parser text => rfl
  | hook plugin => rfl
  | report callback result => rfl

theorem told_of_calm {response : Response η β κ} (calm : response.calm = true)
    (p : Processor η β κ) (run : Nat) : p.told response run = [] := by
  cases response with
  | report callback result => cases calm
  | reply answer => rfl
  | parser text => rfl
  | hook plugin => rfl
  | turn plugin tree continuation => rfl

/-- A reply concerns no run. -/
theorem Served.reply {p q : Processor η β κ} {request : Request η β κ} (stands : Stands p q)
    (unheard : ∀ run, p.heard request run = []) (answer : Except Error Answer) :
    Served p request (q.reply answer) := .quiet stands unheard rfl

theorem heard_of_opens_none {p : Processor η β κ} {request : Request η β κ}
    (opens : p.opens request = none) (noSignal : ∀ continuation signal,
      request ≠ .signal continuation signal) (noReturn : ∀ result, request ≠ .returned result)
    (run : Nat) : p.heard request run = [] := by
  unfold heard
  split
  · exact absurd rfl (noSignal _ _)
  · exact absurd rfl (noReturn _)
  · rw [opens]

/-- Code that is no plugin of a run gets into its turn. -/
theorem Stands.push {p q : Processor η β κ} {call : Call κ} (dispatches_eq : q.dispatches = p.dispatches)
    (held_eq : q.held = p.held) (calls_eq : q.calls = call :: p.calls)
    (other : ∀ run, call.step? run = none) : Stands p q := by
  refine ⟨dispatches_eq, fun _ member => held_eq ▸ member, fun run => ?_⟩
  rw [calls_eq, turns_cons_of_none (other run)]

/-- Code that is no plugin of a run gets out of its turn. -/
theorem Stands.pop {p q : Processor η β κ} {call : Call κ} (dispatches_eq : q.dispatches = p.dispatches)
    (held_eq : q.held = p.held) (calls_eq : p.calls = call :: q.calls)
    (other : ∀ run, call.step? run = none) : Stands p q := by
  refine ⟨dispatches_eq, fun _ member => held_eq ▸ member, fun run => ?_⟩
  rw [calls_eq, turns_cons_of_none (other run)]

section

variable {p q : Processor η β κ} {request : Request η β κ}

/-- Attaching a plugin concerns no run. -/
theorem served_attach (stands : Stands p q) (unheard : ∀ run, p.heard request run = [])
    (plugin : Plugin η β) : Served p request (q.attach plugin) := by
  unfold attach
  split
  · exact .reply stands unheard _
  · simp only
    have attached : Stands p { q with attachments := q.attachments.register plugin } :=
      ⟨stands.dispatches_eq, stands.held_of_held, stands.turns_eq⟩
    split
    · exact .quiet ⟨attached.dispatches_eq, attached.held_of_held, attached.turns_eq⟩ unheard rfl
    · exact .reply attached unheard _

/-- Handing a text to the parser concerns no run. -/
theorem served_read (unheard : ∀ run, p.heard request run = []) (text : String)
    (purpose : Purpose κ) : Served p request (p.read text purpose) :=
  .quiet (.push rfl rfl rfl fun _ => rfl) unheard rfl

/-- Opening a run over a tree. -/
theorem served_dispatch {tree : Ref} (stands : Stands p q)
    (attachments_eq : q.attachments = p.attachments) (opens : p.opens request = some tree)
    (noSignal : ∀ continuation signal, request ≠ .signal continuation signal)
    (noReturn : ∀ result, request ≠ .returned result) (listener : Listener κ) :
    Served p request (q.dispatch tree listener) := by
  refine .opened stands attachments_eq fun run => ?_
  unfold heard
  split
  · exact absurd rfl (noSignal _ _)
  · exact absurd rfl (noReturn _)
  · rw [opens]

/-- The parser is done. -/
theorem served_parsed (p : Processor η β κ) (result : Except Error Cst) :
    Served p (.parsed result) (p.serve (.parsed result)) := by
  have unheard : p.opens (.parsed result) = none → ∀ run, p.heard (.parsed result) run = [] :=
    fun none => heard_of_opens_none none (fun _ _ => by simp) fun _ => by simp
  simp only [serve]
  split
  · rename_i purpose calls top
    have popped : Stands p { p with calls := calls } := .pop rfl rfl top fun _ => rfl
    unfold build
    split
    · rename_i error failed
      refine .reply popped (unheard ?_) _
      simp only [opens, top, failed]
    · rename_i tree built
      have planted : Stands p { p with calls := calls, store := (p.store.plant tree).1 } :=
        ⟨popped.dispatches_eq, popped.held_of_held, popped.turns_eq⟩
      cases purpose with
      | build =>
          refine .reply planted (unheard ?_) _
          simp only [opens, top, built]
      | parse callback =>
          refine served_dispatch planted rfl ?_ (fun _ _ => by simp) (fun _ => by simp) _
          simp only [opens, top, built]
      | process =>
          refine served_dispatch planted rfl ?_ (fun _ _ => by simp) (fun _ => by simp) _
          simp only [opens, top, built]
  · rename_i other
    refine .reply (.refl p) (unheard ?_) _
    simp only [opens]
    split
    · exact absurd ‹_› (other _ _)
    · exact absurd ‹_› (other _ _)
    · rfl

/-- The code in control returns. -/
theorem served_returned (p : Processor η β κ) (result : Except Error Unit) :
    Served p (.returned result) (p.serve (.returned result)) := by
  cases top : p.calls with
  | nil =>
      have unheard : ∀ run, p.heard (.returned result) run = [] := fun run => by
        simp only [heard, top]
      simp only [serve, leave, top]
      exact .reply (.refl p) unheard _
  | cons call calls =>
      have popped : (∀ run, call.step? run = none) → Stands p { p with calls := calls } :=
        .pop rfl rfl top
      simp only [serve, leave, top]
      cases call with
      | turn run step origin => exact .returned rfl top
      | parser purpose =>
          refine .reply (popped fun _ => rfl) (fun run => ?_) _
          simp only [heard, top]
      | hook =>
          refine .reply (popped fun _ => rfl) (fun run => ?_) _
          simp only [heard, top]
      | report run origin =>
          have unheard : ∀ run, p.heard (.returned result) run = [] := fun run => by
            simp only [heard, top]
          simp only [rest]
          split <;> exact .reply (popped fun _ => rfl) unheard _

/-- A continuation is called. -/
theorem served_signal (p : Processor η β κ) (continuation : Continuation) (signal : Signal Ref) :
    Served p (.signal continuation signal) (p.serve (.signal continuation signal)) := by
  simp only [serve, call]
  split
  · rename_i member
    exact .called rfl member
  · rename_i unheld
    refine .reply (.refl p) (fun run => ?_) _
    simp only [heard, unheld, false_and, if_false]

/-- What serving a request comes to. -/
theorem serve_cases (p : Processor η β κ) (request : Request η β κ) :
    Served p request (p.serve request) := by
  have unheard : p.opens request = none → (∀ continuation signal,
      request ≠ .signal continuation signal) → (∀ result, request ≠ .returned result) →
      ∀ run, p.heard request run = [] := heard_of_opens_none
  have renewed : ∀ attachments, Stands p { p with attachments := attachments } :=
    fun _ => ⟨rfl, fun _ member => member, fun _ => rfl⟩
  cases request with
  | signal continuation signal => exact served_signal p continuation signal
  | returned result => exact served_returned p result
  | parsed result => exact served_parsed p result
  | build text => exact served_read (unheard rfl (fun _ _ => by simp) fun _ => by simp) text _
  | process text => exact served_read (unheard rfl (fun _ _ => by simp) fun _ => by simp) text _
  | parse text callback =>
      have quiet := unheard rfl (fun _ _ => by simp) fun _ => by simp
      cases callback with
      | none => exact .reply (.refl p) quiet _
      | some callback => exact served_read quiet text _
  | run tree callback =>
      cases callback with
      | none => exact .reply (.refl p) (unheard rfl (fun _ _ => by simp) fun _ => by simp) _
      | some callback =>
          exact served_dispatch (.refl p) rfl rfl (fun _ _ => by simp) (fun _ => by simp) _
  | processTree tree =>
      exact served_dispatch (.refl p) rfl rfl (fun _ _ => by simp) (fun _ => by simp) _
  | drop continuation =>
      have dropped : Stands p { p with held := p.held.erase continuation } :=
        ⟨rfl, fun _ => List.mem_of_mem_erase, fun _ => rfl⟩
      exact .reply dropped (unheard rfl (fun _ _ => by simp) fun _ => by simp) _
  | attach plugin =>
      exact served_attach (.refl p) (unheard rfl (fun _ _ => by simp) fun _ => by simp) plugin
  | attachNamed name =>
      have quiet := unheard rfl (fun _ _ => by simp) fun _ => by simp
      simp only [serve, attachNamed]
      cases p.attachments.resolve name with
      | error error => exact .reply (.refl p) quiet _
      | ok resolved =>
          simp only
          cases resolved.1.plugin? resolved.2 with
          | none => exact .reply (renewed resolved.1) quiet _
          | some plugin => exact served_attach (renewed resolved.1) quiet plugin
  | attachNew name options =>
      have quiet := unheard rfl (fun _ _ => by simp) fun _ => by simp
      simp only [serve, attachNew]
      cases p.attachments.create name options with
      | error error => exact .reply (.refl p) quiet _
      | ok created => exact served_attach (renewed created.1) quiet created.2

end

end Processor
end Prose

import Prose.Pipeline.Run
import Prose.Plugin.Entry
import Prose.Store

namespace Prose

/-!
# Processors

A processor ties a model, a store of nodes and the attached plugins together, and runs them over texts
and trees.  Parsers, hooks, transforms and callbacks are not part of it.  Whatever code is in control
makes a request; the processor answers, or says which other code is in control next.  So every order
of nested calls, late continuations and failures is a sequence of requests, and a processor is the state
that they leave.

The code that is in control was called by other code, and so on down to the code outside.  `calls` lists
what the processor has to do when each of them returns, the innermost first.
-/

/-- A continuation: the run and the step that it was handed out for. -/
structure Continuation where
  run : Nat
  step : Nat
deriving DecidableEq, Repr

/-- Who gets the result of a run: a callback of type `κ`, or the code that asked for the run. -/
inductive Listener (κ : Type) where
  | callback (callback : κ)
  | caller

/-- A run with its listener. -/
structure Dispatch (η β κ : Type) where
  run : Run η β Ref
  listener : Listener κ

/-- What made a run go on: the request that opened it, or a call of a continuation. -/
inductive Origin where
  | opening
  | signal
deriving DecidableEq, Repr

/-- What a text is parsed for. -/
inductive Purpose (κ : Type) where
  | build
  | parse (callback : κ)
  | process

/-- What to do when the code in control returns. -/
inductive Call (κ : Type) where
  /-- A parser has been asked for a syntax tree. -/
  | parser (purpose : Purpose κ)
  /-- The hook of a plugin runs. -/
  | hook
  /-- The plugin of a step of a run is in its turn. -/
  | turn (run step : Nat) (origin : Origin)
  /-- The callback of a run has been called. -/
  | report (run : Nat) (origin : Origin)

/-- A processor. -/
structure Processor (η β κ : Type) where
  model : Model
  store : Store
  attachments : Attachments η β
  /-- All runs opened, each at the place of its number. -/
  dispatches : Array (Dispatch η β κ)
  calls : List (Call κ)
  /-- The continuations handed out and neither called nor dropped. -/
  held : List Continuation

/-- What code in control may ask for. -/
inductive Request (η β κ : Type) where
  | build (text : String)
  | parse (text : String) (callback : Option κ)
  | process (text : String)
  | run (tree : Ref) (callback : Option κ)
  | processTree (tree : Ref)
  | signal (continuation : Continuation) (signal : Signal Ref)
  | drop (continuation : Continuation)
  | attach (plugin : Plugin η β)
  | attachNamed (name : String)
  | attachNew (name : String) (options : Json.Fields)
  /-- The parser in control is done. -/
  | parsed (result : Except Error Cst)
  /-- The hook, transform or callback in control is done. -/
  | returned (result : Except Error Unit)

/-- The request for the plugin of an entry. -/
def Entry.request {η β κ : Type} (entry : Entry) : Request η β κ :=
  match entry.options with
  | some options => .attachNew entry.name options
  | none => .attachNamed entry.name

/-- A result for the code that made a request. -/
inductive Answer where
  | done
  | tree (ref : Ref)
deriving DecidableEq, Repr

/-- Who is in control after a request. -/
inductive Response (η β κ : Type) where
  /-- The code that made the request, or the code below one that returned. -/
  | reply (answer : Except Error Answer)
  /-- The parser. -/
  | parser (text : String)
  /-- The hook of a plugin. -/
  | hook (plugin : Plugin η β)
  /-- The transform of a plugin, with a continuation if it is async. -/
  | turn (plugin : Plugin η β) (tree : Ref) (continuation : Option Continuation)
  /-- A callback. -/
  | report (callback : κ) (result : Except Error Ref)

namespace Processor

variable {η β κ : Type}

def new (model : Model) (catalog : Catalog η β) : Processor η β κ :=
  ⟨model, Store.empty, Attachments.empty catalog, #[], [], []⟩

def reply (p : Processor η β κ) (answer : Except Error Answer) :
    Processor η β κ × Response η β κ :=
  (p, .reply answer)

/-! ## Runs -/

/-- A run rests: control goes back to the code that made it go on.  If that code waits for the result of
the run, it gets it. -/
def rest (p : Processor η β κ) (run : Nat) (origin : Origin) :
    Processor η β κ × Response η β κ :=
  match origin, p.dispatches[run]? with
  | .opening, some ⟨state, .caller⟩ => p.reply (state.result.map .tree)
  | _, _ => p.reply (.ok .done)

def perform (p : Processor η β κ) (run : Nat) (origin : Origin) (effect : Effect η β Ref) :
    Processor η β κ × Response η β κ :=
  match effect with
  | .start step plugin tree =>
    let calls := .turn run step origin :: p.calls
    if plugin.isAsync then
      ({ p with calls := calls, held := ⟨run, step⟩ :: p.held },
        .turn plugin tree (some ⟨run, step⟩))
    else ({ p with calls := calls }, .turn plugin tree none)
  | .settle result =>
    match (p.dispatches[run]?).map Dispatch.listener with
    | some (.callback callback) =>
      ({ p with calls := .report run origin :: p.calls }, .report callback result)
    | _ => p.rest run origin
  | .rest => p.rest run origin

/-- Change a run, and do what it then asks for. -/
def drive (p : Processor η β κ) (run : Nat) (origin : Origin)
    (move : Run η β Ref → Run η β Ref × Effect η β Ref) : Processor η β κ × Response η β κ :=
  match p.dispatches[run]? with
  | none => p.reply (.ok .done)
  | some dispatch =>
    let (state, effect) := move dispatch.run
    { p with dispatches := p.dispatches.setIfInBounds run { dispatch with run := state } }.perform
      run origin effect

/-- Open a run of the attached plugins over a tree. -/
def dispatch (p : Processor η β κ) (tree : Ref) (listener : Listener κ) :
    Processor η β κ × Response η β κ :=
  let state := Run.initial p.attachments.registry.plugins tree
  { p with dispatches := p.dispatches.push ⟨state, listener⟩ }.drive p.dispatches.size .opening
    Run.advance

/-! ## Texts -/

def read (p : Processor η β κ) (text : String) (purpose : Purpose κ) :
    Processor η β κ × Response η β κ :=
  ({ p with calls := .parser purpose :: p.calls }, .parser text)

/-- Build the tree of a syntax tree and use it for its purpose. -/
def build (p : Processor η β κ) (purpose : Purpose κ) (result : Except Error Cst) :
    Processor η β κ × Response η β κ :=
  match result.bind (Tree.ofCst p.model) with
  | .error error => p.reply (.error error)
  | .ok tree =>
    let (store, ref) := p.store.plant tree
    let p := { p with store := store }
    match purpose with
    | .build => p.reply (.ok (.tree ref))
    | .parse callback => p.dispatch ref (.callback callback)
    | .process => p.dispatch ref .caller

/-! ## Plugins -/

/-- Attach a plugin.  Its hook runs if the plugin was not attached before. -/
def attach (p : Processor η β κ) (plugin : Plugin η β) : Processor η β κ × Response η β κ :=
  if p.attachments.has plugin.id then p.reply (.ok .done)
  else
    let p := { p with attachments := p.attachments.register plugin }
    if plugin.hasHook then ({ p with calls := .hook :: p.calls }, .hook plugin)
    else p.reply (.ok .done)

def attachNamed (p : Processor η β κ) (name : String) : Processor η β κ × Response η β κ :=
  match p.attachments.resolve name with
  | .error error => p.reply (.error error)
  | .ok (attachments, id) =>
    let p := { p with attachments := attachments }
    match attachments.plugin? id with
    | some plugin => p.attach plugin
    | none => p.reply (.ok .done)

def attachNew (p : Processor η β κ) (name : String) (options : Json.Fields) :
    Processor η β κ × Response η β κ :=
  match p.attachments.create name options with
  | .error error => p.reply (.error error)
  | .ok (attachments, plugin) => { p with attachments := attachments }.attach plugin

/-! ## Requests -/

/-- A continuation is used up by a call.  One that is not held has no effect. -/
def call (p : Processor η β κ) (continuation : Continuation) (signal : Signal Ref) :
    Processor η β κ × Response η β κ :=
  if continuation ∈ p.held then
    { p with held := p.held.erase continuation }.drive continuation.run .signal fun run =>
      run.signal continuation.step signal
  else p.reply (.ok .done)

/-- The code in control returns. -/
def leave (p : Processor η β κ) (result : Except Error Unit) :
    Processor η β κ × Response η β κ :=
  match p.calls with
  | [] => p.reply (.ok .done)
  | call :: calls =>
    let p := { p with calls := calls }
    match call with
    | .parser _ => p.reply (.ok .done)
    | .hook => p.reply (result.map fun _ => .done)
    | .turn run _ origin => p.drive run origin fun state => state.returned result
    | .report run origin => p.rest run origin

def serve (p : Processor η β κ) (request : Request η β κ) : Processor η β κ × Response η β κ :=
  match request with
  | .build text => p.read text .build
  | .parse text (some callback) => p.read text (.parse callback)
  | .parse _ none => p.reply (.error (.invalidCallback "parse"))
  | .process text => p.read text .process
  | .run tree (some callback) => p.dispatch tree (.callback callback)
  | .run _ none => p.reply (.error (.invalidCallback "run"))
  | .processTree tree => p.dispatch tree .caller
  | .signal continuation signal => p.call continuation signal
  | .drop continuation => { p with held := p.held.erase continuation }.reply (.ok .done)
  | .attach plugin => p.attach plugin
  | .attachNamed name => p.attachNamed name
  | .attachNew name options => p.attachNew name options
  | .parsed result =>
    match p.calls with
    | .parser purpose :: calls => { p with calls := calls }.build purpose result
    | _ => p.reply (.ok .done)
  | .returned result => p.leave result

end Processor
end Prose

import Prose.Error
import Prose.Plugin.Basic

namespace Prose

/-!
# Runs

A run takes a tree through a list of plugins, one after the other, and is settled by one result.

A run is a state machine.  It asks for plugins to be started and for its result to be reported, and it
is told that a plugin has returned or that a continuation has been called.  While a plugin is in its
turn, a call of its continuation only moves the cursor, and the run goes on when the plugin returns;
otherwise the call itself makes the run go on.  A step is completed by the first of two signals: that
its plugin returned an error, and that its continuation was called.  The later one has no effect.
-/

/-- What the holder of a continuation says: go on with the tree, go on with another tree, or fail. -/
inductive Signal (ν : Type) where
  | resume
  | replace (tree : ν)
  | fail (error : Error)
deriving Repr

/-- A run over trees of type `ν`. -/
structure Run (η β ν : Type) where
  /-- The plugins, as they were attached when the run began. -/
  plugins : List (Plugin η β)
  /-- How many steps have been completed. -/
  cursor : Nat
  /-- The step whose plugin is in its turn. -/
  active : Option Nat
  /-- The tree that the next plugin is given. -/
  tree : ν
  /-- The result, once the run is settled. -/
  outcome : Option (Except Error ν)

/-- What a run asks for. -/
inductive Effect (η β ν : Type) where
  /-- Start the plugin of a step with a tree. -/
  | start (step : Nat) (plugin : Plugin η β) (tree : ν)
  /-- Report the result. -/
  | settle (result : Except Error ν)
  /-- Nothing; control goes back to whoever made the run go on. -/
  | rest

namespace Run

variable {η β ν : Type}

def initial (plugins : List (Plugin η β)) (tree : ν) : Run η β ν := ⟨plugins, 0, none, tree, none⟩

def settled (run : Run η β ν) : Bool := run.outcome.isSome

def settle (run : Run η β ν) (result : Except Error ν) : Run η β ν × Effect η β ν :=
  if run.settled then (run, .rest) else ({ run with outcome := some result }, .settle result)

/-- Go on: start the plugin at the cursor, or settle the run behind the last one. -/
def advance (run : Run η β ν) : Run η β ν × Effect η β ν :=
  if run.settled then ({ run with active := none }, .rest)
  else
    match run.plugins[run.cursor]? with
    | none => { run with active := none }.settle (.ok run.tree)
    | some plugin =>
      ({ run with active := some run.cursor }, .start run.cursor plugin run.tree)

def isAsync (run : Run η β ν) (step : Nat) : Bool := run.plugins[step]?.any fun p => p.isAsync

/-- The plugin in its turn has returned. -/
def returned (run : Run η β ν) (result : Except Error Unit) : Run η β ν × Effect η β ν :=
  match run.active with
  | none => (run, .rest)
  | some step =>
    let run := { run with active := none }
    if run.isAsync step then
      if run.cursor = step then
        match result with
        | .ok _ => (run, .rest)
        | .error error => run.settle (.error error)
      else run.advance
    else
      match result with
      | .ok _ => { run with cursor := step + 1 }.advance
      | .error error => run.settle (.error error)

/-- Complete the step at the cursor.  The run goes on at once unless its plugin is in its turn. -/
def complete (run : Run η β ν) : Run η β ν × Effect η β ν :=
  let run := { run with cursor := run.cursor + 1 }
  if run.active.isSome then (run, .rest) else run.advance

/-- The continuation of a step has been called.  It has an effect only if the run waits at that step. -/
def signal (run : Run η β ν) (step : Nat) (signal : Signal ν) : Run η β ν × Effect η β ν :=
  if run.settled || run.cursor ≠ step then (run, .rest)
  else
    match signal with
    | .resume => run.complete
    | .replace tree => { run with tree := tree }.complete
    | .fail error => run.settle (.error error)

/-- What has become of a run that rests. -/
inductive Status where
  | settled
  | suspended (plugin : String)
deriving DecidableEq, Repr

def pluginName (run : Run η β ν) (step : Nat) : String :=
  match run.plugins[step]? with
  | some plugin => plugin.name
  | none => "<none>"

/-- The status of a run that rests: a run that is not settled waits for the plugin at the cursor. -/
def status (run : Run η β ν) : Status :=
  if run.settled then .settled else .suspended (run.pluginName run.cursor)

/-- The result of a run that rests; one that waits for a plugin has failed for its caller. -/
def result (run : Run η β ν) : Except Error ν :=
  match run.outcome with
  | some result => result
  | none => .error (.suspended (run.pluginName run.cursor))

end Run
end Prose

import Prose.Pipeline.Run

namespace Prose
namespace Run

/-!
# Prompt runs

A plugin is prompt if its turn tells all: it calls its continuation before it returns, or never.  A run
of prompt plugins needs nobody else to go on, so it can be carried to the point where it rests.

`σ` is whatever the plugins read and change, the trees of type `ν` being handles into it.
-/

/-- What a plugin did in its turn: the continuation that it called, if it called it, and what it
returned. -/
structure Turn (ν : Type) where
  signal : Option (Signal ν)
  returned : Except Error Unit

/-- How plugins act on a state when they are given a tree. -/
abbrev Conduct (η β ν σ : Type) := Plugin η β → σ → ν → σ × Turn ν

variable {η β ν σ : Type}

/-- Tell a run what the plugin of a step did in its turn. -/
def take (run : Run η β ν) (step : Nat) (turn : Turn ν) : Run η β ν × Effect η β ν :=
  match turn.signal with
  | none => run.returned turn.returned
  | some signal => (run.signal step signal).1.returned turn.returned

/-- Carry on for at most a number of turns. -/
def carry (conduct : Conduct η β ν σ) : Nat → σ → Run η β ν × Effect η β ν → σ × Run η β ν
  | turns + 1, state, (run, .start step plugin tree) =>
    let (state, turn) := conduct plugin state tree
    carry conduct turns state (run.take step turn)
  | _, state, (run, _) => (state, run)

/-- Carry a run to the point where it rests.  No plugin has more than one turn. -/
def toRest (conduct : Conduct η β ν σ) (state : σ) (run : Run η β ν) : σ × Run η β ν :=
  carry conduct run.plugins.length state run.advance

/-- Run plugins over a tree: the state they leave, and the tree that the last one leaves or the first
failure. -/
def collect (conduct : Conduct η β ν σ) (plugins : List (Plugin η β)) (state : σ) (tree : ν) :
    σ × Except Error ν :=
  let (state, run) := toRest conduct state (initial plugins tree)
  (state, run.result)

/-- Run plugins one by one, each in a run of its own, up to the first failure. -/
def collectEach (conduct : Conduct η β ν σ) :
    List (Plugin η β) → σ → ν → σ × Except Error ν
  | [], state, tree => (state, .ok tree)
  | plugin :: rest, state, tree =>
    match collect conduct [plugin] state tree with
    | (state, .ok tree) => collectEach conduct rest state tree
    | (state, .error error) => (state, .error error)

end Run
end Prose

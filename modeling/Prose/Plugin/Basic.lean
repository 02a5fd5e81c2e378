import Prose.Text.Described

namespace Prose

/-!
# Plugins

A plugin is a named transform over trees, and perhaps a hook that runs when it is attached.  What hooks
and transforms are made of is left open.  A plugin is known by a number: two plugins are the same if
their numbers are, whatever they are called and do.
-/

/-- How a plugin tells that its turn is over: by returning, or by a call of the continuation that it is
given. -/
inductive Convention where
  | sync
  | async
deriving DecidableEq, Repr

/-- A plugin as its author writes it, with hooks of type `η` and transforms of type `β`. -/
structure Definition (η β : Type) where
  name : String
  convention : Convention
  hook : Option η
  transform : β

/-- A plugin: a definition and the number that it is known by. -/
structure Plugin (η β : Type) extends Definition η β where
  id : Nat

namespace Definition

variable {η β : Type}

def isAsync (definition : Definition η β) : Bool := definition.convention = .async

/-- Whether something runs when the plugin is attached. -/
def hasHook (definition : Definition η β) : Bool := definition.hook.isSome

def describe (definition : Definition η β) : String :=
  Text.described "Plugin"
    [("name", Text.Quoted.encode definition.name), ("async", Text.truth definition.isAsync),
     ("attach", Text.truth definition.hasHook)]

end Definition
end Prose

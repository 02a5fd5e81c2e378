import Prose.Pattern.Read
import Prose.Plugin.Entry

namespace Prose

/-!
# Commands

A script is a list of commands.  Plugins, hooks and callbacks are written as scripts, and a script is
what drives a processor from outside.  A command names nodes, plugins and parked continuations; `$` is
the node that the script was given, and `@` its continuation.

Stock plugins are scripts too: a need that has to be met, and a stock transform of the given node, are
commands.
-/

/-- What a script does with a continuation that it calls. -/
inductive Script.Call where
  | resume
  | replace (node : String)
  | fail (message : String)

/-- A command. -/
inductive Command where
  /-- Note a text. -/
  | log (text : String)
  /-- Carry out a command and note its result. -/
  | reveal (command : Command)
  /-- Carry out a command; an error is noted and passed over. -/
  | attempt (command : Command)
  /-- Fail. -/
  | raise (message : String)
  /-- Meet a need of a stock plugin. -/
  | satisfy (need : Stock.Need)
  /-- Apply a stock transform to the given node. -/
  | transform (transform : Stock.Transform)
  | define (id name : String) (convention : Convention) (hook : Option (List Command))
      (actions : List Command)
  | createPlugin (id name : String) (options : Json.Fields)
  | pluginInfo (id : String)
  | samePlugin (left right : String)
  | attached (id : String)
  | use (id : String)
  | useNamed (name : String)
  | useEntry (entry : Option Entry)
  | apply (source : String)
  | names
  | describe
  | bound
  | build (text name : String)
  | parse (tag text : String) (reports : Bool) (actions : List Command)
  | run (tag node : String) (reports : Bool) (actions : List Command)
  | process (text name : String)
  | processTree (node name : String)
  | park (slot : String)
  | nextPlugin (slot : String)
  | call (slot : String) (call : Script.Call)
  | drop (slot : String)
  | create (type name : String)
  | load (source name : String)
  | nest (type : String) (count : Nat) (top last : String)
  | alias (node name : String)
  | append (parent child : String)
  | prepend (parent child : String)
  | remove (parent : String) (index : Nat) (name : Option String)
  | child (parent : String) (index : Nat) (name : String)
  | setText (node text : String)
  | annotate (node key : String) (value : Json)
  | forget (node key : String)
  | info (node : String)
  | outline (node : String)
  | text (node : String)
  | cst (node : String)
  | pretty (node : String)
  | count (node : String)
  | same (left right : String)
  | visit (node : String) (type : Option String)
  | visitAppend (node type child : String)
  | visitSet (node : String) (type : Option String) (text : String)
  /-- A command of no known form, which has no effect. -/
  | idle

abbrev Script := List Command

namespace Script

/-- A stock plugin as a plugin made of scripts. -/
def ofStock (definition : Stock.Stocked) : Definition Script Script :=
  ⟨definition.name, definition.convention, definition.hook.map (List.map .satisfy),
    [.transform definition.transform]⟩

/-- The factory of the plugins made of scripts that catalogs may offer: the stock plugins, one that
needs itself, and one that cannot be made. -/
def factory? (name : String) : Option (Json.Fields → Except Error (Definition Script Script)) :=
  match name with
  | "selfish" => some fun _ => .ok ⟨"selfish", .sync, some [.useNamed "selfish"], []⟩
  | "broken" => some fun _ => .error (.config "factory failed")
  | _ => (Stock.factory? Pattern.reader name).map fun factory options => (factory options).map ofStock

def enlist (catalog : Catalog Script Script) (name summary factory : String) :
    Catalog Script Script :=
  match factory? factory with
  | some factory => catalog.register name summary factory
  | none => catalog

/-- The catalog of the stock plugins, as scripts. -/
def catalog : Catalog Script Script :=
  Stock.summaries.foldl (fun catalog (name, summary) => enlist catalog name summary name)
    Catalog.empty

end Script
end Prose

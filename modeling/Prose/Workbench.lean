import Prose.English.Document
import Prose.Pattern.Read
import Prose.Pipeline.Prompt
import Prose.Plugin.Entry
import Prose.Tree.Build

namespace Prose

/-!
# Workbenches

A workbench is a model with stock plugins attached.  It reads English texts and takes their trees
through the plugins.  Stock plugins are sync and do not fail, so a run over a tree is a sequence of
functions on trees.
-/

/-- A model and the stock plugins attached. -/
structure Workbench where
  model : Model
  attachments : Attachments (List Stock.Need) Stock.Transform

namespace Workbench

/-- The standard model and catalog, with nothing attached. -/
def fresh (patterns : Stock.Patterns) : Workbench :=
  ⟨Model.standard, Attachments.empty (Stock.catalog patterns)⟩

/-- The fresh workbench of the program itself, with its own reader of patterns. -/
def standard : Workbench := fresh Pattern.reader

def plugins (bench : Workbench) : List (Plugin (List Stock.Need) Stock.Transform) :=
  bench.attachments.registry.plugins

def names (bench : Workbench) : List String := bench.attachments.names

def attach (bench : Workbench) (entry : Entry) : Workbench × Except Error Unit :=
  let (attachments, result) := bench.attachments.attachEntry bench.model entry
  ({ bench with attachments := attachments }, result)

/-- Attach the plugins of several entries, up to the first failure. -/
def attachAll (bench : Workbench) (entries : List Entry) : Workbench × Except Error Unit :=
  let (attachments, result) := bench.attachments.attachAll bench.model entries
  ({ bench with attachments := attachments }, result)

/-- A stock plugin changes the tree in place and calls no continuation. -/
def conduct : Run.Conduct (List Stock.Need) Stock.Transform Unit Tree := fun plugin tree _ =>
  (plugin.transform.apply tree, ⟨none, .ok ()⟩)

def transform (plugins : List (Plugin (List Stock.Need) Stock.Transform)) (tree : Tree) :
    Except Error Tree :=
  let (tree, result) := Run.collect conduct plugins tree ()
  result.map fun _ => tree

def build (bench : Workbench) (text : String) : Except Error Tree :=
  Tree.ofCst bench.model (English.parse text)

/-- The tree of a text after all plugins. -/
def process (bench : Workbench) (text : String) : Except Error Tree := do
  transform bench.plugins (← bench.build text)

/-- The trees of a text after each of some plugins, with the names of the plugins. -/
def stages (tree : Tree) :
    List (Plugin (List Stock.Need) Stock.Transform) → Except Error (List (String × Tree))
  | [] => .ok []
  | plugin :: rest => do
    let tree ← transform [plugin] tree
    return (plugin.name, tree) :: (← stages tree rest)

end Workbench
end Prose

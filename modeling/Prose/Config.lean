import Prose.Plugin.Entry
import Prose.Yaml.Value

namespace Prose

/-!
# Configurations

A configuration lists the plugins to attach.  It is written in YAML as a mapping with one key, under
which the entries stand.
-/

/-- A list of entries. -/
structure Config where
  plugins : List Entry
deriving DecidableEq, Repr

namespace Config

open Yaml (Value)

def empty : Config := ⟨[]⟩

def write (config : Config) : String :=
  "\x7b\"plugins\":[" ++ ",".intercalate (config.plugins.map Entry.write) ++ "]\x7d"

/-! ## Entries -/

/-- The fields of a configured entry. -/
inductive Field where
  | name
  | options
  | other
deriving DecidableEq

/-- The field that a key stands for: a name, or the number of a field. -/
def field? : Value → Option Field
  | .string "name" => some .name
  | .string "options" => some .options
  | .string _ => some .other
  | .integer n => if n = 0 then some .name else if n = 1 then some .options
      else if 0 < n then some .other else none
  | _ => none

/-- The value of the only pair with a field, if there is one.  Several are refused. -/
def only? (field : Field) (pairs : List (Field × Value)) : Option (Option Value) :=
  match pairs.filter fun pair => pair.1 = field with
  | [] => some none
  | [(_, value)] => some (some value)
  | _ => none

/-- The options that a value stands for: none for null, and else a mapping. -/
def options? : Option Value → Option (Option Json.Fields)
  | none | some .null => some none
  | some (.mapping pairs) => do
    return some (Json.Fields.ofList (← Value.toFields? pairs))
  | _ => none

/-- The entry that a value stands for. -/
def entry? : Value → Option Entry
  | .string name => some (.bare name)
  | .mapping pairs => do
    let pairs ← pairs.mapM fun (key, value) => (field? key).map (·, value)
    match ← only? .name pairs with
    | some (.string name) => return .configured name (← options? (← only? .options pairs))
    | _ => none
  | _ => none

/-! ## Documents -/

def isBlank : Yaml.Node → Bool
  | .scalar _ plain text => plain && text.isEmpty
  | _ => false

/-- How deep collections may be nested in a document. -/
def depthLimit : Nat := 128

def items? : Yaml.Node → Yaml.Value.Evaluation (List Yaml.Node)
  | .sequence _ items => return items
  | .alias target => do
    Value.follow
    items? target
  | node => if isBlank node then return [] else failure

def key? : Yaml.Node → Yaml.Value.Evaluation String
  | .scalar _ _ text => return text
  | .alias target => do
    Value.follow
    key? target
  | _ => failure

/-- The configuration that a document stands for.  Of its one key, `plugins`, there is at most one, and
under it there is a sequence of entries. -/
def ofNode? (root : Yaml.Node) : Yaml.Value.Evaluation Config := do
  match root with
  | .mapping _ [] => return empty
  | .mapping _ [(key, list)] =>
    if (← key? key) ≠ "plugins" then failure
    let values ← Value.ofNodes? (depthLimit - 2) (← items? list)
    match values.mapM entry? with
    | some entries => return ⟨entries⟩
    | none => failure
  | _ => if isBlank root then return empty else failure

/-- The configuration of a text.  Aliases may be followed a hundred times as often as the document has
events. -/
def ofYaml? (text : String) : Option Config := do
  match ← Yaml.Node.ofString? text with
  | none => return empty
  | some root => return (← (ofNode? root).run (100 * root.events)).1

end Config

namespace Error

/-- The error of a text that is no configuration; the path is that of the file it was read from. -/
def unreadableConfig (path : Option String) : Error :=
  .config <|
    match path with
    | some path => "failed to parse " ++ path ++ ": <yaml>"
    | none => "<yaml>"

end Error
end Prose

import Prose.Error
import Prose.Json.Basic
import Prose.Plugin.Basic

namespace Prose

/-!
# Catalogs

A catalog makes plugins by name.  Each entry has a factory, which makes a definition from options or
refuses them.  Entries are kept in the order of their names.
-/

/-- An entry of a catalog. -/
structure Catalog.Entry (η β : Type) where
  name : String
  summary : String
  factory : Json.Fields → Except Error (Definition η β)

/-- A catalog of plugins. -/
structure Catalog (η β : Type) where
  entries : List (Catalog.Entry η β)

namespace Catalog

variable {η β : Type}

def empty : Catalog η β := ⟨[]⟩

/-- Put an entry into an ordered list, in place of one with its name. -/
def place (entry : Entry η β) : List (Entry η β) → List (Entry η β)
  | [] => [entry]
  | other :: rest =>
    if entry.name < other.name then entry :: other :: rest
    else if entry.name = other.name then entry :: rest
    else other :: place entry rest

def register (catalog : Catalog η β) (name summary : String)
    (factory : Json.Fields → Except Error (Definition η β)) : Catalog η β :=
  ⟨place ⟨name, summary, factory⟩ catalog.entries⟩

def find? (catalog : Catalog η β) (name : String) : Option (Entry η β) :=
  catalog.entries.find? fun entry => entry.name = name

def contains (catalog : Catalog η β) (name : String) : Bool := (catalog.find? name).isSome

def create (catalog : Catalog η β) (name : String) (options : Json.Fields) :
    Except Error (Definition η β) :=
  match catalog.find? name with
  | some entry => entry.factory options
  | none => .error (.invalidPlugin ("`" ++ name ++ "` does not name a known plugin"))

/-- Make the plugin of a name without options. -/
def createDefault (catalog : Catalog η β) (name : String) : Except Error (Definition η β) :=
  catalog.create name []

def summaries (catalog : Catalog η β) : List (String × String) :=
  catalog.entries.map fun entry => (entry.name, entry.summary)

end Catalog
end Prose

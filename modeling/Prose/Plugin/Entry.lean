import Prose.Plugin.Attachments

namespace Prose

/-!
# Entries

An entry asks for a plugin of the catalog.  With options it asks for a plugin of its own; without them
it asks for the one that its name stands for.
-/

/-- A reference to a plugin of a catalog. -/
inductive Entry where
  | bare (name : String)
  | configured (name : String) (options : Option Json.Fields)
deriving DecidableEq, Repr

namespace Entry

def name : Entry → String
  | .bare name => name
  | .configured name _ => name

def options : Entry → Option Json.Fields
  | .bare _ => none
  | .configured _ options => options

/-- An entry is written as a name, or as an object with the name and the options, in this order. -/
def write (entry : Entry) : String :=
  match entry with
  | .bare name => (Json.string name).compact
  | .configured name none => "\x7b\"name\":" ++ (Json.string name).compact ++ "\x7d"
  | .configured name (some options) =>
    "\x7b\"name\":" ++ (Json.string name).compact ++ ",\"options\":" ++
      (Json.object options).compact ++ "\x7d"

/-- The entry that a JSON value is.  Other fields than the name and the options have no effect. -/
def ofJson? : Json → Option Entry
  | .string name => some (.bare name)
  | .object fields =>
    match Json.Fields.find? "name" fields, Json.Fields.find? "options" fields with
    | some (.string name), none | some (.string name), some .null => some (.configured name none)
    | some (.string name), some (.object options) => some (.configured name (some options))
    | _, _ => none
  | _ => none

end Entry

namespace Attachments

variable {β : Type}

/-- Attach the plugin that an entry asks for. -/
def attachEntry (model : Model) (a : Attachments (List Stock.Need) β) (entry : Entry) :
    Attachments (List Stock.Need) β × Except Error Unit :=
  match entry.options with
  | some options => a.attachNew model entry.name options
  | none => a.attachNamed model entry.name

/-- Attach the plugins of several entries in order.  The first failure ends it. -/
def attachAll (model : Model) (a : Attachments (List Stock.Need) β) :
    List Entry → Attachments (List Stock.Need) β × Except Error Unit
  | [] => (a, .ok ())
  | entry :: rest =>
    match a.attachEntry model entry with
    | (a, .ok ()) => attachAll model a rest
    | (a, .error error) => (a, .error error)

end Attachments
end Prose

import Prose.Config
import Prose.Cst.Read
import Prose.English.Document
import Prose.Error.Record
import Prose.Processor.Basic
import Prose.Script.Command
import Prose.Store.Transforms
import Prose.Tree.Outline

namespace Prose

/-!
# Sessions

A session is a processor whose plugins are scripts, with the names that scripts have given to nodes,
plugins and parked continuations, and with what they have noted.
-/

namespace Script

/-- What reads the texts of a session. -/
inductive Parser where
  | english
  /-- Every text is read as the same syntax tree, written in JSON. -/
  | fixed (source : String)
  /-- A text is read as one leaf of a type. -/
  | leaf (type : String)
  /-- No text can be read. -/
  | failing (message : String) (offset length : Nat)
deriving DecidableEq, Repr

def Parser.parse : Parser → String → Except Error Cst
  | .english, text => .ok (English.parse text)
  | .fixed source, _ => Cst.ofJson source
  | .leaf type, text => .ok (.leaf type text)
  | .failing message offset length, _ => .error (.parse message "input" offset length)

/-- Whether a reading of a text is noted. -/
def Parser.isNoted (parser : Parser) : Bool := parser ≠ .english

/-- A callback: the name that it gives to the tree, and what it does with it. -/
structure Report where
  tag : String
  actions : Script

/-- The state that scripts work on. -/
structure Session where
  processor : Processor Script Script Report
  parser : Parser
  nodes : List (String × Ref)
  plugins : List (String × Nat)
  slots : List (String × Prose.Continuation)
  /-- What has been noted, the last note in front. -/
  notes : List String
  /-- How many running commands wait for their end. -/
  running : Nat

/-- A script in control. -/
structure Context where
  /-- Who the script speaks for. -/
  who : String
  /-- The node that it was given. -/
  tree : Option Ref
  /-- The continuation that it was given and has not used. -/
  continuation : Option Prose.Continuation
  /-- The commands left. -/
  rest : Script
  /-- The result of the last command. -/
  last : Json

namespace Session

def new (model : Model) (catalog : Catalog Script Script) (parser : Parser) : Session :=
  ⟨Processor.new model catalog, parser, [], [], [], [], 0⟩

/-! ## Names and notes -/

def note (s : Session) (text : String) : Session := { s with notes := text :: s.notes }

def keep (s : Session) (name : String) (ref : Ref) : Session :=
  { s with nodes := (name, ref) :: s.nodes }

def keepAs (s : Session) (name : Option String) (ref : Ref) : Session :=
  name.elim s fun name => s.keep name ref

def node? (s : Session) (context : Context) (name : String) : Option Ref :=
  if name = "$" then context.tree <|> s.nodes.lookup name else s.nodes.lookup name

def plugin? (s : Session) (id : String) : Option (Plugin Script Script) :=
  (s.plugins.lookup id).bind s.processor.attachments.plugin?

def keepPlugin (s : Session) (id : String) (definition : Definition Script Script) : Session × Json :=
  let (attachments, plugin) := s.processor.attachments.make definition
  ({ s with
      processor := { s.processor with attachments := attachments }
      plugins := (id, plugin.id) :: s.plugins },
    .string plugin.describe)

def names (s : Session) : Json :=
  .array (s.processor.attachments.names.map .string)

/-! ## Continuations -/

def slot? (s : Session) (context : Context) (slot : String) : Option Prose.Continuation :=
  if slot = "@" then context.continuation else s.slots.lookup slot

def clear (s : Session) (context : Context) (slot : String) : Session × Context :=
  if slot = "@" then (s, { context with continuation := none })
  else ({ s with slots := s.slots.filter fun parked => parked.1 ≠ slot }, context)

/-- The name of the plugin that a continuation was handed out to. -/
def holder (s : Session) (continuation : Prose.Continuation) : String :=
  match s.processor.dispatches[continuation.run]? with
  | some dispatch => dispatch.run.pluginName continuation.step
  | none => "<none>"

/-! ## Nodes -/

def store (s : Session) : Store := s.processor.store

/-- Put another store in the place of the session's own. -/
def withStore (s : Session) (store : Store) : Session :=
  { s with processor := { s.processor with store := store } }

/-- What the tree below a node shows. -/
def view (s : Session) (ref : Ref) (present : Tree → Json) : Json :=
  match s.store.tree? ref with
  | some tree => present tree
  | none => .null

def outline (s : Session) (ref : Ref) : Json := s.view ref fun tree => .string tree.outline

def textOf (s : Session) (ref : Ref) : String := ((s.store.tree? ref).map Tree.text).getD ""

/-- Counts as a list. -/
def countsOf (tree : Tree) : Json :=
  let counts := Counts.ofTree tree
  .array ([counts.words, counts.sentences, counts.paragraphs, counts.characters].map .ofNat)

/-- The number of visits that a walk over a tree takes. -/
def visits (s : Session) (ref : Ref) : Nat := s.store.visits ref

/-- All that is known about a node. -/
def describeNode (s : Session) (ref : Ref) (node : Node Ref) : Json :=
  let typeOf := fun child => ((s.store.get? child).map fun node => node.type.name).getD ""
  .ofFields
    [("type", .string node.type.name),
     ("kind", .array [.string node.type.name, .string node.type.shape.name]),
     ("parent", .boolean node.type.isParent), ("len", .ofNat node.children.length),
     ("empty", .boolean node.isEmpty),
     ("text", match node.text? with | some text => .string text | none => .null),
     ("to_text", .string (s.textOf ref)),
     ("children", .array (node.children.map fun child => .string (typeOf child))),
     ("data", .string (Json.object node.data).compact)]

/-- Create nodes each of which is the only child of the one before, below a given one. -/
def chain (s : Session) (type : String) : Nat → Ref → Except Error (Session × Ref)
  | 0, ref => .ok (s, ref)
  | count + 1, ref => do
    let (store, child) ← s.store.create s.processor.model type
    let store ← store.edit ref (·.append child)
    (s.withStore store).chain type count child

def hasType (store : Store) (type : Option String) (ref : Ref) : Bool :=
  type.all fun type => (store.get? ref).any fun node => node.type.name = type

/-- Note the type and the text of a node. -/
def lookAt (type : Option String) (store : Store) (ref : Ref) : Store × List Json :=
  if hasType store type ref then
    match store.tree? ref with
    | some tree => (store, [.array [.string tree.type.name, .string tree.text]])
    | none => (store, [])
  else (store, [])

/-- Note the type of a node, and append a new node to it if it has a given type. -/
def growAt (model : Model) (type child : String) (store : Store) (ref : Ref) :
    Store × List Json :=
  let seen := (store.get? ref).toList.map fun node => Json.string node.type.name
  if hasType store (some type) ref then
    match store.create model child >>= fun (store, new) => store.edit ref (·.append new) with
    | .ok store => (store, seen)
    | .error error => (store, seen ++ [.string error.message])
  else (store, seen)

/-- Set the text of a node that has a type. -/
def setAt (type : Option String) (text : String) (store : Store) (ref : Ref) :
    Store × List Json :=
  if hasType store type ref then
    match store.edit ref (·.setText text) with
    | .ok store => (store, [])
    | .error error => (store, [.string error.message])
  else (store, [])

def walk (s : Session) (limit : Nat) (look : Store → Ref → Store × List Json) (ref : Ref) :
    Session × Json :=
  let (store, found) := Store.visit look limit s.store [ref]
  (s.withStore store, .array found)

end Session
end Script

namespace Json

mutual

/-- A value with the fields of all objects in the order of their keys. -/
def ordered : Json → Json
  | .array items => .array (orderedAll items)
  | .object fields => .ofFields (orderedFields fields)
  | .null => .null
  | .boolean value => .boolean value
  | .integer value => .integer value
  | .number value => .number value
  | .string value => .string value

def orderedAll : List Json → List Json
  | [] => []
  | item :: rest => item.ordered :: orderedAll rest

def orderedFields : List (String × Json) → List (String × Json)
  | [] => []
  | (key, value) :: rest => (key, value.ordered) :: orderedFields rest

end

end Json
end Prose

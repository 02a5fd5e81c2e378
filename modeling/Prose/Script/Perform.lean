import Prose.Script.Session

namespace Prose
namespace Script

/-!
# What commands do

A command is carried out at once, or it makes a request to the processor and waits for the answer.
-/

/-- What a command makes of the answer to its request. -/
inductive Await where
  /-- Nothing. -/
  | nothing
  /-- It results in the names of the attached plugins. -/
  | names
  /-- It results in the outline of the tree, to which it gives a name. -/
  | tree (name : String)
  /-- It has called a continuation. -/
  | called
  /-- It attaches the plugins of further entries. -/
  | entries (rest : List Entry)

/-- What came of a command so far. -/
inductive Move where
  | done (session : Session) (context : Context) (result : Except Error Json)
  /-- A request has to be served first; `runs` tells whether the command is a running one. -/
  | ask (session : Session) (context : Context) (request : Request Script Script Report)
      (await : Await) (runs : Bool)

namespace Session

/-- How many running commands may wait for their end. -/
def deepest : Nat := 2

/-- Make a request by a running command, unless too many wait already. -/
def runOn (s : Session) (context : Context) (request : Request Script Script Report)
    (await : Await) : Move :=
  if deepest ≤ s.running then .done s context (.ok (.string "too deep"))
  else .ask s context request await true

def attachEntries (s : Session) (context : Context) : List Entry → Move
  | [] => .done s context (.ok s.names)
  | entry :: rest => .ask s context entry.request (.entries rest) false

/-- A callback, if there is one. -/
def reportOf (tag : String) (reports : Bool) (actions : Script) : Option Report :=
  if reports then some ⟨tag, actions⟩ else none

def withNode (s : Session) (context : Context) (name : String) (act : Ref → Move) : Move :=
  match s.node? context name with
  | some ref => act ref
  | none => .done s context (.ok .null)

/-- A command that changes nothing and has a result. -/
def result (s : Session) (context : Context) (value : Json) : Move := .done s context (.ok value)

def change (s : Session) (context : Context) (ref : Ref)
    (operation : Node Ref → Except Error (Node Ref)) (present : Session → Json) : Move :=
  match s.store.edit ref operation with
  | .ok store =>
    let s := s.withStore store
    s.result context (present s)
  | .error error => .done s context (.error error)

def width (ref : Ref) (s : Session) : Json := .ofNat (s.store.children ref).length

/-- Carry out a command on plugins or on the processor. -/
def performOnPlugins (s : Session) (context : Context) (command : Command) : Move :=
  match command with
  | .satisfy (.plugin id) =>
    match s.processor.attachments.plugin? id with
    | some plugin => .ask s context (.attach plugin) .nothing false
    | none => s.result context .null
  | .satisfy (.named name) => .ask s context (.attachNamed name) .nothing false
  | .satisfy (.nodeType asker name) =>
    if s.processor.model.contains name then s.result context .null
    else .done s context (.error (.invalidPlugin (asker ++ " needs a model with `" ++ name ++ "`")))
  | .define id name convention hook actions =>
    let (s, described) := s.keepPlugin id ⟨name, convention, hook, actions⟩
    s.result context described
  | .createPlugin id name options =>
    match s.processor.attachments.catalog.create name options with
    | .ok definition =>
      let (s, described) := s.keepPlugin id definition
      s.result context described
    | .error error => .done s context (.error error)
  | .pluginInfo id =>
    s.result context <|
      match s.plugin? id with
      | some plugin =>
        .array [.string plugin.name, .boolean plugin.isAsync, .boolean plugin.hasHook]
      | none => .null
  | .samePlugin left right =>
    s.result context <|
      match s.plugin? left, s.plugin? right with
      | some left, some right => .boolean (left.id = right.id)
      | _, _ => .null
  | .attached id =>
    s.result context <|
      match s.plugin? id with
      | some plugin =>
        .ofNat (s.processor.attachments.registry.plugins.countP fun other => other.id = plugin.id)
      | none => .null
  | .use id =>
    match s.plugin? id with
    | some plugin => .ask s context (.attach plugin) .names false
    | none => s.result context .null
  | .useNamed name => .ask s context (.attachNamed name) .names false
  | .useEntry none => s.result context (.string "not an entry")
  | .useEntry (some entry) => .ask s context entry.request .names false
  | .apply source =>
    match Config.ofYaml? source with
    | some config => s.attachEntries context config.plugins
    | none => s.result context (Error.unreadableConfig none).record
  | .names => s.result context s.names
  | .describe =>
    s.result context <| .string <| Text.described "Processor"
      [("model", s.processor.model.describe true),
       ("plugins",
         Text.listed (s.processor.attachments.names.map Text.Quoted.encode))]
  | .bound => s.result context (.boolean true)
  | .build text name => .ask s context (.build text) (.tree name) false
  | .parse tag text reports actions =>
    s.runOn context (.parse text (reportOf tag reports actions)) .names
  | .run tag node reports actions =>
    s.withNode context node fun ref =>
      s.runOn context (.run ref (reportOf tag reports actions)) .names
  | .process text name => s.runOn context (.process text) (.tree name)
  | .processTree node name =>
    s.withNode context node fun ref => s.runOn context (.processTree ref) (.tree name)
  | .park slot =>
    match context.continuation with
    | some continuation =>
      let (s, context) := s.clear { context with continuation := none } slot
      { s with slots := (slot, continuation) :: s.slots }.result context
        (.string (s.holder continuation))
    | none => s.result context (.string "no continuation")
  | .nextPlugin slot =>
    s.result context <|
      match s.slot? context slot with
      | some continuation => .string (s.holder continuation)
      | none => .null
  | .call slot call =>
    match s.slot? context slot with
    | none => s.result context (.string "no continuation")
    | some continuation =>
      let (s, context) := s.clear context slot
      let signal : Option (Signal Ref) :=
        match call with
        | .resume => some .resume
        | .replace node => (s.node? context node).map .replace
        | .fail message => some (.fail (.plugin context.who message))
      match signal with
      | some signal => .ask s context (.signal continuation signal) .called false
      | none => s.result context .null
  | .drop slot =>
    match s.slot? context slot with
    | none => s.result context (.string "no continuation")
    | some continuation =>
      let (s, context) := s.clear context slot
      .ask s context (.drop continuation) .called false
  | _ => s.result context .null

/-- Carry out a command on nodes. -/
def performOnNodes (s : Session) (context : Context) (command : Command) : Move :=
  match command with
  | .create type name =>
    match s.store.create s.processor.model type with
    | .ok (store, ref) =>
      let s := (s.withStore store).keep name ref
      s.result context (s.outline ref)
    | .error error => .done s context (.error error)
  | .load source name =>
    match (Cst.ofJson source).bind (Tree.ofCst s.processor.model) with
    | .ok tree =>
      let (store, ref) := s.store.plant tree
      let s := (s.withStore store).keep name ref
      s.result context (s.outline ref)
    | .error error => .done s context (.error error)
  | .nest _ 0 _ _ => s.result context .null
  | .nest type (count + 1) top last =>
    match s.store.create s.processor.model type with
    | .ok (store, first) =>
      match (s.withStore store).chain type count first with
      | .ok (s, deepest) => ((s.keep top first).keep last deepest).result context .null
      | .error error => .done s context (.error error)
    | .error error => .done s context (.error error)
  | .alias node name => s.withNode context node fun ref => (s.keep name ref).result context .null
  | .append parent child =>
    s.withNode context parent fun parent => s.withNode context child fun child =>
      s.change context parent (·.append child) (width parent)
  | .prepend parent child =>
    s.withNode context parent fun parent => s.withNode context child fun child =>
      s.change context parent (·.prepend child) (width parent)
  | .remove parent index name =>
    s.withNode context parent fun parent =>
      match (s.store.get? parent).bind (·.remove index) with
      | some (child, node) =>
        let s := (s.withStore (s.store.set parent node)).keepAs name child
        s.result context (s.outline child)
      | none => s.result context .null
  | .child parent index name =>
    s.withNode context parent fun parent =>
      match (s.store.children parent)[index]? with
      | some child => (s.keep name child).result context (.boolean true)
      | none => s.result context (.boolean false)
  | .setText node text =>
    s.withNode context node fun ref => s.change context ref (·.setText text) fun _ => .null
  | .annotate node key value =>
    s.withNode context node fun ref =>
      let old := (s.store.get? ref).bind fun node => node.data.find? key
      s.change context ref (fun node => .ok (node.annotate key value)) fun _ => old.getD .null
  | .forget node key =>
    s.withNode context node fun ref =>
      let old := (s.store.get? ref).bind fun node => node.data.find? key
      s.change context ref (fun node => .ok (node.forget key)) fun _ => old.getD .null
  | .info node =>
    s.withNode context node fun ref =>
      s.result context ((s.store.get? ref).elim .null (s.describeNode ref))
  | .outline node => s.withNode context node fun ref => s.result context (s.outline ref)
  | .text node =>
    s.withNode context node fun ref => s.result context (s.view ref fun tree => .string tree.text)
  | .cst node =>
    s.withNode context node fun ref =>
      s.result context (s.view ref fun tree => tree.toCst.toJson.ordered)
  | .pretty node =>
    s.withNode context node fun ref =>
      s.result context (s.view ref fun tree => .string tree.toCst.toJson.pretty)
  | .count node => s.withNode context node fun ref => s.result context (s.view ref countsOf)
  | .same left right =>
    s.withNode context left fun left => s.withNode context right fun right =>
      s.result context (.boolean (left = right))
  | .visit node type =>
    s.withNode context node fun ref =>
      let (s, found) := s.walk (s.visits ref) (lookAt type) ref
      s.result context found
  | .visitAppend node type child =>
    s.withNode context node fun ref =>
      let size := s.visits ref
      let (s, found) :=
        s.walk ((size + 1) * (size + 2)) (growAt s.processor.model type child) ref
      s.result context found
  | .visitSet node type text =>
    s.withNode context node fun ref =>
      let (s, found) := s.walk (s.visits ref) (setAt type text) ref
      s.result context found
  | .transform transform =>
    match context.tree with
    | some ref =>
      let (store, result) := s.store.run ref transform
      .done (s.withStore store) context (result.map fun _ => .null)
    | none => s.result context .null
  | command => s.performOnPlugins context command

/-- Carry out a command that holds no other command. -/
def perform (s : Session) (context : Context) (command : Command) : Move :=
  match command with
  | .log text => (s.note (context.who ++ ": " ++ text)).result context .null
  | .raise message => .done s context (.error (.plugin context.who message))
  | command => s.performOnNodes context command

end Session
end Script
end Prose

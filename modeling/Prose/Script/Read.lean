import Prose.Script.Command

namespace Prose

/-!
# Commands in JSON

A command is written as an array with its word in front.
-/

namespace Json

def field? (value : Json) (key : String) : Option Json :=
  match value with
  | .object fields => Fields.find? key fields
  | _ => none

def text? : Json → Option String
  | .string text => some text
  | _ => none

def items : Json → List Json
  | .array items => items
  | _ => []

def fields : Json → Fields
  | .object fields => fields
  | _ => []

end Json

namespace Script

def plainCommand : List Json → Command
  | [.string "log", .string text] => .log text
  | [.string "err", .string message] => .raise message
  | [.string "create_plugin", .string id, .string name, options] =>
    .createPlugin id name options.fields
  | [.string "create_plugin", .string id, .string name] => .createPlugin id name []
  | [.string "plugin_info", .string id] => .pluginInfo id
  | [.string "same_plugin", .string left, .string right] => .samePlugin left right
  | [.string "attached", .string id] => .attached id
  | [.string "use", .string id] => .use id
  | [.string "use_named", .string name] => .useNamed name
  | [.string "use_entry", entry] => .useEntry (Entry.ofJson? entry)
  | [.string "apply", .string source] => .apply source
  | [.string "names"] => .names
  | [.string "debug"] => .describe
  | [.string "bound"] => .bound
  | [.string "build", .string text, .string name] => .build text name
  | [.string "process", .string text, .string name] => .process text name
  | [.string "process_tree", .string node, .string name] => .processTree node name
  | [.string "park", .string slot] => .park slot
  | [.string "next_plugin", .string slot] => .nextPlugin slot
  | [.string "resume", .string slot] => .call slot .resume
  | [.string "replace", .string slot, .string node] => .call slot (.replace node)
  | [.string "fail", .string slot, .string message] => .call slot (.fail message)
  | [.string "drop", .string slot] => .drop slot
  | [.string "create", .string type, .string name] => .create type name
  | [.string "load", .string source, .string name] => .load source name
  | [.string "nest", .string type, .integer count, .string top, .string last] =>
    .nest type count.toNat top last
  | [.string "alias", .string node, .string name] => .alias node name
  | [.string "append", .string parent, .string child] => .append parent child
  | [.string "prepend", .string parent, .string child] => .prepend parent child
  | [.string "remove", .string parent, .integer index, .string name] =>
    .remove parent index.toNat (some name)
  | .string "remove" :: .string parent :: .integer index :: _ => .remove parent index.toNat none
  | [.string "child", .string parent, .integer index, .string name] =>
    .child parent index.toNat name
  | [.string "set_text", .string node, .string text] => .setText node text
  | [.string "data_set", .string node, .string key, value] => .annotate node key value
  | [.string "data_del", .string node, .string key] => .forget node key
  | [.string "info", .string node] => .info node
  | [.string "outline", .string node] => .outline node
  | [.string "text", .string node] => .text node
  | [.string "cst", .string node] => .cst node
  | [.string "pretty", .string node] => .pretty node
  | [.string "count", .string node] => .count node
  | [.string "same", .string left, .string right] => .same left right
  | .string "visit" :: .string node :: type => .visit node (type.head?.bind Json.text?)
  | [.string "visit_append", .string node, .string type, .string child] =>
    .visitAppend node type child
  | [.string "visit_set", .string node, type, .string text] => .visitSet node type.text? text
  | _ => .idle

/-- The command that a value of bounded depth stands for. -/
def commandWithin : Nat → Json → Command
  | 0, _ => .idle
  | depth + 1, value =>
    let script := fun actions => (Json.items actions).map (commandWithin depth)
    let last := fun rest => (List.head? rest).elim [] script
    match value.items with
    | [.string "show", command] => .reveal (commandWithin depth command)
    | [.string "try", command] => .attempt (commandWithin depth command)
    | [.string "define", .string id, body] =>
      .define id (((body.field? "name").bind Json.text?).getD id)
        (if body.field? "kind" = some (.string "async") then .async else .sync)
        ((body.field? "attach").map script)
        (((body.field? "run").map script).getD [])
    | .string "parse" :: .string tag :: .string text :: rest => .parse tag text true (last rest)
    | .string "parse_with" :: .string tag :: .string text :: .boolean reports :: rest =>
      .parse tag text reports (last rest)
    | .string "run" :: .string tag :: .string node :: rest => .run tag node true (last rest)
    | .string "run_with" :: .string tag :: .string node :: .boolean reports :: rest =>
      .run tag node reports (last rest)
    | words => plainCommand words

def command (value : Json) : Command := commandWithin (value.depth + 1) value

/-- The script that a list of values stands for. -/
def ofJson (values : List Json) : Script := values.map command

end Script
end Prose

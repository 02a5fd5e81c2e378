namespace Prose
namespace CommandLine

/-!
# Arguments

A command line names a command and may give options in front of it and behind it.  Options behind the
command count instead of those in front of it.
-/

/-- What to do. -/
inductive Command where
  | process (input : String)
  | tree (input : String) (json : Bool)
  | trace (input : String)
  | plugins
deriving DecidableEq, Repr

/-- A command with its options. -/
structure Arguments where
  config : Option String
  /-- The plugins to attach by name. -/
  names : List String
  command : Command
deriving DecidableEq, Repr

/-- Why there is nothing to carry out: the arguments are wrong, or ask for the version or for help. -/
inductive Refusal where
  | usage
  | version
  | help
deriving DecidableEq, Repr

/-- What has been given on one side of the command. -/
structure Side where
  config : Option String
  names : List String
  json : Bool
  inputs : List String
deriving DecidableEq, Repr

def Side.empty : Side := ⟨none, [], false, []⟩

/-- Where on a command line an argument stands. -/
inductive Place where
  /-- In front of the command. -/
  | front
  /-- Behind a command that takes up to a number of inputs, and perhaps a flag for JSON. -/
  | behind (inputs : Nat) (json : Bool)
deriving DecidableEq, Repr

/-- Read a cluster of one-letter flags.  The version can be asked for in front of the command only. -/
def cluster (place : Place) : List Char → Except Refusal Unit
  | [] => .ok ()
  | 'v' :: rest => cluster place rest
  | 'h' :: _ => .error .help
  | 'V' :: _ => if place = .front then .error .version else .error .usage
  | _ => .error .usage

/-- Take a value for an option that may be given once. -/
def Side.configure (side : Side) (path : String) : Except Refusal Side :=
  if path.isEmpty || side.config.isSome then .error .usage
  else .ok { side with config := some path }

def Side.attach (side : Side) (name : String) : Side :=
  { side with names := side.names ++ [name] }

/-- Whether an argument may be the value of an option: it is no option itself. -/
def isValue (argument : String) : Bool := argument = "-" || !argument.startsWith "-"

/-- The text behind a beginning. -/
def behind? (start argument : String) : Option String :=
  if argument.startsWith start then some (String.ofList (argument.toList.drop start.length))
  else none

/-- Read an option that is written out, with the arguments behind it. -/
def option (place : Place) (side : Side) (argument : String) (rest : List String) :
    Except Refusal (Side × List String) :=
  match argument, rest with
  | "--use", value :: rest => if isValue value then .ok (side.attach value, rest) else .error .usage
  | "--config", path :: rest =>
    if isValue path then (side.configure path).map (·, rest) else .error .usage
  | "--verbose", _ => .ok (side, rest)
  | "--help", _ => .error .help
  | "--version", _ => if place = .front then .error .version else .error .usage
  | "--json", _ =>
    match place with
    | .behind _ true => if side.json then .error .usage else .ok ({ side with json := true }, rest)
    | _ => .error .usage
  | _, _ =>
    match behind? "--use=" argument, behind? "--config=" argument with
    | some name, _ => .ok (side.attach name, rest)
    | _, some path => (side.configure path).map (·, rest)
    | _, _ => .error .usage

/-- Read inputs, of which a command takes up to a number. -/
def inputs (limit : Nat) (side : Side) : List String → Except Refusal Side
  | [] => .ok side
  | input :: rest =>
    if input.isEmpty || limit ≤ side.inputs.length then .error .usage
    else inputs limit { side with inputs := side.inputs ++ [input] } rest

/-- Read what stands behind a command, at most a number of arguments. -/
def behind (limit : Nat) (json : Bool) : Nat → Side → List String → Except Refusal Side
  | 0, side, _ | _, side, [] => .ok side
  | fuel + 1, side, argument :: rest =>
    if argument = "--" then inputs limit side rest
    else if argument.startsWith "--" then do
      let (side, rest) ← option (.behind limit json) side argument rest
      behind limit json fuel side rest
    else if argument.startsWith "-" && argument ≠ "-" then do
      cluster (.behind limit json) (argument.toList.drop 1)
      behind limit json fuel side rest
    else do
      let side ← inputs limit side [argument]
      behind limit json fuel side rest

def join (front : Side) (back : Side) (command : Command) : Arguments where
  config := back.config <|> front.config
  names := if back.names.isEmpty then front.names else back.names
  command := command

/-- Read a command that takes one input. -/
def withInput (front : Side) (json : Bool) (command : String → Bool → Command)
    (rest : List String) : Except Refusal Arguments := do
  let back ← behind 1 json rest.length Side.empty rest
  match back.inputs with
  | [input] => return join front back (command input back.json)
  | _ => .error .usage

/-- Read a command line from what stands in front of the command on, at most a number of arguments. -/
def front : Nat → Side → List String → Except Refusal Arguments
  | 0, _, _ | _, _, [] => .error .usage
  | fuel + 1, side, argument :: rest =>
    match argument with
    | "process" => withInput side false (fun input _ => .process input) rest
    | "tree" => withInput side true .tree rest
    | "trace" => withInput side false (fun input _ => .trace input) rest
    | "plugins" => do
      let back ← behind 0 false rest.length Side.empty rest
      return join side back .plugins
    | "help" =>
      match rest with
      | [] => .error .help
      | ["process"] | ["tree"] | ["trace"] | ["plugins"] | ["help"] => .error .help
      | _ => .error .usage
    | _ =>
      if argument = "--" then .error .usage
      else if argument.startsWith "--" then do
        let (side, rest) ← option .front side argument rest
        front fuel side rest
      else if argument.startsWith "-" && argument ≠ "-" then do
        cluster .front (argument.toList.drop 1)
        front fuel side rest
      else .error .usage

def read (arguments : List String) : Except Refusal Arguments :=
  front arguments.length Side.empty arguments

end CommandLine
end Prose

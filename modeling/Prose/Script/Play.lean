import Prose.Script.Perform

namespace Prose
namespace Script

/-!
# Playing scripts

Scripts are played one command after the other.  While a command waits for an answer, other scripts may
be in control: the hooks, transforms and callbacks that the processor calls.  Commands that wait are
kept as frames, the last one in front.  The first failing command of a script ends it.
-/

/-- A command around another one. -/
inductive Wrapper where
  | reveal
  | attempt
deriving DecidableEq, Repr

/-- A command as the commands around it, the innermost in front, and the command that they hold. -/
def unwrap (around : List Wrapper) : Command → List Wrapper × Command
  | .reveal command => unwrap (.reveal :: around) command
  | .attempt command => unwrap (.attempt :: around) command
  | command => (around, command)

/-- What a script is played for. -/
inductive Role where
  /-- It drives the session from outside. -/
  | outside
  | hook
  | turn
  /-- It is the callback of a tag. -/
  | report (tag : String)
deriving DecidableEq, Repr

/-- A command that waits for an answer. -/
structure Frame where
  role : Role
  context : Context
  around : List Wrapper
  await : Await
  runs : Bool

/-- What happens next. -/
inductive Focus where
  /-- A script is played. -/
  | script (role : Role) (context : Context)
  /-- The processor has responded. -/
  | response (response : Response Script Script Report)
  /-- The script from outside has ended. -/
  | ended (result : Except Error Json)

/-- A session in which scripts are played. -/
structure Play where
  session : Session
  frames : List Frame
  focus : Focus

namespace Play

def request (play : Play) (request : Request Script Script Report) : Play :=
  let (processor, response) := play.session.processor.serve request
  { play with
    session := { play.session with processor := processor }
    focus := .response response }

/-- The result of a command, seen by the commands around it. -/
def conclude (s : Session) (who : String) :
    List Wrapper → Except Error Json → Session × Except Error Json
  | [], result => (s, result)
  | .reveal :: around, .ok value =>
    conclude (s.note (who ++ ": " ++ value.compact)) who around (.ok value)
  | .attempt :: around, .error error =>
    conclude (s.note (who ++ ": caught " ++ error.note)) who around (.ok .null)
  | _ :: around, result => conclude s who around result

/-- A script ends.  A continuation that it has not used is dropped, and the processor learns the result
if it waits for it. -/
def leave (play : Play) (role : Role) (context : Context) (result : Except Error Json) : Play :=
  match role with
  | .outside => { play with focus := .ended result }
  | .hook => play.request (.returned (result.map fun _ => ()))
  | .turn =>
    let play :=
      match context.continuation with
      | some continuation => play.request (.drop continuation)
      | none => play
    play.request (.returned (result.map fun _ => ()))
  | .report tag =>
    let s :=
      match result with
      | .ok _ => play.session
      | .error error => play.session.note ("done " ++ tag ++ " action " ++ error.note)
    { play with session := s }.request (.returned (.ok ()))

/-- Go on with a script after a command. -/
def proceed (play : Play) (role : Role) (context : Context) (around : List Wrapper)
    (result : Except Error Json) : Play :=
  let (s, result) := conclude play.session context.who around result
  let play := { play with session := s }
  match result with
  | .ok value => { play with focus := .script role { context with last := value } }
  | .error error => play.leave role context (.error error)

/-- Go on as a command has it. -/
def follow (play : Play) (role : Role) (around : List Wrapper) : Move → Play
  | .done s context result => { play with session := s }.proceed role context around result
  | .ask s context request await runs =>
    let s := if runs then { s with running := s.running + 1 } else s
    { play with
      session := s
      frames := ⟨role, context, around, await, runs⟩ :: play.frames }.request request

/-- The processor answers the last command that waits. -/
def resume (play : Play) (answer : Except Error Answer) : Play :=
  match play.frames with
  | [] => { play with focus := .ended (.ok .null) }
  | frame :: frames =>
    let s := play.session
    let s := if frame.runs then { s with running := s.running - 1 } else s
    let play := { play with session := s, frames := frames }
    match answer with
    | .error error => play.proceed frame.role frame.context frame.around (.error error)
    | .ok answer =>
      let move :=
        match frame.await, answer with
        | .nothing, _ => s.result frame.context .null
        | .names, _ => s.result frame.context s.names
        | .called, _ => s.result frame.context (.string "called")
        | .entries rest, _ => s.attachEntries frame.context rest
        | .tree name, .tree ref => (s.keep name ref).result frame.context (s.outline ref)
        | .tree _, .done => s.result frame.context .null
      play.follow frame.role frame.around move

/-- Call the code that the processor has put in control. -/
def enter (play : Play) (response : Response Script Script Report) : Play :=
  match response with
  | .reply answer => play.resume answer
  | .parser text =>
    let s := play.session
    let s := if s.parser.isNoted then s.note ("parser: " ++ text) else s
    { play with session := s }.request (.parsed (s.parser.parse text))
  | .hook plugin =>
    { play with focus := .script .hook ⟨plugin.name, none, none, plugin.hook.getD [], .null⟩ }
  | .turn plugin tree continuation =>
    { play with
      focus := .script .turn ⟨plugin.name, some tree, continuation, plugin.transform, .null⟩ }
  | .report callback (.ok tree) =>
    let s := play.session
    let s := s.note ("done " ++ callback.tag ++ " ok " ++ s.textOf tree)
    { play with
      session := s.keep callback.tag tree
      focus := .script (.report callback.tag)
        ⟨callback.tag, some tree, none, callback.actions, .null⟩ }
  | .report callback (.error error) =>
    let s := play.session.note ("done " ++ callback.tag ++ " err " ++ error.note)
    { play with session := s }.request (.returned (.ok ()))

def step (play : Play) : Play :=
  match play.focus with
  | .ended _ => play
  | .response response => play.enter response
  | .script role context =>
    match context.rest with
    | [] => play.leave role context (.ok context.last)
    | command :: rest =>
      let (around, command) := unwrap [] command
      play.follow role around (play.session.perform { context with rest := rest } command)

/-- Play on until the script from outside has ended, for at most a number of steps. -/
def run : Nat → Play → Session × Except Error Json
  | 0, play => (play.session, .ok .null)
  | steps + 1, play =>
    match play.focus with
    | .ended result => (play.session, result)
    | _ => run steps play.step

end Play

namespace Session

/-- How many steps a command from outside may take. -/
def patience : Nat := 10000000

/-- Play a command from outside: its result and what has been noted meanwhile. -/
def play (s : Session) (command : Command) : Session × Except Error Json × List String :=
  let context : Context := ⟨"main", none, none, [command], .null⟩
  let (s, result) :=
    Play.run patience ⟨{ s with notes := [] }, [], .script .outside context⟩
  (s, result, s.notes.reverse)

/-- Play commands from outside, one after the other. -/
def playAll (s : Session) : Script → List (Except Error Json × List String)
  | [] => []
  | command :: rest =>
    let (s, answer) := s.play command
    answer :: s.playAll rest

end Session
end Script
end Prose

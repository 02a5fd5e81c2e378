import Prose.CommandLine.Outcome

/-!
# The program

The files that a command line names are read first; what it does with them is `CommandLine.run`.
-/

namespace Prose
namespace CommandLine

/-- Why the operating system refused a path. -/
def troubleOf : IO.Error → Disk.Trouble
  | .noFileOrDirectory .. => .missing
  | .inappropriateType _ code _ => if code = 21 then .isAFolder else .notAFolder
  | error => .other (toString error)

/-- Read what is at a path. -/
partial def readItem (path : String) : IO Item := do
  let place := (← IO.currentDir) / path
  if ← place.isDir then
    let entries ← place.readDir
    let items ← entries.foldlM
      (fun items entry => do
        return Disk.place entry.fileName (← readItem (joinPath path entry.fileName)) items)
      []
    return .folder items
  else return .file (← IO.FS.readBinFile place)

def look (path : String) : IO (Except Disk.Trouble Item) := do
  try return .ok (← readItem path)
  catch error => return .error (troubleOf error)

def Command.input? : Command → Option String
  | .process input | .tree input _ | .trace input => some input
  | .plugins => none

/-- The paths that a command line names. -/
def paths (arguments : List String) : List String :=
  match read arguments with
  | .ok arguments =>
    arguments.config.getD Config.defaultPath :: arguments.command.input?.toList
  | .error _ => []

/-- Read the standard input to its end. -/
partial def readInput (stream : IO.FS.Stream) (content : ByteArray) : IO ByteArray := do
  let more ← stream.read 65536
  if more.isEmpty then return content else readInput stream (content ++ more)

/-- Carry out a command line, print what it prints and give its status. -/
def execute (arguments : List String) : IO UInt32 := do
  let paths := paths arguments
  let found ← paths.mapM fun path => do return (path, ← look path)
  let disk : Disk := ⟨fun path => (found.lookup path).getD (.error .missing)⟩
  let input ←
    if paths.any isStandardInput then readInput (← IO.getStdin) ByteArray.empty
    else pure ByteArray.empty
  let outcome := run disk input arguments
  IO.print outcome.output
  match outcome.error with
  | some error =>
    IO.eprintln error.code
    IO.eprintln error.message
  | none => pure ()
  return outcome.status.toUInt32

end CommandLine
end Prose

def main (arguments : List String) : IO UInt32 := Prose.CommandLine.execute arguments

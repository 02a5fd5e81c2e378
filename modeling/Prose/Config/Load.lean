import Prose.Config
import Prose.Disk

namespace Prose
namespace Config

/-!
# Configuration files

A configuration is read from a file whose path is given.  Otherwise it is read from a file of the default
name if there is one, and is empty if not.
-/

/-- Where a configuration is looked for unless a path is given. -/
def defaultPath : String := ".retext.yaml"

def load (disk : Disk) (path : String) : Except Error Config :=
  match disk.read path with
  | .error trouble => .error (.config ("failed to read " ++ path ++ ": " ++ trouble.message))
  | .ok text =>
    match ofYaml? text with
    | some config => .ok config
    | none => .error (.unreadableConfig (some path))

/-- Read the configuration at a path, or the one of the default name. -/
def loadOrDefault (disk : Disk) (path : Option String) : Except Error Config :=
  match path with
  | some path => load disk path
  | none => if disk.isFile defaultPath then load disk defaultPath else .ok empty

end Config
end Prose

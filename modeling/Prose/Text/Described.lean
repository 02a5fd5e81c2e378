import Prose.Text.Quoted

namespace Prose
namespace Text

/-! Descriptions show a value by the names of its parts. -/

def truth (value : Bool) : String := if value then "true" else "false"

def listed (items : List String) : String := "[" ++ ", ".intercalate items ++ "]"

/-- A description by a name and parts with their names. -/
def described (name : String) (parts : List (String × String)) : String :=
  name ++ " \x7b " ++ ", ".intercalate (parts.map fun part => part.1 ++ ": " ++ part.2) ++ " \x7d"

end Text
end Prose

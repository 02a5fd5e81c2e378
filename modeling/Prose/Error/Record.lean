import Prose.Error
import Prose.Json.Print

namespace Prose
namespace Error

/-!
# Errors on record

An error is recorded as an object with all that is known about it, or noted on one line.
-/

/-- The place in a source that an error of reading points at. -/
def place : Error → List (String × Json)
  | .parse _ source offset length =>
    [("source", .string source), ("span", .array [.ofNat offset, .ofNat length])]
  | _ => []

def record (error : Error) : Json :=
  .ofFields <|
    [("error", .string error.kind), ("message", .string error.message),
     ("category", .string error.category.name), ("guard", .boolean error.isGuard),
     ("code", .string error.code),
     ("help", match error.advice with | some advice => .string advice | none => .null)] ++
    error.place

/-- An error on one line. -/
def note (error : Error) : String := error.kind ++ ": " ++ error.message

end Error
end Prose

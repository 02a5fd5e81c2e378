import Prose.Text.Property
import Prose.Trace.Changes

namespace Prose

/-!
# Traces

A trace shows a tree as it was parsed, and what each plugin changed in its outline.
-/

/-- An outline with what made it. -/
structure Trace.Step where
  label : String
  outline : String
deriving DecidableEq, Repr

namespace Trace

/-- A text without the white space at its end. -/
def trimEnd (text : String) : String :=
  String.ofList (text.toList.reverse.dropWhile Text.Property.isWhiteSpace).reverse

/-- What a step shows of its outline: all of it, that it is the same as before, or the changes. -/
def body (before : Option String) (step : Step) : String :=
  match before with
  | none => step.outline
  | some before =>
    let outline := trimEnd step.outline
    if before = outline then " (unchanged)\n"
    else
      String.join (((Change.between before outline).flatMap Change.write).map (· ++ "\n"))

/-- Steps with their numbers, each followed by an empty line. -/
def write (number : Nat) (before : Option String) : List Step → String
  | [] => ""
  | step :: rest =>
    "--- Step " ++ toString number ++ ": " ++ step.label ++ " ---\n" ++ body before step ++ "\n" ++
      write (number + 1) (some (trimEnd step.outline)) rest

def render (steps : List Step) : String := write 0 none steps

end Trace
end Prose

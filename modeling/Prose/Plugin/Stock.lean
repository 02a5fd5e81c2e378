import Prose.Json.Print
import Prose.Plugin.Catalog
import Prose.Tree.Counts
import Prose.Tree.Position
import Prose.Tree.Words

namespace Prose
namespace Stock

/-!
# Stock plugins

The plugins that every standard catalog offers.  Their transforms are functions on trees, and their
hooks are lists of needs: what else has to be attached, and what the model has to offer.

Words are masked if they match a regular expression.  In which language expressions are written is left
open: the catalog is over a reader of patterns, which says what text is matched by which pattern.
-/

/-- A reader of patterns.  It makes of a pattern the test whether it matches somewhere in a text, or
refuses it, with a reason if it has one to give. -/
abbrev Patterns := String → Except (Option String) (String → Bool)

/-- What a plugin needs when it is attached. -/
inductive Need where
  /-- The plugin with the given number is attached too. -/
  | plugin (id : Nat)
  /-- The plugin of a name is attached too. -/
  | named (name : String)
  /-- The model has a node type; the plugin that asks is named. -/
  | nodeType (asker name : String)
deriving DecidableEq, Repr

/-- The transforms of the stock plugins. -/
inductive Transform where
  | position
  | stats
  | redact (isMatch : String → Bool) (mask : Char)
  | uppercase
  | lowercase

def Transform.apply : Transform → Tree → Tree
  | .position, tree => tree.withPositions
  | .stats, tree => tree.withStats
  | .redact isMatch mask, tree => tree.redactWords isMatch mask
  | .uppercase, tree => tree.upperWords
  | .lowercase, tree => tree.lowerWords

abbrev Stocked := Definition (List Need) Transform

/-- A stock plugin without a hook. -/
def plain (name : String) (transform : Transform) : Stocked := ⟨name, .sync, none, transform⟩

/-- The statistics annotate trees that carry positions as well. -/
def stats : Stocked := ⟨"stats", .sync, some [.named "position"], .stats⟩

/-! ## Options -/

/-- The text of an option, if it is given; another value is refused. -/
def textOption (plugin : String) (options : Json.Fields) (key : String) :
    Except Error (Option String) :=
  match options.find? key with
  | none => .ok none
  | some (.string value) => .ok (some value)
  | some other =>
    .error (.config (plugin ++ ": option `" ++ key ++ "` must be a string, got " ++ other.compact))

/-- The words that are masked unless a pattern says otherwise: those made of digits. -/
def defaultPattern : String := "^\\d+$"

def defaultMask : Char := '*'

/-- The masking character that a text gives. -/
def maskOf (text : String) : Except Error Char :=
  match text.toList with
  | [mask] => .ok mask
  | _ => .error (.config ("redact: mask must be a single character, got `" ++ text ++ "`"))

/-- The error of a pattern that is refused. -/
def invalidPattern (pattern : String) (reason : Option String) : Error :=
  .config ("redact: invalid pattern `" ++ pattern ++ "`" ++ reason.elim "" (": " ++ ·))

/-- Masking with a pattern and a masking character.  The pattern is looked at before the mask. -/
def redact (patterns : Patterns) (options : Json.Fields) : Except Error Stocked := do
  let pattern := (← textOption "redact" options "pattern").getD defaultPattern
  let isMatch ← (patterns pattern).mapError (invalidPattern pattern)
  let mask ←
    match ← textOption "redact" options "mask" with
    | some text => maskOf text
    | none => .ok defaultMask
  return ⟨"redact", .sync, some [.nodeType "redact" Kind.word], .redact isMatch mask⟩

def factory? (patterns : Patterns) (name : String) : Option (Json.Fields → Except Error Stocked) :=
  match name with
  | "position" => some fun _ => .ok (plain "position" .position)
  | "stats" => some fun _ => .ok stats
  | "redact" => some (redact patterns)
  | "uppercase" => some fun _ => .ok (plain "uppercase" .uppercase)
  | "lowercase" => some fun _ => .ok (plain "lowercase" .lowercase)
  | _ => none

def summaries : List (String × String) :=
  [("position", "annotate nodes with byte offsets"),
   ("stats", "count words, sentences and paragraphs"),
   ("redact", "mask words matching a pattern"),
   ("uppercase", "upper-case every word"),
   ("lowercase", "lower-case every word")]

def catalog (patterns : Patterns) : Catalog (List Need) Transform :=
  summaries.foldl
    (fun catalog (name, summary) =>
      match factory? patterns name with
      | some factory => catalog.register name summary factory
      | none => catalog)
    Catalog.empty

end Stock
end Prose

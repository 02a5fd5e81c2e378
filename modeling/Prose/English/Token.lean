import Prose.Text.Cluster
import Prose.Text.Property

namespace Prose
namespace English

/-!
# Tokens of prose

A text is cut into words, white space, punctuation and symbols.  A run of characters of one token is
found from its first character; symbols are first taken together and then cut into grapheme clusters, so
that a joined emoji is one token.
-/

/-- The kinds of token. -/
inductive Kind where
  | word
  | whiteSpace
  | punctuation
  | symbol
deriving DecidableEq, Repr

/-- A piece of a text with its kind. -/
structure Token where
  kind : Kind
  text : String
deriving DecidableEq, Repr

namespace Token

/-- A word starts with an alphabetic character or a number. -/
def startsWord (c : Char) : Bool := Text.Property.isAlphabetic c || Text.Property.isNumber c

/-- A word goes on with these and with marks. -/
def continuesWord (c : Char) : Bool := startsWord c || Text.Property.isMark c

/-- An apostrophe, straight or curved. -/
def isApostrophe (c : Char) : Bool := c = '\'' || c = '\u2019'

def kindOf (c : Char) : Kind :=
  if startsWord c then .word
  else if Text.Property.isWhiteSpace c then .whiteSpace
  else if Text.Property.isPunctuation c then .punctuation
  else .symbol

/-- Whether a character goes on with a run of some kind.  An apostrophe goes on with a word only if a
word character follows it; punctuation never goes on. -/
def continues (kind : Kind) (c : Char) (after : List Char) : Bool :=
  match kind with
  | .word =>
    continuesWord c ||
      (isApostrophe c &&
        match after with
        | d :: _ => continuesWord d
        | [] => false)
  | .whiteSpace => Text.Property.isWhiteSpace c
  | .punctuation => false
  | .symbol => kindOf c = .symbol

/-- The runs of a text, where `run` is the run under way, in reverse. -/
def runsFrom (kind : Kind) (run : List Char) : List Char → List (Kind × List Char)
  | [] => [(kind, run.reverse)]
  | c :: rest =>
    if continues kind c rest then runsFrom kind (c :: run) rest
    else (kind, run.reverse) :: runsFrom (kindOf c) [c] rest

def runs : List Char → List (Kind × List Char)
  | [] => []
  | c :: rest => runsFrom (kindOf c) [c] rest

/-- The tokens of a run: one, but for symbols one for each cluster. -/
def ofRun (run : Kind × List Char) : List Token :=
  match run.1 with
  | .symbol => (Text.Cluster.clusters run.2).map fun cluster => ⟨.symbol, String.ofList cluster⟩
  | kind => [⟨kind, String.ofList run.2⟩]

def scan (text : String) : List Token := (runs text.toList).flatMap ofRun

end Token
end English
end Prose

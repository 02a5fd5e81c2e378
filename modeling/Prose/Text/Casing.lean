import Prose.Text.Casing.Table
import Prose.Text.Property

namespace Prose
namespace Text
namespace Casing

/-!
# Upper and lower case

Full case mapping without regard to a language.  One character may map to several.  The only rule
that looks at neighbours is the one for the Greek sigma, which has a form of its own at the end of
a word.
-/

/-- The image of a code point under the first run that covers it. -/
def runImage (n : Nat) : List Run → Option Nat
  | [] => none
  | run :: rest =>
    if run.first ≤ n ∧ n ≤ run.last ∧ (n - run.first) % run.stride = 0 then
      some (run.target + (n - run.first))
    else runImage n rest

/-- The image of a character: a sequence where one is listed, else the run's image, else the
character itself. -/
def image (runs : List Run) (sequences : List (Nat × List Nat)) (c : Char) : List Char :=
  match sequences.lookup c.toNat with
  | some codes => codes.map Char.ofNat
  | none => [((runImage c.toNat runs).map Char.ofNat).getD c]

def upperChar (c : Char) : List Char := image upperRuns upperSequences c

def lowerChar (c : Char) : List Char := image lowerRuns lowerSequences c

/-- Whether the first character that is not passed over has case. -/
def facesCased (cs : List Char) : Bool :=
  match cs.dropWhile Property.isCaseIgnorable with
  | [] => false
  | c :: _ => Property.isCased c

/-- The lower case of a sigma: final when a cased character precedes and none follows. -/
def lowerSigma (before after : List Char) : Char :=
  if facesCased before && !facesCased after then 'ς' else 'σ'

/-- The lower case of `cs`, which stands behind the characters `before`, nearest first. -/
def lowerFrom (before : List Char) : List Char → List Char
  | [] => []
  | c :: after =>
    (if c = 'Σ' then [lowerSigma before after] else lowerChar c) ++ lowerFrom (c :: before) after

def upper (s : String) : String := String.ofList (s.toList.flatMap upperChar)

def lower (s : String) : String := String.ofList (lowerFrom [] s.toList)

/-! ## Folding -/

/-- The case mapping of a character to one character, where there is one. -/
def simpleImage (runs : List Run) (sequences : List (Nat × List Nat)) (c : Char) : Char :=
  if (sequences.lookup c.toNat).isSome then c
  else ((runImage c.toNat runs).map Char.ofNat).getD c

/-- The representative of the characters that differ from `c` in case only.  The dotless i has no
such partner, and three ligatures and accented letters have one that no case mapping reaches. -/
def fold (c : Char) : Char :=
  if c = '\u0131' then c
  else if c = '\u1fd3' then '\u0390'
  else if c = '\u1fe3' then '\u03b0'
  else if c = '\ufb05' then '\ufb06'
  else simpleImage lowerRuns lowerSequences (simpleImage upperRuns upperSequences c)

/-- The characters that a run maps to `c`. -/
def runSources (runs : List Run) (c : Char) : List Char :=
  runs.filterMap fun run =>
    let n := c.toNat
    if run.target ≤ n ∧ n - run.target ≤ run.last - run.first ∧
        (n - run.target) % run.stride = 0 then
      some (Char.ofNat (run.first + (n - run.target)))
    else none

/-- All characters that differ from `c` in case only, `c` among them. -/
def orbit (c : Char) : List Char :=
  let root := fold c
  let lowers := root :: runSources lowerRuns root
  let near := lowers ++ lowers.flatMap (runSources upperRuns)
  c :: (near ++ ['\u1fd3', '\u1fe3', '\ufb05']).filter fun other => fold other == root

end Casing
end Text
end Prose

import Prose.Text.Cluster.Table
import Prose.Text.Property

namespace Prose
namespace Text
namespace Cluster

/-!
# Grapheme clusters

The extended grapheme clusters of the Unicode standard: what a reader takes for one character.  Each
character has a break class, and `joins` says from the characters of the present cluster whether the
next character belongs to it.
-/

/-- The grapheme break classes.  The Hangul classes `syllable` and `closedSyllable` are the syllables
without and with a trailing consonant. -/
inductive Break where
  | carriageReturn | lineFeed | control | extend | joiner | spacing | prepended | regional
  | leading | vowel | trailing | syllable | closedSyllable | other
deriving DecidableEq, Repr

/-- A character that attaches to the one before it: a grapheme extender or a skin tone. -/
def isExtender (c : Char) : Bool :=
  Property.extendsGrapheme c || (0x1F3FB ≤ c.toNat && c.toNat ≤ 0x1F3FF)

/-- Spacing marks attach as well, a few apart; two vowel signs do so without being marks. -/
def isSpacing (c : Char) : Bool :=
  (Category.spacingMarks.contains c && !standaloneSpacing.contains c) ||
    c = '\u0E33' || c = '\u0EB3'

/-- The class of a composed Hangul syllable. -/
def syllableBreak (n : Nat) : Break := if (n - 0xAC00) % 28 = 0 then .syllable else .closedSyllable

/-- The break class of a character. -/
def breakOf (c : Char) : Break :=
  if c = '\r' then .carriageReturn
  else if c = '\n' then .lineFeed
  else if controls.contains c then .control
  else if c.toNat < 0x0300 then .other
  else if c = '\u200D' then .joiner
  else if isExtender c then .extend
  else if isSpacing c then .spacing
  else if prepended.contains c then .prepended
  else if 0x1F1E6 ≤ c.toNat && c.toNat ≤ 0x1F1FF then .regional
  else if leadingJamo.contains c then .leading
  else if vowelJamo.contains c then .vowel
  else if trailingJamo.contains c then .trailing
  else if 0xAC00 ≤ c.toNat && c.toNat ≤ 0xD7A3 then syllableBreak c.toNat
  else .other

/-- Controls, carriage returns and line feeds stand alone. -/
def Break.standsAlone : Break → Bool
  | .carriageReturn | .lineFeed | .control => true
  | _ => false

/-- Hangul letters join to a syllable: leading consonants, then vowels, then trailing consonants. -/
def Break.sharesSyllable : Break → Break → Bool
  | .leading, .leading | .leading, .vowel | .leading, .syllable | .leading, .closedSyllable => true
  | .syllable, .vowel | .vowel, .vowel | .syllable, .trailing | .vowel, .trailing => true
  | .closedSyllable, .trailing | .trailing, .trailing => true
  | _, _ => false

/-- A joiner behind a pictograph, with extenders between them, awaits another pictograph.  The
characters are given nearest first. -/
def awaitsPictograph : List Char → Bool
  | [] => false
  | c :: before =>
    c = '\u200D' &&
      match before.dropWhile isExtender with
      | [] => false
      | p :: _ => pictographs.contains p

/-- What may stand between the consonants of a conjunct. -/
def keepsConjunct (c : Char) : Bool := c = '\u200D' || (isExtender c && c ≠ '\u200C')

/-- A consonant followed by a linker, with other extenders around it, awaits another consonant.
The characters are given nearest first. -/
def awaitsConsonant (before : List Char) : Bool :=
  (before.takeWhile keepsConjunct).any conjunctLinkers.contains &&
    match before.dropWhile keepsConjunct with
    | [] => false
    | c :: _ => conjunctConsonants.contains c

/-- Whether an odd number of regional indicators stands nearest. -/
def awaitsRegional (before : List Char) : Bool :=
  (before.takeWhile fun c => breakOf c = .regional).length % 2 = 1

/-- Whether `c` belongs to the cluster whose characters so far are `before`, nearest first. -/
def joins (before : List Char) (c : Char) : Bool :=
  match before with
  | [] => false
  | last :: _ =>
    let left := breakOf last
    let right := breakOf c
    if left = .carriageReturn && right = .lineFeed then true
    else if left.standsAlone || right.standsAlone then false
    else
      left.sharesSyllable right || right = .extend || right = .joiner || right = .spacing ||
        left = .prepended ||
        (conjunctConsonants.contains c && awaitsConsonant before) ||
        (pictographs.contains c && awaitsPictograph before) ||
        (right = .regional && awaitsRegional before)

/-- The clusters of `before.reverse ++ cs`, where `before` is the cluster under way. -/
def split (before : List Char) : List Char → List (List Char)
  | [] => [before.reverse]
  | c :: cs =>
    if joins before c then split (c :: before) cs else before.reverse :: split [c] cs

/-- The extended grapheme clusters of a text, in order. -/
def clusters : List Char → List (List Char)
  | [] => []
  | c :: cs => split [c] cs

end Cluster
end Text
end Prose

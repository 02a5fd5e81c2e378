import Prose.Text.Casing
import Prose.Text.Property

namespace Prose

/-!
# Patterns

Regular expressions over characters, and whether one matches somewhere in a text.  A pattern is taken as
a function on sets of places: `reach` gives the places behind all matches that start at some of the
given ones.  So there is no backtracking, and which of several matches is preferred does not matter.

Patterns that would grow too large are refused.  How large one grows is only estimated, from the sizes
of its classes and the repetitions written out.
-/

namespace Pattern

/-- Conditions on a place in a text, which take no character. -/
inductive Look where
  | textStart
  | textEnd
  | lineStart
  | lineEnd
  /-- As `lineStart`, where a carriage return ends a line as well. -/
  | anyLineStart
  | anyLineEnd
  | wordEdge (unicode : Bool)
  | notWordEdge (unicode : Bool)
  | wordStart (unicode : Bool)
  | wordEnd (unicode : Bool)
  | noWordBefore (unicode : Bool)
  | noWordAfter (unicode : Bool)
deriving DecidableEq, Repr

end Pattern

/-- A regular expression. -/
inductive Pattern where
  | empty
  /-- One character that satisfies a test.  The weight is the size of a compiled form in bytes. -/
  | one (weight : Nat) (test : Char → Bool)
  | look (condition : Pattern.Look)
  | seq (first second : Pattern)
  | either (first second : Pattern)
  /-- At least `least` and at most `most` repetitions, without an upper bound if `most` is `none`. -/
  | repeated (least : Nat) (most : Option Nat) (inner : Pattern)

namespace Pattern

/-- ASCII letters, digits and the underscore. -/
def isAsciiWord (c : Char) : Bool := c.isAlphanum || c = '_'

/-- Letters, marks, digits, connectors and joiners. -/
def isUnicodeWord (c : Char) : Bool :=
  if c.toNat < 0x80 then isAsciiWord c
  else
    Text.Property.isAlphabetic c || Text.Property.isMark c ||
      Text.Category.decimalNumbers.contains c || Text.Category.connectorMarks.contains c ||
      c = '\u200C' || c = '\u200D'

def isWord (unicode : Bool) (c : Char) : Bool :=
  if unicode then isUnicodeWord c else isAsciiWord c

/-! ## Places -/

/-- The character in front of a place. -/
def before (text : Array Char) (place : Nat) : Option Char :=
  if place = 0 then none else text[place - 1]?

def Look.holds (text : Array Char) (place : Nat) : Look → Bool
  | .textStart => place = 0
  | .textEnd => place = text.size
  | .lineStart => place = 0 || before text place = some '\n'
  | .lineEnd => place = text.size || text[place]? = some '\n'
  | .anyLineStart =>
    place = 0 || before text place = some '\n' ||
      (before text place = some '\r' && text[place]? ≠ some '\n')
  | .anyLineEnd =>
    place = text.size || text[place]? = some '\r' ||
      (text[place]? = some '\n' && before text place ≠ some '\r')
  | .wordEdge u => (before text place).any (isWord u) != text[place]?.any (isWord u)
  | .notWordEdge u => (before text place).any (isWord u) == text[place]?.any (isWord u)
  | .wordStart u => !(before text place).any (isWord u) && text[place]?.any (isWord u)
  | .wordEnd u => (before text place).any (isWord u) && !text[place]?.any (isWord u)
  | .noWordBefore u => !(before text place).any (isWord u)
  | .noWordAfter u => !text[place]?.any (isWord u)

def union : List Nat → List Nat → List Nat
  | [], qs => qs
  | ps, [] => ps
  | p :: ps, q :: qs =>
    if p < q then p :: union ps (q :: qs)
    else if q < p then q :: union (p :: ps) qs
    else p :: union ps qs

/-- The places of an ascending list that another one lacks. -/
def without : List Nat → List Nat → List Nat
  | [], _ => []
  | ps, [] => ps
  | p :: ps, q :: qs =>
    if p < q then p :: without ps (q :: qs)
    else if q < p then without (p :: ps) qs
    else without ps qs

/-- Take a step exactly `count` times.  A step that changes nothing will not do so later either. -/
def iterate (step : List Nat → List Nat) : Nat → List Nat → List Nat
  | 0, places => places
  | count + 1, places =>
    let next := step places
    if next = places then places else iterate step count next

/-- Take a step at most `count` times: all places met on the way.  Only the places met last can lead to
new ones. -/
def spread (step : List Nat → List Nat) : Nat → List Nat → List Nat → List Nat
  | 0, met, _ => met
  | count + 1, met, latest =>
    match without (step latest) met with
    | [] => met
    | fresh => spread step count (union met fresh) fresh

/-- The places behind the matches that start at the given places, all in ascending order. -/
def reach (text : Array Char) : Pattern → List Nat → List Nat
  | .empty, places => places
  | .one _ test, places =>
    places.filterMap fun place =>
      match text[place]? with
      | some c => if test c then some (place + 1) else none
      | none => none
  | .look condition, places => places.filter fun place => condition.holds text place
  | .seq first second, places => reach text second (reach text first places)
  | .either first second, places => union (reach text first places) (reach text second places)
  | .repeated least most inner, places =>
    let starts := iterate (fun qs => reach text inner qs) least places
    let further :=
      match most with
      | none => text.size + 1
      | some most => min (most - least) (text.size + 1)
    spread (fun qs => reach text inner qs) further starts starts

def isMatch (pattern : Pattern) (text : String) : Bool :=
  let chars := text.toList.toArray
  !(reach chars pattern (List.range (chars.size + 1))).isEmpty

/-! ## Size -/

/-- The size of a state of a compiled pattern. -/
def stateWeight : Nat := 32

/-- The estimated size of a pattern in a compiled form, in which bounded repetitions are written out. -/
def weight : Pattern → Nat
  | .empty => stateWeight
  | .one weight _ => weight
  | .look _ => stateWeight
  | .seq first second => first.weight + second.weight
  | .either first second => first.weight + second.weight + 2 * stateWeight
  | .repeated least most inner =>
    match most with
    | none => max 1 least * inner.weight + stateWeight
    | some most => least * inner.weight + (most - least) * (inner.weight + stateWeight) + stateWeight

/-- The greatest size that is accepted. -/
def weightLimit : Nat := 10 * Nat.pow 2 20

end Pattern
end Prose

namespace Prose
namespace Yaml

/-!
# Places in a YAML text

A cursor is the rest of a text with the line and the column that it begins at.  Lines end at a carriage
return, a line feed, both in this order, or one of three other line separators.
-/

/-- Whether a character may stand in a YAML text. -/
def isPrintable (c : Char) : Bool :=
  c = '\t' || c = '\n' || c = '\r' || (' ' ≤ c && c ≤ '~') || c = '\x85' ||
    ('\xA0' ≤ c && c ≤ '\uFFFD') || 0x10000 ≤ c.toNat

def isBlank (c : Char) : Bool := c = ' ' || c = '\t'

def isBreak (c : Char) : Bool :=
  c = '\r' || c = '\n' || c = '\x85' || c = '\u2028' || c = '\u2029'

/-- Whether a text ends or has a blank or a line end in front. -/
def blankNext (cs : List Char) : Bool := cs.head?.all fun c => isBlank c || isBreak c

/-- Whether a text ends or has a line end in front. -/
def breakNext (cs : List Char) : Bool := cs.head?.all isBreak

/-- The rest of a text and where it begins. -/
structure Cursor where
  rest : List Char
  index : Nat
  line : Nat
  column : Nat

namespace Cursor

def start (cs : List Char) : Cursor := ⟨cs, 0, 0, 0⟩

/-- Pass over characters none of which ends a line. -/
def skip (cursor : Cursor) (count : Nat) : Cursor :=
  ⟨cursor.rest.drop count, cursor.index + count, cursor.line, cursor.column + count⟩

/-- Pass over the characters in front that satisfy a test, none of which ends a line. -/
def skipWhile (cursor : Cursor) (test : Char → Bool) : Cursor :=
  cursor.skip (cursor.rest.takeWhile test).length

def skipLine (cursor : Cursor) : Cursor := cursor.skipWhile fun c => !isBreak c

/-- Pass over the line end in front.  Its text is a line feed, except for the two separators that keep
their own. -/
def breakLine (cursor : Cursor) : List Char × Cursor :=
  match cursor.rest with
  | '\r' :: '\n' :: rest => (['\n'], ⟨rest, cursor.index + 2, cursor.line + 1, 0⟩)
  | c :: rest =>
    (if c = '\u2028' || c = '\u2029' then [c] else ['\n'],
      ⟨rest, cursor.index + 1, cursor.line + 1, 0⟩)
  | [] => ([], cursor)

/-- Whether a line begins here with three equal characters, and nothing else up to a blank. -/
def marks (cursor : Cursor) (mark : Char) : Bool :=
  cursor.column = 0 &&
    match cursor.rest with
    | a :: b :: c :: rest => a = mark && b = mark && c = mark && blankNext rest
    | _ => false

/-- Whether a line begins here that separates documents. -/
def separates (cursor : Cursor) : Bool := cursor.marks '-' || cursor.marks '.'

end Cursor
end Yaml
end Prose

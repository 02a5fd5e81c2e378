import Prose.Yaml.Cursor

namespace Prose
namespace Yaml
namespace Scalar

/-!
# Scalars in a YAML text

A scalar is written plain, between quotes, or as a block.  Plain and quoted scalars run over several
lines; a single line end in them is read as a space, and of several the first one is dropped.
-/

/-! ## Folding -/

/-- Blanks and line ends between two words.  If a line has ended, blanks do not count. -/
structure Gap where
  broken : Bool
  blanks : List Char
  first : List Char
  others : List Char

/-- No blanks and no line ends. -/
def Gap.none : Gap := ⟨false, [], [], []⟩

def Gap.text (gap : Gap) : List Char :=
  if gap.broken then
    if gap.first = ['\n'] then
      if gap.others.isEmpty then [' '] else gap.others
    else gap.first ++ gap.others
  else gap.blanks

/-- Read a gap.  In front of the column `margin` a line must not be indented by a tab. -/
def readGap (margin : Nat) : Nat → Gap → Cursor → Option (Gap × Cursor)
  | 0, gap, cursor => some (gap, cursor)
  | fuel + 1, gap, cursor =>
    match cursor.rest with
    | [] => some (gap, cursor)
    | c :: _ =>
      if isBlank c then
        if gap.broken then
          if c = '\t' && cursor.column < margin then Option.none
          else readGap margin fuel gap (cursor.skip 1)
        else readGap margin fuel { gap with blanks := gap.blanks ++ [c] } (cursor.skip 1)
      else if isBreak c then
        let (ending, cursor) := cursor.breakLine
        if gap.broken then
          readGap margin fuel { gap with others := gap.others ++ ending } cursor
        else readGap margin fuel ⟨true, [], ending, gap.others⟩ cursor
      else some (gap, cursor)

/-! ## Plain scalars -/

def isFlow (c : Char) : Bool := c = ',' || c = '[' || c = ']' || c = '\x7b' || c = '\x7d'

/-- Read a run of a plain scalar without blanks. -/
def plainRun (flow : Bool) : List Char → Option (List Char)
  | [] => some []
  | c :: rest =>
    if isBlank c || isBreak c then some []
    else if flow && c = ':' && rest.head?.any fun d => isFlow d || d = '?' then Option.none
    else if c = ':' && blankNext rest then some []
    else if flow && isFlow c then some []
    else (plainRun flow rest).map (c :: ·)

/-- Read on in a plain scalar behind a gap.  The gap counts only if another run follows it.  The result
tells whether a line ended behind the scalar. -/
def plainFrom (flow : Bool) (margin : Nat) :
    Nat → List Char → Gap → Cursor → Option (List Char × Bool × Cursor)
  | 0, text, gap, cursor => some (text, gap.broken, cursor)
  | fuel + 1, text, gap, cursor =>
    if cursor.separates || cursor.rest.head? = some '#' then some (text, gap.broken, cursor)
    else do
      let run ← plainRun flow cursor.rest
      let text := if run.isEmpty then text else text ++ gap.text ++ run
      let gap := if run.isEmpty then gap else Gap.none
      let cursor := cursor.skip run.length
      match cursor.rest with
      | [] => return (text, gap.broken, cursor)
      | c :: _ =>
        if isBlank c || isBreak c then
          let (gap, cursor) ← readGap margin cursor.rest.length gap cursor
          if !flow && cursor.column < margin then return (text, gap.broken, cursor)
          else plainFrom flow margin fuel text gap cursor
        else return (text, gap.broken, cursor)

def plain (flow : Bool) (margin : Nat) (cursor : Cursor) : Option (List Char × Bool × Cursor) :=
  plainFrom flow margin cursor.rest.length [] Gap.none cursor

/-! ## Quoted scalars -/

def hexDigit? (c : Char) : Option Nat :=
  if c.isDigit then some (c.toNat - 48)
  else if 'a' ≤ c && c ≤ 'f' then some (c.toNat - 87)
  else if 'A' ≤ c && c ≤ 'F' then some (c.toNat - 55)
  else Option.none

/-- The character of a code point in hexadecimal digits. -/
def codePoint? (digits : List Char) (count : Nat) : Option Char := do
  if digits.length < count then Option.none
  let values ← digits.mapM hexDigit?
  let code := values.foldl (fun code digit => code * 16 + digit) 0
  if code.isValidChar then return Char.ofNat code else Option.none

/-- The character of an escape by one letter. -/
def escaped? : Char → Option Char
  | '0' => some '\x00'
  | 'a' => some '\x07'
  | 'b' => some '\x08'
  | 't' => some '\t'
  | '\t' => some '\t'
  | 'n' => some '\n'
  | 'v' => some '\x0b'
  | 'f' => some '\x0c'
  | 'r' => some '\r'
  | 'e' => some '\x1b'
  | ' ' => some ' '
  | '"' => some '"'
  | '/' => some '/'
  | '\\' => some '\\'
  | 'N' => some '\x85'
  | '_' => some '\xA0'
  | 'L' => some '\u2028'
  | 'P' => some '\u2029'
  | _ => Option.none

/-- How many digits an escape by a code point has. -/
def escapeLength? : Char → Option Nat
  | 'x' => some 2
  | 'u' => some 4
  | 'U' => some 8
  | _ => Option.none

/-- A run of a quoted scalar without blanks: its text, how many characters it is written in, and whether
an escaped line end follows it. -/
structure Run where
  text : List Char
  length : Nat
  escapes : Bool

/-- Put a character in front of a run, written in a number of characters. -/
def Run.add (run : Run) (c : Char) (length : Nat) : Run :=
  { run with text := c :: run.text, length := run.length + length }

/-- Read a run between single quotes.  A quote is written twice. -/
def singleRun : List Char → Run
  | [] => ⟨[], 0, false⟩
  | '\'' :: '\'' :: rest => (singleRun rest).add '\'' 2
  | c :: rest =>
    if c = '\'' || isBlank c || isBreak c then ⟨[], 0, false⟩ else (singleRun rest).add c 1

/-- Read a run between double quotes, of at most a number of characters. -/
def doubleRun : Nat → List Char → Option Run
  | 0, _ | _, [] => some ⟨[], 0, false⟩
  | fuel + 1, c :: rest =>
    if c = '"' || isBlank c || isBreak c then some ⟨[], 0, false⟩
    else if c = '\\' then
      match rest with
      | [] => Option.none
      | d :: rest =>
        if isBreak d then some ⟨[], 0, true⟩
        else
          match escapeLength? d with
          | some count => do
            let value ← codePoint? (rest.take count) count
            return (← doubleRun fuel (rest.drop count)).add value (count + 2)
          | Option.none => do
            let value ← escaped? d
            return (← doubleRun fuel rest).add value 2
    else (doubleRun fuel rest).map fun run => run.add c 1

/-- Read on in a quoted scalar, up to the quote that closes it. -/
def quotedFrom (single : Bool) : Nat → List Char → Cursor → Option (List Char × Cursor)
  | 0, _, _ => Option.none
  | fuel + 1, text, cursor =>
    if cursor.separates || cursor.rest.isEmpty then Option.none
    else do
      let run ← if single then some (singleRun cursor.rest)
        else doubleRun cursor.rest.length cursor.rest
      let text := text ++ run.text
      let cursor := cursor.skip run.length
      let cursor := if run.escapes then (cursor.skip 1).breakLine.2 else cursor
      if cursor.rest.head? = some (if single then '\'' else '"') then
        return (text, cursor.skip 1)
      else
        let (gap, cursor) ←
          readGap 0 cursor.rest.length { Gap.none with broken := run.escapes } cursor
        quotedFrom single fuel (text ++ gap.text) cursor

def quoted (single : Bool) (cursor : Cursor) : Option (List Char × Cursor) :=
  quotedFrom single (cursor.rest.length + 1) [] cursor

/-! ## Block scalars -/

/-- What becomes of the line ends behind a block: one stays, none, or all. -/
inductive Chomping where
  | clip
  | strip
  | keep
deriving DecidableEq, Repr

/-- Read the chomping and the indentation that a block may be headed by, in either order. -/
def blockHeader (cs : List Char) : Option (Chomping × Option Nat × Nat) :=
  let chomping? : Char → Option Chomping := fun c =>
    if c = '+' then some .keep else if c = '-' then some .strip else Option.none
  match cs with
  | [] => some (.clip, Option.none, 0)
  | c :: rest =>
    match chomping? c with
    | some chomping =>
      match rest with
      | d :: _ =>
        if d = '0' then Option.none
        else if d.isDigit then some (chomping, some (d.toNat - 48), 2)
        else some (chomping, Option.none, 1)
      | [] => some (chomping, Option.none, 1)
    | Option.none =>
      if c = '0' then Option.none
      else if c.isDigit then
        match rest.head?.bind chomping? with
        | some chomping => some (chomping, some (c.toNat - 48), 2)
        | Option.none => some (.clip, some (c.toNat - 48), 1)
      else some (.clip, Option.none, 0)

/-- Pass over empty lines and the indentation of the line behind them.  The indentation of the block is
that of the deepest of these lines unless it is known. -/
def blockMargin (known : Option Nat) :
    Nat → Nat → List Char → Cursor → Option (Nat × List Char × Cursor)
  | 0, deepest, endings, cursor => some (deepest, endings, cursor)
  | fuel + 1, deepest, endings, cursor =>
    let cursor :=
      match known with
      | some margin =>
        cursor.skip (min (margin - cursor.column) (cursor.rest.takeWhile (· = ' ')).length)
      | Option.none => cursor.skipWhile (· = ' ')
    let deepest := max deepest cursor.column
    if cursor.rest.head? = some '\t' && known.all fun margin => cursor.column < margin then
      Option.none
    else if cursor.rest.head?.any isBreak then
      let (ending, cursor) := cursor.breakLine
      blockMargin known fuel deepest (endings ++ ending) cursor
    else some (deepest, endings, cursor)

/-- Read the lines of a block.  `ending` is the end of the line before, `endings` those of the empty
lines behind it, and `led` tells whether that line began with a blank. -/
def blockLines (literal : Bool) (margin : Nat) :
    Nat → List Char → List Char → List Char → Bool → Cursor →
      Option (List Char × List Char × List Char × Cursor)
  | 0, text, ending, endings, _, cursor => some (text, ending, endings, cursor)
  | fuel + 1, text, ending, endings, led, cursor =>
    if cursor.column = margin && !cursor.rest.isEmpty then do
      let leads := cursor.rest.head?.any isBlank
      let joint :=
        if !literal && ending = ['\n'] && !led && !leads then
          if endings.isEmpty then [' '] else []
        else ending
      let line := cursor.rest.takeWhile fun c => !isBreak c
      let (ending, next) := (cursor.skip line.length).breakLine
      let (_, later, next) ← blockMargin (some margin) next.rest.length.succ 0 [] next
      blockLines literal margin fuel (text ++ joint ++ endings ++ line) ending later leads next
    else some (text, ending, endings, cursor)

/-- Read a block scalar behind its indicator.  `indent` is the column of the collection it stands in,
if there is one. -/
def block (literal : Bool) (indent : Option Nat) (cursor : Cursor) :
    Option (List Char × Cursor) := do
  let (chomping, increment, length) ← blockHeader cursor.rest
  let cursor := (cursor.skip length).skipWhile isBlank
  let cursor := if cursor.rest.head? = some '#' then cursor.skipLine else cursor
  if !breakNext cursor.rest then Option.none
  let cursor := cursor.breakLine.2
  let known := increment.map fun increment => indent.getD 0 + increment
  let (deepest, endings, cursor) ← blockMargin known cursor.rest.length.succ 0 [] cursor
  let margin := known.getD (max deepest (max (indent.elim 0 (· + 1)) 1))
  let (text, ending, endings, cursor) ←
    blockLines literal margin cursor.rest.length.succ [] [] endings false cursor
  let text := if chomping = .strip then text else text ++ ending
  return (if chomping = .keep then text ++ endings else text, cursor)

end Scalar
end Yaml
end Prose

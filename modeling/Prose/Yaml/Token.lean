import Prose.Yaml.Scalar

namespace Prose
namespace Yaml

/-!
# Tokens of YAML

A text is cut into tokens.  Outside brackets the column of a token tells which collections have ended
and whether one begins.  A token on one line with a colon behind it is a key; that becomes known only at
the colon, so the token that marks a key is put in front of it then.
-/

/-- A token. -/
inductive Token where
  | version (major minor : Nat)
  | tagShorthand (handle replacement : String)
  | documentStart
  | documentEnd
  | sequenceStart
  | mappingStart
  | collectionEnd
  | openBracket
  | closeBracket
  | openBrace
  | closeBrace
  | dash
  | comma
  | key
  | colon
  | alias (name : String)
  | anchor (name : String)
  | tag (handle suffix : String)
  | scalar (plain : Bool) (text : String)
deriving DecidableEq, Repr

/-- A place where a key may have begun: the number of its token, and where it stands. -/
structure Candidate where
  token : Nat
  index : Nat
  line : Nat
  column : Nat
  /-- There must be a key, since the line would otherwise end the collection it stands in. -/
  required : Bool

/-- The tokens read so far and what the rest of the text is read with. -/
structure Scan where
  cursor : Cursor
  tokens : Array Token
  /-- The columns of the open collections outside brackets, the innermost in front. -/
  indents : List Nat
  /-- How many brackets are open. -/
  depth : Nat
  /-- Whether a key may begin here. -/
  keyAllowed : Bool
  /-- For each open bracket, and for the place outside, where the last key may have begun. -/
  candidates : List (Option Candidate)

namespace Scan

def start (cs : List Char) : Scan := ⟨Cursor.start cs, #[], [], 0, true, [none]⟩

def emit (scan : Scan) (token : Token) : Scan := { scan with tokens := scan.tokens.push token }

/-- Put a token in front of one with a number. -/
def emitAt (scan : Scan) (index : Nat) (token : Token) : Scan :=
  { scan with tokens := scan.tokens.insertIdxIfInBounds index token }

/-- Set where the last key may have begun. -/
def setCandidate (scan : Scan) (candidate : Option Candidate) : Scan :=
  { scan with candidates := candidate :: scan.candidates.drop 1 }

/-- Where the last key may have begun. -/
def candidate? (scan : Scan) : Option Candidate := scan.candidates.head?.join

/-- Give up the last place where a key may have begun.  It is an error if there must be one. -/
def giveUp (scan : Scan) : Option Scan :=
  if scan.candidate?.any (·.required) then none else some (scan.setCandidate none)

/-- Give up all places from which a key would be too long, or longer than its line. -/
def expire (scan : Scan) : Option Scan := do
  let stale : Candidate → Bool := fun candidate =>
    candidate.line < scan.cursor.line || candidate.index + 1024 < scan.cursor.index
  if scan.candidates.any fun candidate => candidate.any fun c => stale c && c.required then none
  return { scan with candidates := scan.candidates.map fun candidate => candidate.filter (!stale ·) }

/-- Note that a key may begin here. -/
def maySave (scan : Scan) : Option Scan :=
  if scan.keyAllowed then do
    let required := scan.depth = 0 && scan.indents.head? = some scan.cursor.column
    let scan ← scan.giveUp
    return scan.setCandidate <| some
      ⟨scan.tokens.size, scan.cursor.index, scan.cursor.line, scan.cursor.column, required⟩
  else some scan

/-- Whether a column lies behind that of the innermost collection. -/
def isDeeper (scan : Scan) (column : Nat) : Bool := scan.indents.head?.all (· < column)

/-- Begin a collection at a column if that lies behind the innermost one.  Its token is put in front of
the token with a number, or at the end. -/
def indentTo (scan : Scan) (column : Nat) (token : Token) (index : Option Nat) : Scan :=
  if scan.depth = 0 && scan.isDeeper column then
    let scan :=
      match index with
      | some index => scan.emitAt index token
      | none => scan.emit token
    { scan with indents := column :: scan.indents }
  else scan

/-- End the collections that begin behind a column, or all of them. -/
def dedentTo (scan : Scan) (column : Option Nat) : Scan :=
  if scan.depth = 0 then
    let ends := scan.indents.takeWhile fun indent => column.all (· < indent)
    { scan with
      tokens := scan.tokens ++ ends.map fun _ => Token.collectionEnd
      indents := scan.indents.drop ends.length }
  else scan

/-- The column that the lines of a scalar lie behind. -/
def margin (scan : Scan) : Nat := scan.indents.head?.elim 0 (· + 1)

/-- Pass over blanks, comments and line ends.  A tab is no blank where a key may begin, unless inside
brackets. -/
def skipBlanks (scan : Scan) : Nat → Scan
  | 0 => scan
  | fuel + 1 =>
    let cursor :=
      scan.cursor.skipWhile fun c => c = ' ' || ((scan.depth ≠ 0 || !scan.keyAllowed) && c = '\t')
    let cursor := if cursor.rest.head? = some '#' then cursor.skipLine else cursor
    if cursor.rest.head?.any isBreak then
      { scan with
        cursor := cursor.breakLine.2
        keyAllowed := scan.keyAllowed || scan.depth = 0 }.skipBlanks fuel
    else { scan with cursor := cursor }

/-! ## Directives, anchors and tags -/

def isWord (c : Char) : Bool := c.isAlphanum || c = '_' || c = '-'

def word (cursor : Cursor) : String × Cursor :=
  let name := cursor.rest.takeWhile isWord
  (String.ofList name, cursor.skip name.length)

/-- Read a number of at most nine digits. -/
def number? (cursor : Cursor) : Option (Nat × Cursor) :=
  let digits := cursor.rest.takeWhile Char.isDigit
  if digits.isEmpty || 9 < digits.length then none
  else
    some (digits.foldl (fun n d => n * 10 + (d.toNat - 48)) 0, cursor.skip digits.length)

def isTagChar (enclosed : Bool) (c : Char) : Bool :=
  isWord c || c ∈ [';', '/', '?', ':', '@', '&', '=', '+', '$', '.', '%', '!', '~', '*', '\'', '(', ')'] ||
    (enclosed && (c = ',' || c = '[' || c = ']'))

/-- The byte that two hexadecimal digits behind a percent sign stand for. -/
def escapedByte? : List Char → Option (Nat × List Char)
  | '%' :: high :: low :: rest => do
    return (16 * (← Scalar.hexDigit? high) + (← Scalar.hexDigit? low), rest)
  | _ => none

/-- Read a number of continuation bytes. -/
def continuation? : Nat → Nat → List Char → Option (Nat × List Char)
  | 0, code, cs => some (code, cs)
  | count + 1, code, cs => do
    let (byte, cs) ← escapedByte? cs
    if byte / 64 = 2 then continuation? count (code * 64 + byte % 64) cs else none

/-- Read the characters of a tag, in which bytes may be escaped, up to a limit. -/
def tagText? (enclosed : Bool) : Nat → List Char → Option (List Char × List Char)
  | 0, cs => some ([], cs)
  | _, [] => some ([], [])
  | fuel + 1, c :: rest =>
    if c = '%' then do
      let (byte, left) ← escapedByte? (c :: rest)
      let (code, left) ←
        if byte < 0x80 then some (byte, left)
        else if byte / 32 = 6 then continuation? 1 (byte % 32) left
        else if byte / 16 = 14 then continuation? 2 (byte % 16) left
        else if byte / 8 = 30 then continuation? 3 (byte % 8) left
        else none
      let (text, left) ← tagText? enclosed fuel left
      return (Char.ofNat code :: text, left)
    else if isTagChar enclosed c then do
      let (text, left) ← tagText? enclosed fuel rest
      return (c :: text, left)
    else some ([], c :: rest)

def tagUri? (enclosed : Bool) (front : List Char) (cursor : Cursor) : Option (String × Cursor) := do
  let (text, left) ← tagText? enclosed cursor.rest.length cursor.rest
  if front.isEmpty && text.isEmpty then none
  return (String.ofList (front.drop 1 ++ text), cursor.skip (cursor.rest.length - left.length))

/-- Read the handle in front of a tag: exclamation marks around a name, the second of which may be
missing. -/
def tagHandle? (cursor : Cursor) : Option (List Char × Cursor) :=
  match cursor.rest with
  | '!' :: rest =>
    let name := rest.takeWhile isWord
    let closing := if (rest.drop name.length).head? = some '!' then ['!'] else []
    let handle := '!' :: name ++ closing
    some (handle, cursor.skip handle.length)
  | _ => none

/-- Whether a handle has both exclamation marks. -/
def isClosed (handle : List Char) : Bool := 1 < handle.length && handle.getLast? = some '!'

def tag? (cursor : Cursor) : Option (Token × Cursor) :=
  match cursor.rest with
  | '!' :: '<' :: _ => do
    let (text, cursor) ← tagUri? true [] (cursor.skip 2)
    if cursor.rest.head? = some '>' then return (.tag "" text, cursor.skip 1) else none
  | _ => do
    let (handle, cursor) ← tagHandle? cursor
    if isClosed handle then
      let (text, cursor) ← tagUri? false [] cursor
      return (.tag (String.ofList handle) text, cursor)
    else
      let (text, cursor) ← tagUri? false handle cursor
      return (if text.isEmpty then .tag "" "!" else .tag "!" text, cursor)

def version? (cursor : Cursor) : Option (Token × Cursor) := do
  let (major, cursor) ← number? (cursor.skipWhile isBlank)
  if cursor.rest.head? ≠ some '.' then none
  let (minor, cursor) ← number? (cursor.skip 1)
  return (.version major minor, cursor)

/-- Read a shorthand for tags: a handle and what it stands for. -/
def shorthand? (cursor : Cursor) : Option (Token × Cursor) := do
  let (handle, cursor) ← tagHandle? (cursor.skipWhile isBlank)
  if !(isClosed handle || handle = ['!']) then none
  if !cursor.rest.head?.any isBlank then none
  let (text, cursor) ← tagUri? true [] (cursor.skipWhile isBlank)
  if !blankNext cursor.rest then none
  return (.tagShorthand (String.ofList handle) text, cursor)

/-- Read a directive, behind its sign, with the rest of its line. -/
def directive? (cursor : Cursor) : Option (Token × Cursor) := do
  let (name, cursor) := word cursor
  if !blankNext cursor.rest then none
  let (token, cursor) ←
    if name = "YAML" then version? cursor
    else if name = "TAG" then shorthand? cursor
    else none
  let cursor := cursor.skipWhile isBlank
  let cursor := if cursor.rest.head? = some '#' then cursor.skipLine else cursor
  if !breakNext cursor.rest then none
  return (token, cursor.breakLine.2)

/-- Read the name of an anchor or of an alias, behind its sign. -/
def anchorName? (cursor : Cursor) : Option (String × Cursor) :=
  let (name, cursor) := word cursor
  if name.isEmpty then none
  else if blankNext cursor.rest ||
      cursor.rest.head?.any (· ∈ ['?', ':', ',', ']', '\x7d', '%', '@', '\x60']) then
    some (name, cursor)
  else none

/-! ## One token after the other -/

/-- Add a token of a number of characters. -/
def punctuate (scan : Scan) (token : Token) (length : Nat) : Scan :=
  { scan.emit token with cursor := scan.cursor.skip length }

def opens (scan : Scan) (token : Token) : Option Scan := do
  let scan ← scan.maySave
  return { scan.punctuate token 1 with
    candidates := none :: scan.candidates, depth := scan.depth + 1, keyAllowed := true }

def closes (scan : Scan) (token : Token) : Option Scan := do
  let scan ← scan.giveUp
  return { scan.punctuate token 1 with
    candidates := if scan.depth = 0 then scan.candidates else scan.candidates.drop 1
    depth := scan.depth - 1
    keyAllowed := false }

def delimits (scan : Scan) (token : Token) : Option Scan := do
  let scan ← (scan.dedentTo none).giveUp
  return { scan.punctuate token 3 with keyAllowed := false }

def directs (scan : Scan) : Option Scan := do
  let scan ← (scan.dedentTo none).giveUp
  let (token, cursor) ← directive? (scan.cursor.skip 1)
  return { scan.emit token with cursor := cursor, keyAllowed := false }

/-- An item or a key begins.  Outside brackets that may begin a collection. -/
def begins (scan : Scan) (token collection : Token) (keyAllowed : Bool) : Option Scan := do
  if scan.depth = 0 && !scan.keyAllowed then none
  let scan ← (scan.indentTo scan.cursor.column collection none).giveUp
  return { scan.punctuate token 1 with keyAllowed := keyAllowed }

/-- A colon.  If a key may have begun, it has. -/
def colon (scan : Scan) : Option Scan :=
  match scan.candidate? with
  | some candidate =>
    let scan := scan.emitAt candidate.token .key
    let scan := scan.indentTo candidate.column .mappingStart (some candidate.token)
    some { (scan.setCandidate none).punctuate .colon 1 with keyAllowed := false }
  | none => do
    if scan.depth = 0 && !scan.keyAllowed then none
    let scan := scan.indentTo scan.cursor.column .mappingStart none
    return { scan.punctuate .colon 1 with keyAllowed := scan.depth = 0 }

/-- A token that may be a key, read behind its sign of a given length. -/
def content (scan : Scan) (length : Nat) (read : Cursor → Option (Token × Cursor)) :
    Option Scan := do
  let scan ← scan.maySave
  let (token, cursor) ← read (scan.cursor.skip length)
  return { scan.emit token with cursor := cursor, keyAllowed := false }

/-- A tag with what must follow it. -/
def tagged (inside : Bool) (cursor : Cursor) : Option (Token × Cursor) := do
  let (token, cursor) ← tag? cursor
  if (inside && cursor.rest.head? = some ',') || blankNext cursor.rest then return (token, cursor)
  else none

def quoted (single : Bool) (cursor : Cursor) : Option (Token × Cursor) :=
  (Scalar.quoted single cursor).map fun (text, cursor) => (.scalar false (String.ofList text), cursor)

/-- A plain scalar.  Where it ends with its line, a key may follow. -/
def plain (scan : Scan) : Option Scan := do
  let scan ← scan.maySave
  let (text, broken, cursor) ← Scalar.plain (scan.depth ≠ 0) scan.margin scan.cursor
  return { scan.emit (.scalar true (String.ofList text)) with
    cursor := cursor, keyAllowed := broken }

def block (scan : Scan) (literal : Bool) : Option Scan := do
  let scan ← scan.giveUp
  let (text, cursor) ← Scalar.block literal scan.indents.head? (scan.cursor.skip 1)
  return { scan.emit (.scalar false (String.ofList text)) with cursor := cursor, keyAllowed := true }

/-- Signs that no plain scalar begins with. -/
def isSign (c : Char) : Bool :=
  c ∈ ['-', '?', ':', ',', '[', ']', '\x7b', '\x7d', '#', '&', '*', '!', '|', '>', '\'', '"', '%', '@', '\x60']

/-- Read a token that begins with a character. -/
def token (scan : Scan) (c : Char) (rest : List Char) : Option Scan :=
  let inside := decide (scan.depth ≠ 0)
  let apart := blankNext rest
  if scan.cursor.column = 0 && c = '%' then scan.directs
  else if scan.cursor.marks '-' then scan.delimits .documentStart
  else if scan.cursor.marks '.' then scan.delimits .documentEnd
  else if c = '[' then scan.opens .openBracket
  else if c = '\x7b' then scan.opens .openBrace
  else if c = ']' then scan.closes .closeBracket
  else if c = '\x7d' then scan.closes .closeBrace
  else if c = ',' then
    scan.giveUp.map fun scan => { scan.punctuate .comma 1 with keyAllowed := true }
  else if c = '-' && apart then scan.begins .dash .sequenceStart true
  else if c = '?' && (inside || apart) then scan.begins .key .mappingStart (!inside)
  else if c = ':' && (inside || apart) then scan.colon
  else if c = '*' then
    scan.content 1 fun cursor => (anchorName? cursor).map fun (name, cursor) => (.alias name, cursor)
  else if c = '&' then
    scan.content 1 fun cursor => (anchorName? cursor).map fun (name, cursor) => (.anchor name, cursor)
  else if c = '!' then scan.content 0 (tagged inside)
  else if c = '|' && !inside then scan.block true
  else if c = '>' && !inside then scan.block false
  else if c = '\'' then scan.content 1 (quoted true)
  else if c = '"' then scan.content 1 (quoted false)
  else if !(isBlank c || isSign c) || (c = '-' && !rest.head?.any isBlank) ||
      (!inside && (c = '?' || c = ':') && !apart) then
    scan.plain
  else none

/-- Read tokens up to the end of the text. -/
def run : Nat → Scan → Option Scan
  | 0, _ => none
  | fuel + 1, scan => do
    let scan ← (scan.skipBlanks (scan.cursor.rest.length + 1)).expire
    let scan := scan.dedentTo (some scan.cursor.column)
    match scan.cursor.rest with
    | [] => (scan.dedentTo none).giveUp
    | c :: rest => run fuel (← scan.token c rest)

end Scan

/-- The tokens of a text.  A byte order mark may stand in front of it. -/
def Token.scan (text : String) : Option (List Token) := do
  let cs := text.toList
  if !cs.all isPrintable then none
  let scan := Scan.start cs
  let scan :=
    if cs.head? = some '\uFEFF' then { scan with cursor := scan.cursor.skip 1 } else scan
  return (← scan.run (cs.length + 1)).tokens.toList

end Yaml
end Prose

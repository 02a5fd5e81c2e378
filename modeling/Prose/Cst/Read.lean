import Prose.Cst.Basic
import Prose.Json.Read

namespace Prose
namespace Cst

/-!
# Reading concrete syntax trees

A node is an object with the fields `type`, `children`, `value` and `data`, in any order and with any
further fields, which are passed over; or it is an array of the four in this order, of which all but
the first may be missing at the end.  A field that is `null` counts as absent.

Reading works on the text itself and not on a value read before, because the place at which the first
flaw is noticed is part of the answer.
-/

open Json (Fields)
open Json.Scan

/-- The fields of a node read so far.  For an optional field, `some none` stands for one that was
`null`. -/
structure Draft where
  type : Option String
  children : Option (Option (List Cst))
  value : Option (Option String)
  data : Option (Option Fields)

def Draft.empty : Draft := ⟨none, none, none, none⟩

/-- The node of a draft that has a type. -/
def Draft.node? (draft : Draft) : Option Cst :=
  draft.type.map fun type => ⟨type, draft.children.join, draft.value.join, draft.data.join⟩

/-- Stop at something that is not what was wanted.  A scalar is read to its end first; the stop is
behind it, and in front of an array or object. -/
def mismatch {α : Type} (wanted : String) (cs : List Char) : Except Stop α :=
  let found (what : Found) (left : List Char) : Except Stop α :=
    stopAt (.invalidType what wanted) left
  match cs with
  | 'n' :: rest => (literal ['u', 'l', 'l'] rest).bind (found .null)
  | 't' :: rest => (literal ['r', 'u', 'e'] rest).bind (found (.boolean true))
  | 'f' :: rest => (literal ['a', 'l', 's', 'e'] rest).bind (found (.boolean false))
  | '-' :: rest => (number false rest).bind foundNumber
  | '"' :: rest => (stringTail [] 0 rest).bind fun (s, left) => found (.text s) left
  | '[' :: _ => found .sequence cs
  | '\x7b' :: _ => found .map cs
  | c :: _ => if c.isDigit then (number true cs).bind foundNumber else stopOn .expectedValue cs
  | [] => stopOn .expectedValue cs
where
  /-- A number was found. -/
  foundNumber : Json × List Char → Except Stop α
    | (.integer n, left) => stopAt (.invalidType (.integer n) wanted) left
    | (.number x, left) => stopAt (.invalidType (.number x) wanted) left
    | (_, left) => stopAt .invalidNumber left

def text (cs : List Char) : Scanned String :=
  match skipBlanks cs with
  | [] => stopAt .endInValue []
  | '"' :: rest => stringTail [] 0 rest
  | left => mismatch "a string" left

def annotations (fuel depth : Nat) (cs : List Char) : Scanned Fields :=
  match skipBlanks cs with
  | [] => stopAt .endInValue []
  | '\x7b' :: rest =>
    if depth ≤ 1 then stopOn .tooDeep ('\x7b' :: rest) else fields fuel (depth - 1) true [] rest
  | left => mismatch "a map" left

/-- Read `null` as absence, and anything else with the reader given. -/
def optional {α : Type} (read : List Char → Scanned α) (cs : List Char) : Scanned (Option α) :=
  match skipBlanks cs with
  | 'n' :: rest => (literal ['u', 'l', 'l'] rest).map fun left => (none, left)
  | left => (read left).map fun (result, left) => (some result, left)

/-- The place where a flaw of a whole object is told: behind its closing bracket, if that is next. -/
def closeObject (cs : List Char) : List Char :=
  match skipBlanks cs with
  | '\x7d' :: rest => rest
  | left => left

/-- The fields that a node may have. -/
inductive Field where
  | type
  | children
  | value
  | data
  | other

def Field.ofKey (key : String) : Field :=
  if key = "type" then .type
  else if key = "children" then .children
  else if key = "value" then .value
  else if key = "data" then .data
  else .other

def Draft.has (draft : Draft) : Field → Bool
  | .type => draft.type.isSome
  | .children => draft.children.isSome
  | .value => draft.value.isSome
  | .data => draft.data.isSome
  | .other => false

/-- What a node is called where one was wanted. -/
def wantedNode : String := "struct CstNode"

/-- An item of a node in array form; the array may end before it. -/
def item {α : Type} (first : Bool) (read : List Char → Scanned α) (cs : List Char) :
    Scanned (Option α) :=
  match nextItem first cs with
  | .error stop => .error stop
  | .ok (.close left) => .ok (none, ']' :: left)
  | .ok (.more left) => (read left).map fun (result, left) => (some result, left)

/-- The end of a node in array form. -/
def endItems (cs : List Char) : Except Stop (List Char) :=
  match skipBlanks cs with
  | [] => stopOn .endInList []
  | ']' :: rest => .ok rest
  | ',' :: rest =>
    match skipBlanks rest with
    | ']' :: tail => stopOn .trailingComma (']' :: tail)
    | left => stopOn .trailingCharacters left
  | left => stopOn .trailingCharacters left

mutual

def node (fuel depth : Nat) (cs : List Char) : Scanned Cst :=
  match fuel with
  | 0 => stopAt .tooDeep cs
  | fuel + 1 =>
    match skipBlanks cs with
    | [] => stopAt .endInValue []
    | '[' :: rest =>
      if depth ≤ 1 then stopOn .tooDeep ('[' :: rest)
      else
        match nodeItems fuel (depth - 1) rest with
        | .error stop => .error stop
        | .ok (result, left) => (endItems left).map fun left => (result, left)
    | '\x7b' :: rest =>
      if depth ≤ 1 then stopOn .tooDeep ('\x7b' :: rest)
      else nodeFields fuel (depth - 1) true Draft.empty rest
    | left => mismatch wantedNode left

/-- Read the items of a node in array form, up to the closing bracket. -/
def nodeItems (fuel depth : Nat) (cs : List Char) : Scanned Cst :=
  match fuel with
  | 0 => stopAt .tooDeep cs
  | fuel + 1 =>
    match item true text cs with
    | .error stop => .error stop
    | .ok (none, left) =>
      stopAt (.invalidLength 0 (wantedNode ++ " with 4 elements")) (left.drop 1)
    | .ok (some type, left) =>
      match item false (optional (nodeList fuel depth)) left with
      | .error stop => .error stop
      | .ok (children, left) =>
        match item false (optional text) left with
        | .error stop => .error stop
        | .ok (value, left) =>
          match item false (optional (annotations fuel depth)) left with
          | .error stop => .error stop
          | .ok (data, left) => .ok (⟨type, children.join, value.join, data.join⟩, left)

/-- Read the fields of a node up to the closing bracket, behind those in the draft. -/
def nodeFields (fuel depth : Nat) (first : Bool) (draft : Draft) (cs : List Char) : Scanned Cst :=
  match fuel with
  | 0 => stopAt .tooDeep cs
  | fuel + 1 =>
    match nextKey first cs with
    | .error stop => .error stop
    | .ok (.close left) =>
      match draft.node? with
      | some result => .ok (result, left)
      | none => stopAt (.missingField "type") left
    | .ok (.more left) =>
      match stringTail [] 0 left with
      | .error stop => .error stop
      | .ok (key, left) =>
        if draft.has (.ofKey key) then stopAt (.duplicateField key) (closeObject left)
        else
          match colon left with
          | .error stop => .error stop
          | .ok left =>
            match Field.ofKey key with
            | .type =>
              match text left with
              | .error stop => .error stop
              | .ok (type, left) =>
                nodeFields fuel depth false { draft with type := some type } left
            | .children =>
              match optional (nodeList fuel depth) left with
              | .error stop => .error stop
              | .ok (children, left) =>
                nodeFields fuel depth false { draft with children := some children } left
            | .value =>
              match optional text left with
              | .error stop => .error stop
              | .ok (value, left) =>
                nodeFields fuel depth false { draft with value := some value } left
            | .data =>
              match optional (annotations fuel depth) left with
              | .error stop => .error stop
              | .ok (data, left) =>
                nodeFields fuel depth false { draft with data := some data } left
            | .other =>
              match skipValue fuel left with
              | .error stop => .error stop
              | .ok left => nodeFields fuel depth false draft left

def nodeList (fuel depth : Nat) (cs : List Char) : Scanned (List Cst) :=
  match fuel with
  | 0 => stopAt .tooDeep cs
  | fuel + 1 =>
    match skipBlanks cs with
    | [] => stopAt .endInValue []
    | '[' :: rest =>
      if depth ≤ 1 then stopOn .tooDeep ('[' :: rest) else nodes fuel (depth - 1) true rest
    | left => mismatch "a sequence" left

/-- Read the nodes of an array up to its closing bracket. -/
def nodes (fuel depth : Nat) (first : Bool) (cs : List Char) : Scanned (List Cst) :=
  match fuel with
  | 0 => stopAt .tooDeep cs
  | fuel + 1 =>
    match nextItem first cs with
    | .error stop => .error stop
    | .ok (.close left) => .ok ([], left)
    | .ok (.more left) =>
      match node fuel depth left with
      | .error stop => .error stop
      | .ok (result, left) =>
        match nodes fuel depth false left with
        | .error stop => .error stop
        | .ok (rest, left) => .ok (result :: rest, left)

end

/-! ## Places in a text -/

/-- The line and column behind some bytes of a text.  Lines count from one; the column is the number of
bytes since the last line feed. -/
def lineAndColumn (bytes : Nat) (cs : List Char) : Nat × Nat :=
  go bytes 1 0 cs
where
  /-- Walk the characters with the bytes that are left to count. -/
  go (bytes line column : Nat) : List Char → Nat × Nat
    | [] => (line, column)
    | c :: cs =>
      if bytes = 0 then (line, column)
      else if c = '\n' then go (bytes - 1) (line + 1) 0 cs
      else if bytes < c.utf8Size then (line, column + bytes)
      else go (bytes - c.utf8Size) line (column + c.utf8Size) cs

/-- The lengths in bytes of the lines of a text, their line feeds included. -/
def lineLengths : List Char → List Nat
  | [] => []
  | c :: cs =>
    if c = '\n' then 1 :: lineLengths cs
    else
      match lineLengths cs with
      | [] => [c.utf8Size]
      | length :: rest => (length + c.utf8Size) :: rest

/-- The bytes of a text in front of a line. -/
def lineStart (cs : List Char) (line : Nat) : Nat :=
  ((lineLengths cs).take (line - 1)).foldr (· + ·) 0

/-- The offset of the byte in front of a line and column, kept inside the text.  For the lines and columns
of its places, machine words give the same. -/
def offsetOf (cs : List Char) (line column : Nat) : Nat :=
  min (lineStart cs line + (column - 1)) (byteCount cs)

/-- What becomes of a sum that is no machine word. -/
inductive Overflow where
  /-- The program stops. -/
  | stops
  /-- The program goes on without the carry. -/
  | wraps
deriving DecidableEq, Repr

/-- Add two machine words, unless the program stops. -/
def Overflow.add : Overflow → USize → USize → Option USize
  | .stops, a, b => if a.toNat + b.toNat < USize.size then some (a + b) else none
  | .wraps, a, b => some (a + b)

/-- The offset of a line and column, taken in machine words.  Only the sum may be none: the bytes in front
of a line are not more than those of the text. -/
def byteOffset (overflow : Overflow) (cs : List Char) (line column : USize) : Option USize :=
  (overflow.add (.ofNat (lineStart cs line.toNat)) (.ofNat (column.toNat - 1))).map fun offset =>
    min offset (.ofNat (byteCount cs))

/-- The bytes of a text that had been taken in at a stop. -/
def stopOffset (cs : List Char) (stop : Stop) : Nat :=
  byteCount cs - byteCount stop.left + stop.taken

/-- The error for a stop in a text: its message names the line and column, and its span begins in front
of them. -/
def stopError (cs : List Char) (stop : Stop) : Error :=
  let (line, column) := lineAndColumn (stopOffset cs stop) cs
  let place :=
    " at line " ++ String.ofList (Nat.toDigits 10 line) ++ " column " ++
      String.ofList (Nat.toDigits 10 column)
  .parse (stop.flaw.message ++ place) "cst.json" (offsetOf cs line column) 0

/-- Read a text as one node. -/
def whole (cs : List Char) : Except Stop Cst :=
  match node (2 * fuelFor cs) nesting cs with
  | .error stop => .error stop
  | .ok (result, left) => finish result left

/-- The node that a JSON text describes. -/
def ofJson (json : String) : Except Error Cst :=
  (whole json.toList).mapError (stopError json.toList)

end Cst
end Prose

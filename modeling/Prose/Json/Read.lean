import Prose.Json.Scan

namespace Prose
namespace Json
namespace Scan

/-!
# Reading JSON values

Values are read with a bound on how many arrays and objects may be open at once; a value that is only
passed over has no such bound.  Both recursions are on a number that the length of the text exceeds at
no point, and that the entry points take from it.
-/

/-- The bound on nesting: one more than the number of arrays and objects that may be open. -/
def nesting : Nat := 128

/-- What follows an opening bracket or an element: the closing bracket, or a further element that
starts at the characters given. -/
inductive Next where
  | close (left : List Char)
  | more (left : List Char)

/-- Look for the next element of an array. -/
def nextItem (first : Bool) (cs : List Char) : Except Stop Next :=
  match skipBlanks cs with
  | [] => stopAt .endInList []
  | ']' :: rest => .ok (.close rest)
  | c :: rest =>
    if first then .ok (.more (c :: rest))
    else if c = ',' then
      match skipBlanks rest with
      | [] => stopAt .endInValue []
      | ']' :: tail => stopOn .trailingComma (']' :: tail)
      | left => .ok (.more left)
    else stopOn .expectedListComma (c :: rest)

/-- A key starts with a quote; the characters behind it are given. -/
def keyStart : List Char → Except Stop Next
  | [] => stopAt .endInValue []
  | '"' :: rest => .ok (.more rest)
  | '\x7d' :: rest => stopOn .trailingComma ('\x7d' :: rest)
  | cs => stopOn .keyNotString cs

/-- Look for the next key of an object. -/
def nextKey (first : Bool) (cs : List Char) : Except Stop Next :=
  match skipBlanks cs with
  | [] => stopAt .endInObject []
  | '\x7d' :: rest => .ok (.close rest)
  | c :: rest =>
    if first then keyStart (c :: rest)
    else if c = ',' then keyStart (skipBlanks rest)
    else stopOn .expectedObjectComma (c :: rest)

def colon (cs : List Char) : Except Stop (List Char) :=
  match skipBlanks cs with
  | [] => stopAt .endInObject []
  | ':' :: rest => .ok rest
  | left => stopOn .expectedColon left

mutual

/-- Read a value.  `depth` bounds the nesting and `fuel` the number of steps. -/
def value (fuel depth : Nat) (cs : List Char) : Scanned Json :=
  match fuel with
  | 0 => stopAt .tooDeep cs
  | fuel + 1 =>
    match skipBlanks cs with
    | [] => stopAt .endInValue []
    | 'n' :: rest => (literal ['u', 'l', 'l'] rest).map fun left => (.null, left)
    | 't' :: rest => (literal ['r', 'u', 'e'] rest).map fun left => (.boolean true, left)
    | 'f' :: rest => (literal ['a', 'l', 's', 'e'] rest).map fun left => (.boolean false, left)
    | '-' :: rest => number false rest
    | '"' :: rest => (stringTail [] 0 rest).map fun (s, left) => (.string s, left)
    | '[' :: rest =>
      if depth ≤ 1 then stopOn .tooDeep ('[' :: rest)
      else (items fuel (depth - 1) true rest).map fun (values, left) => (.array values, left)
    | '\x7b' :: rest =>
      if depth ≤ 1 then stopOn .tooDeep ('\x7b' :: rest)
      else
        (fields fuel (depth - 1) true [] rest).map fun (pairs, left) => (.object pairs, left)
    | c :: rest => if c.isDigit then number true (c :: rest) else stopOn .expectedValue (c :: rest)

def items (fuel depth : Nat) (first : Bool) (cs : List Char) : Scanned (List Json) :=
  match fuel with
  | 0 => stopAt .tooDeep cs
  | fuel + 1 =>
    match nextItem first cs with
    | .error stop => .error stop
    | .ok (.close left) => .ok ([], left)
    | .ok (.more left) =>
      match value fuel depth left with
      | .error stop => .error stop
      | .ok (item, left) =>
        match items fuel depth false left with
        | .error stop => .error stop
        | .ok (rest, left) => .ok (item :: rest, left)

def fields (fuel depth : Nat) (first : Bool) (before : Fields) (cs : List Char) :
    Scanned Fields :=
  match fuel with
  | 0 => stopAt .tooDeep cs
  | fuel + 1 =>
    match nextKey first cs with
    | .error stop => .error stop
    | .ok (.close left) => .ok (before, left)
    | .ok (.more left) =>
      match stringTail [] 0 left with
      | .error stop => .error stop
      | .ok (key, left) =>
        match colon left with
        | .error stop => .error stop
        | .ok left =>
          match value fuel depth left with
          | .error stop => .error stop
          | .ok (item, left) => fields fuel depth false (before.insert key item) left

end

/-! ## Passing over a value -/

/-- The key of a field that is passed over, with its colon. -/
def skipKey (cs : List Char) : Except Stop (List Char) :=
  match skipBlanks cs with
  | [] => stopAt .endInObject []
  | '"' :: rest => (skipString 0 rest).bind colon
  | left => stopOn .keyNotString left

mutual

def skipValue (fuel : Nat) (cs : List Char) : Except Stop (List Char) :=
  match fuel with
  | 0 => stopAt .tooDeep cs
  | fuel + 1 =>
    match skipBlanks cs with
    | [] => stopAt .endInValue []
    | 'n' :: rest => literal ['u', 'l', 'l'] rest
    | 't' :: rest => literal ['r', 'u', 'e'] rest
    | 'f' :: rest => literal ['a', 'l', 's', 'e'] rest
    | '-' :: rest => skipNumber rest
    | '"' :: rest => skipString 0 rest
    | '[' :: rest =>
      match skipBlanks rest with
      | [] => stopAt .endInList []
      | ']' :: left => .ok left
      | left => skipItems fuel left
    | '\x7b' :: rest =>
      match skipBlanks rest with
      | [] => stopAt .endInObject []
      | '\x7d' :: left => .ok left
      | left => skipFields fuel left
    | c :: rest => if c.isDigit then skipNumber (c :: rest) else stopOn .expectedValue (c :: rest)

/-- Pass over the items of an array, of which there is at least one more. -/
def skipItems (fuel : Nat) (cs : List Char) : Except Stop (List Char) :=
  match fuel with
  | 0 => stopAt .tooDeep cs
  | fuel + 1 =>
    match skipValue fuel cs with
    | .error stop => .error stop
    | .ok left =>
      match skipBlanks left with
      | [] => stopAt .endInList []
      | ']' :: left => .ok left
      | ',' :: left => skipItems fuel left
      | left => stopOn .expectedListComma left

/-- Pass over the fields of an object, of which there is at least one more. -/
def skipFields (fuel : Nat) (cs : List Char) : Except Stop (List Char) :=
  match fuel with
  | 0 => stopAt .tooDeep cs
  | fuel + 1 =>
    match (skipKey cs).bind (skipValue fuel) with
    | .error stop => .error stop
    | .ok left =>
      match skipBlanks left with
      | [] => stopAt .endInObject []
      | '\x7d' :: left => .ok left
      | ',' :: left => skipFields fuel left
      | left => stopOn .expectedObjectComma left

end

/-! ## Whole texts -/

/-- Enough steps for a text: each step but the first few of a nested value takes a character. -/
def fuelFor (cs : List Char) : Nat := 2 * cs.length + 2

/-- Nothing but blanks may follow. -/
def finish {α : Type} (result : α) (left : List Char) : Except Stop α :=
  match skipBlanks left with
  | [] => .ok result
  | left => stopOn .trailingCharacters left

/-- Read a text as one value. -/
def whole? (cs : List Char) : Except Stop Json :=
  match value (fuelFor cs) nesting cs with
  | .error stop => .error stop
  | .ok (result, left) => finish result left

end Scan

/-- The value that a text holds, if it is well formed. -/
def parse? (text : String) : Option Json := (Scan.whole? text.toList).toOption

end Json
end Prose

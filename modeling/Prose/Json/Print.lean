import Prose.Json.Basic
import Prose.Number.Shortest

namespace Prose
namespace Json

/-!
# Written JSON

Two layouts: compact, on one line and without blanks, and pretty, with one item or field to a line.
Only what must be escaped in a string is.
-/

/-- Fractions are written positionally from `0.00001` to below `10 ^ 16`, and otherwise with a signed
exponent. -/
def notation64 : Decimal.Notation := ⟨-5, 16, true⟩

/-- Two hexadecimal digits of a control character. -/
def hexPair (n : Nat) : List Char :=
  [Nat.digitChar (n / 16), Nat.digitChar (n % 16)]

/-- The written form of one character of a string. -/
def escapeChar (c : Char) : List Char :=
  if c = '"' then ['\\', '"']
  else if c = '\\' then ['\\', '\\']
  else if c = '\n' then ['\\', 'n']
  else if c = '\r' then ['\\', 'r']
  else if c = '\t' then ['\\', 't']
  else if c = '\x08' then ['\\', 'b']
  else if c = '\x0c' then ['\\', 'f']
  else if c.toNat < 0x20 then ['\\', 'u', '0', '0'] ++ hexPair c.toNat
  else [c]

def quote (s : String) : List Char := '"' :: s.toList.flatMap escapeChar ++ ['"']

def digits : Int → List Char
  | .ofNat n => Nat.toDigits 10 n
  | .negSucc n => '-' :: Nat.toDigits 10 (n + 1)

/-- A value that is neither an array nor an object. -/
def scalar : Json → List Char
  | .null => ['n', 'u', 'l', 'l']
  | .boolean true => ['t', 'r', 'u', 'e']
  | .boolean false => ['f', 'a', 'l', 's', 'e']
  | .integer n => digits n
  | .number x => (x.write notation64).toList
  | .string s => quote s
  | .array _ | .object _ => []

/-! ## Compact layout -/

mutual

/-- A value on one line. -/
def compactChars : Json → List Char
  | .array items => '[' :: compactItems items ++ [']']
  | .object fields => '\x7b' :: compactFields fields ++ ['\x7d']
  | .null => scalar .null
  | .boolean b => scalar (.boolean b)
  | .integer n => scalar (.integer n)
  | .number x => scalar (.number x)
  | .string s => scalar (.string s)

def compactItems : List Json → List Char
  | [] => []
  | [item] => compactChars item
  | item :: rest => compactChars item ++ ',' :: compactItems rest

def compactFields : List (String × Json) → List Char
  | [] => []
  | [(key, value)] => quote key ++ ':' :: compactChars value
  | (key, value) :: rest => quote key ++ ':' :: compactChars value ++ ',' :: compactFields rest

end

def compact (value : Json) : String := String.ofList (compactChars value)

/-! ## Pretty layout -/

/-- A new line at some depth; each level is two blanks wide. -/
def newLine (depth : Nat) : List Char := '\n' :: List.replicate (2 * depth) ' '

mutual

/-- A value whose inner lines stand one level below `depth`. -/
def prettyChars (depth : Nat) : Json → List Char
  | .array [] => ['[', ']']
  | .array (item :: rest) => '[' :: prettyItems (depth + 1) (item :: rest) ++ newLine depth ++ [']']
  | .object [] => ['\x7b', '\x7d']
  | .object (field :: rest) =>
    '\x7b' :: prettyFields (depth + 1) (field :: rest) ++ newLine depth ++ ['\x7d']
  | .null => scalar .null
  | .boolean b => scalar (.boolean b)
  | .integer n => scalar (.integer n)
  | .number x => scalar (.number x)
  | .string s => scalar (.string s)

/-- Items, each on a line of its own. -/
def prettyItems (depth : Nat) : List Json → List Char
  | [] => []
  | [item] => newLine depth ++ prettyChars depth item
  | item :: rest => newLine depth ++ prettyChars depth item ++ ',' :: prettyItems depth rest

/-- Fields, each on a line of its own. -/
def prettyFields (depth : Nat) : List (String × Json) → List Char
  | [] => []
  | [(key, value)] => newLine depth ++ quote key ++ ':' :: ' ' :: prettyChars depth value
  | (key, value) :: rest =>
    newLine depth ++ quote key ++ ':' :: ' ' :: prettyChars depth value ++
      ',' :: prettyFields depth rest

end

def pretty (value : Json) : String := String.ofList (prettyChars 0 value)

end Json
end Prose

import Prose.Json.Basic
import Prose.Number.Shortest
import Prose.Text.Quoted
import Prose.Json.Print

namespace Prose
namespace Json
namespace Scan

/-!
# Scanning JSON

The pieces of JSON text: blanks, literals, numbers and strings.  A scanner takes the characters that
are left and gives what it read with the characters behind it, or stops.  Where it stops is told by the
characters left at that point and how many bytes of them had been looked at.
-/

/-- What was found where something else was wanted. -/
inductive Found where
  | null
  | boolean (value : Bool)
  | integer (value : Int)
  | number (value : Binary64)
  | text (value : String)
  | sequence
  | map
deriving DecidableEq

def Found.describe : Found → String
  | .null => "null"
  | .boolean b => "boolean `" ++ (if b then "true" else "false") ++ "`"
  | .integer n => "integer `" ++ String.ofList (digits n) ++ "`"
  | .number x => "floating point `" ++ x.write notation64 ++ "`"
  | .text s => "string " ++ Text.Quoted.encode s
  | .sequence => "sequence"
  | .map => "map"

/-- Why reading stopped. -/
inductive Flaw where
  | endInValue | endInList | endInObject | endInString
  | expectedValue | expectedIdent | expectedColon | expectedListComma | expectedObjectComma
  | trailingComma | trailingCharacters | keyNotString
  | invalidNumber | numberOutOfRange
  | invalidEscape | loneSurrogate | unfinishedSurrogate | controlCharacter
  | tooDeep
  | invalidType (found : Found) (wanted : String)
  | invalidLength (length : Nat) (wanted : String)
  | missingField (name : String)
  | duplicateField (name : String)
deriving DecidableEq

def Flaw.message : Flaw → String
  | .endInValue => "EOF while parsing a value"
  | .endInList => "EOF while parsing a list"
  | .endInObject => "EOF while parsing an object"
  | .endInString => "EOF while parsing a string"
  | .expectedValue => "expected value"
  | .expectedIdent => "expected ident"
  | .expectedColon => "expected `:`"
  | .expectedListComma => "expected `,` or `]`"
  | .expectedObjectComma => "expected `,` or `\x7d`"
  | .trailingComma => "trailing comma"
  | .trailingCharacters => "trailing characters"
  | .keyNotString => "key must be a string"
  | .invalidNumber => "invalid number"
  | .numberOutOfRange => "number out of range"
  | .invalidEscape => "invalid escape"
  | .loneSurrogate => "lone leading surrogate in hex escape"
  | .unfinishedSurrogate => "unexpected end of hex escape"
  | .controlCharacter => "control character (\\u0000-\\u001F) found while parsing a string"
  | .tooDeep => "recursion limit exceeded"
  | .invalidType found wanted => "invalid type: " ++ found.describe ++ ", expected " ++ wanted
  | .invalidLength n wanted =>
    "invalid length " ++ String.ofList (digits n) ++ ", expected " ++ wanted
  | .missingField name => "missing field `" ++ name ++ "`"
  | .duplicateField name => "duplicate field `" ++ name ++ "`"

/-- A stop: its reason, the characters left, and how many bytes of these were taken in. -/
structure Stop where
  flaw : Flaw
  left : List Char
  taken : Nat

/-- What a scanner gives: a result and the characters behind it, or a stop. -/
abbrev Scanned (α : Type) := Except Stop (α × List Char)

def stopAt {α : Type} (flaw : Flaw) (left : List Char) : Except Stop α := .error ⟨flaw, left, 0⟩

/-- Stop with the next byte taken in, if there is one. -/
def stopOn {α : Type} (flaw : Flaw) (left : List Char) : Except Stop α :=
  .error ⟨flaw, left, if left.isEmpty then 0 else 1⟩

/-! ## Blanks and literals -/

/-- The four characters that may stand between the parts of a value. -/
def isBlank (c : Char) : Bool := c = ' ' || c = '\n' || c = '\t' || c = '\r'

/-- The characters behind leading blanks. -/
def skipBlanks (cs : List Char) : List Char := cs.dropWhile isBlank

def literal : List Char → List Char → Except Stop (List Char)
  | [], cs => .ok cs
  | _ :: _, [] => stopAt .endInValue []
  | w :: word, c :: cs => if c = w then literal word cs else stopOn .expectedIdent (c :: cs)

/-! ## Strings -/

def hexValue? (c : Char) : Option Nat :=
  if '0' ≤ c ∧ c ≤ '9' then some (c.toNat - 48)
  else if 'a' ≤ c ∧ c ≤ 'f' then some (c.toNat - 87)
  else if 'A' ≤ c ∧ c ≤ 'F' then some (c.toNat - 55)
  else none

/-- The number of bytes that some characters take. -/
def byteCount : List Char → Nat
  | [] => 0
  | c :: cs => c.utf8Size + byteCount cs

/-- Four hexadecimal digits.  A flaw is noticed once four bytes have been taken. -/
def fourDigits (cs : List Char) : Except Stop Nat :=
  if byteCount (cs.take 4) < 4 then stopAt .endInString []
  else
    match cs with
    | a :: b :: c :: d :: _ =>
      match hexValue? a, hexValue? b, hexValue? c, hexValue? d with
      | some a, some b, some c, some d => .ok (((a * 16 + b) * 16 + c) * 16 + d)
      | _, _, _, _ => .error ⟨.invalidEscape, cs, 4⟩
    | _ => .error ⟨.invalidEscape, cs, 4⟩

/-- The code unit is the first half of a pair. -/
def isLeading (n : Nat) : Bool := 0xD800 ≤ n && n ≤ 0xDBFF

/-- The code unit is the second half of a pair. -/
def isTrailing (n : Nat) : Bool := 0xDC00 ≤ n && n ≤ 0xDFFF

/-- The escape for a leading half is followed by one for a trailing half, behind it in `cs`. -/
def secondHalf (first : Nat) (cs : List Char) : Except Stop Char :=
  match cs with
  | [] => stopAt .endInString []
  | '\\' :: [] => stopAt .endInString []
  | '\\' :: 'u' :: rest => do
    let second ← fourDigits rest
    if isTrailing second then
      .ok (Char.ofNat (0x10000 + (first - 0xD800) * 0x400 + (second - 0xDC00)))
    else .error ⟨.loneSurrogate, rest, 4⟩
  | '\\' :: rest => stopOn .unfinishedSurrogate rest
  | _ => stopOn .unfinishedSurrogate cs

/-- The character that the escape behind a backslash stands for, and the length of the escape. -/
def escape : List Char → Except Stop (Char × Nat)
  | [] => stopAt .endInString []
  | '"' :: _ => .ok ('"', 1)
  | '\\' :: _ => .ok ('\\', 1)
  | '/' :: _ => .ok ('/', 1)
  | 'b' :: _ => .ok ('\x08', 1)
  | 'f' :: _ => .ok ('\x0c', 1)
  | 'n' :: _ => .ok ('\n', 1)
  | 'r' :: _ => .ok ('\r', 1)
  | 't' :: _ => .ok ('\t', 1)
  | 'u' :: cs => do
    let first ← fourDigits cs
    if isTrailing first then .error ⟨.loneSurrogate, cs, 4⟩
    else if isLeading first then
      let c ← secondHalf first (cs.drop 4)
      .ok (c, 11)
    else .ok (Char.ofNat first, 5)
  | cs => stopOn .invalidEscape cs

/-- Read a string behind its opening quote.  The characters read are kept in reverse; `pending`
characters belong to an escape that has been read already. -/
def stringTail (read : List Char) (pending : Nat) : List Char → Scanned String
  | [] => stopAt .endInString []
  | c :: cs =>
    match pending with
    | k + 1 => stringTail read k cs
    | 0 =>
      if c = '"' then .ok (String.ofList read.reverse, cs)
      else if c = '\\' then
        match escape cs with
        | .error stop => .error stop
        | .ok (d, length) => stringTail (d :: read) length cs
      else if c.toNat < 0x20 then stopOn .controlCharacter (c :: cs)
      else stringTail (c :: read) 0 cs

/-- The length of the escape behind a backslash, where its character does not matter. -/
def escapeLength : List Char → Except Stop Nat
  | [] => stopAt .endInString []
  | 'u' :: cs => do
    let _ ← fourDigits cs
    .ok 5
  | c :: cs => if c ∈ ['"', '\\', '/', 'b', 'f', 'n', 'r', 't'] then .ok 1
    else stopOn .invalidEscape (c :: cs)

/-- Pass over a string behind its opening quote. -/
def skipString (pending : Nat) : List Char → Except Stop (List Char)
  | [] => stopAt .endInString []
  | c :: cs =>
    match pending with
    | k + 1 => skipString k cs
    | 0 =>
      if c = '"' then .ok cs
      else if c = '\\' then
        match escapeLength cs with
        | .error stop => .error stop
        | .ok length => skipString length cs
      else if c.toNat < 0x20 then stopAt .controlCharacter (c :: cs)
      else skipString 0 cs

/-! ## Numbers -/

def digitValue (c : Char) : Nat := c.toNat - 48

/-- The greatest whole number that is read exactly. -/
def greatest : Nat := Nat.pow 2 64 - 1

/-- Read digits behind a number already read, as long as it stays in range: the number, how many
digits were read, and what is left. -/
def gather (value count : Nat) : List Char → Nat × Nat × List Char
  | [] => (value, count, [])
  | c :: cs =>
    if c.isDigit ∧ value * 10 + digitValue c ≤ greatest then
      gather (value * 10 + digitValue c) (count + 1) cs
    else (value, count, c :: cs)

/-- A power of ten as a binary number. -/
def powerOfTen (k : Nat) : Option Binary64 := Binary64.round (Nat.pow 10 k) 1

/-- Multiply or divide a binary number by a power of ten, in steps of at most `10 ^ 308`.  Each step is
rounded. -/
def scale (x : Binary64) (power : Int) : Nat → Option Binary64
  | 0 => some (Binary64.zero false)
  | steps + 1 =>
    if power.natAbs ≤ 308 then
      (powerOfTen power.natAbs).bind fun p => if 0 ≤ power then x.mul p else x.div p
    else if x.mantissa = 0 then some x
    else if 0 ≤ power then none
    else
      ((powerOfTen 308).bind fun p => x.div p).bind fun y => scale y (power + 308) steps

/-- The fraction with the given digits and power of ten. -/
def fraction (positive : Bool) (digits : Nat) (power : Int) (left : List Char) : Scanned Json :=
  match (Binary64.ofNat digits).bind fun x => scale x power 4 with
  | some x => .ok (.number (x.withSign !positive), left)
  | none => stopAt .numberOutOfRange left

/-- The greatest exponent that is read; a longer one is as good as infinite. -/
def greatestExponent : Nat := Nat.pow 2 31 - 1

/-- Read the digits of an exponent.  The result is `none` if they exceed the greatest exponent; then
what is left begins behind the digit that did. -/
def exponentDigits (value : Nat) : List Char → Option Nat × List Char
  | [] => (some value, [])
  | c :: cs =>
    if c.isDigit then
      if value * 10 + digitValue c ≤ greatestExponent then
        exponentDigits (value * 10 + digitValue c) cs
      else (none, cs)
    else (some value, c :: cs)

def exponent (positive : Bool) (digits : Nat) (power : Int) (cs : List Char) : Scanned Json :=
  let (up, cs) :=
    match cs with
    | '+' :: rest => (true, rest)
    | '-' :: rest => (false, rest)
    | _ => (true, cs)
  match cs with
  | [] => stopAt .endInValue []
  | c :: rest =>
    if !c.isDigit then stopOn .invalidNumber (c :: rest)
    else
      match exponentDigits (digitValue c) rest with
      | (some e, left) => fraction positive digits (if up then power + e else power - e) left
      | (none, left) =>
        if digits ≠ 0 ∧ up then stopAt .numberOutOfRange left
        else .ok (.number (Binary64.zero !positive), left.dropWhile Char.isDigit)

/-- Read the exponent of a number, if it has one. -/
def exponentOrEnd (positive : Bool) (digits : Nat) (power : Int) (cs : List Char) : Scanned Json :=
  match cs with
  | 'e' :: rest | 'E' :: rest => exponent positive digits power rest
  | _ => fraction positive digits power cs

/-- Read the digits behind a point.  Those that no longer fit are passed over. -/
def decimals (positive : Bool) (digits : Nat) (power : Int) (cs : List Char) : Scanned Json :=
  let (value, count, left) := gather digits 0 cs
  match left with
  | c :: _ =>
    if c.isDigit then
      exponentOrEnd positive value (power - count) (left.dropWhile Char.isDigit)
    else if count = 0 then stopOn .invalidNumber left
    else exponentOrEnd positive value (power - count) left
  | [] => if count = 0 then stopAt .endInValue [] else fraction positive value (power - count) []

/-- A number without point and exponent.  A negative one that does not fit becomes a fraction. -/
def whole (positive : Bool) (value : Nat) (left : List Char) : Scanned Json :=
  if positive then .ok (.integer value, left)
  else if value ≠ 0 ∧ value ≤ Nat.pow 2 63 then .ok (.integer (-(value : Int)), left)
  else fraction false value 0 left

/-- Read what follows the digits of a number, `extra` of which did not fit. -/
def numberTail (positive : Bool) (value extra : Nat) (cs : List Char) : Scanned Json :=
  match cs with
  | '.' :: rest => decimals positive value extra rest
  | 'e' :: rest | 'E' :: rest => exponent positive value extra rest
  | _ => if extra = 0 then whole positive value cs else fraction positive value extra cs

def number (positive : Bool) : List Char → Scanned Json
  | [] => stopAt .endInValue []
  | c :: cs =>
    if c = '0' then
      match cs with
      | d :: _ => if d.isDigit then stopOn .invalidNumber cs else numberTail positive 0 0 cs
      | [] => numberTail positive 0 0 []
    else if c.isDigit then
      let (value, _, left) := gather (digitValue c) 0 cs
      let extra := left.takeWhile Char.isDigit
      numberTail positive value extra.length (left.dropWhile Char.isDigit)
    else stopOn .invalidNumber (c :: cs)

def skipExponent (cs : List Char) : Except Stop (List Char) :=
  let cs :=
    match cs with
    | '+' :: rest | '-' :: rest => rest
    | _ => cs
  match cs with
  | [] => stopAt .invalidNumber []
  | c :: rest =>
    if c.isDigit then .ok (rest.dropWhile Char.isDigit) else stopOn .invalidNumber (c :: rest)

/-- Pass over a point with its digits, and an exponent. -/
def skipNumberTail (cs : List Char) : Except Stop (List Char) :=
  match cs with
  | '.' :: rest =>
    let left := rest.dropWhile Char.isDigit
    if left.length = rest.length then stopOn .invalidNumber rest
    else
      match left with
      | 'e' :: tail | 'E' :: tail => skipExponent tail
      | _ => .ok left
  | 'e' :: rest | 'E' :: rest => skipExponent rest
  | _ => .ok cs

def skipNumber : List Char → Except Stop (List Char)
  | [] => stopAt .invalidNumber []
  | c :: cs =>
    if c = '0' then
      match cs with
      | d :: _ => if d.isDigit then stopOn .invalidNumber cs else skipNumberTail cs
      | [] => .ok []
    else if c.isDigit then skipNumberTail (cs.dropWhile Char.isDigit)
    else stopOn .invalidNumber (c :: cs)

end Scan
end Json
end Prose

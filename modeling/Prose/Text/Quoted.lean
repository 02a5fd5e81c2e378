import Prose.Text.Property

namespace Prose
namespace Text
namespace Quoted

/-!
# Quoted text

The form in which texts are shown inside outlines and descriptions.  Double quotes and backslashes
are escaped, and every character that would not show is written by its code point.
-/

/-- Lower-case hexadecimal digits. -/
def hex (n : Nat) : List Char := Nat.toDigits 16 n

/-- Fillers of the Hangul script: letters without a glyph. -/
def isFiller (c : Char) : Bool :=
  c = '\u115F' || c = '\u1160' || c = '\u3164' || c = '\uFFA0'

/-- Whether a character shows by itself when it stands behind the opening quote: it is assigned,
visible, and does not attach to its neighbour. -/
def shows (c : Char) : Bool :=
  if c.toNat < 0x7F then ' ' ≤ c
  else
    !(Property.extendsGrapheme c || isFiller c || Category.control.has c || Category.format.has c ||
      Category.privateUse.has c || Category.lineSeparator.has c ||
      Category.paragraphSeparator.has c || Category.spaceSeparator.has c ||
      Category.unassigned.has c)

def encodeChar (c : Char) : List Char :=
  if c = '\x00' then ['\\', '0']
  else if c = '\t' then ['\\', 't']
  else if c = '\n' then ['\\', 'n']
  else if c = '\r' then ['\\', 'r']
  else if c = '"' then ['\\', '"']
  else if c = '\\' then ['\\', '\\']
  else if shows c then [c]
  else ['\\', 'u', '\x7b'] ++ hex c.toNat ++ ['\x7d']

def encode (s : String) : String :=
  String.ofList ('"' :: s.toList.flatMap encodeChar ++ ['"'])

end Quoted
end Text
end Prose

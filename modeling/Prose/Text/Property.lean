import Prose.Text.Category
import Prose.Text.Property.Table

namespace Prose
namespace Text
namespace Property

/-!
# Character properties

The properties of the Unicode standard that prose is read by.  Most are unions of general categories;
white space is a list of its own.
-/

def whiteSpaces : CharSet :=
  ⟨[(0x0009, 0x000D), (0x0020, 0x0020), (0x0085, 0x0085), (0x00A0, 0x00A0), (0x1680, 0x1680),
    (0x2000, 0x200A), (0x2028, 0x2029), (0x202F, 0x202F), (0x205F, 0x205F), (0x3000, 0x3000)]⟩

/-- White space: blanks of every width, and the characters that end lines. -/
def isWhiteSpace (c : Char) : Bool := whiteSpaces.contains c

/-- A member of one of the five letter categories. -/
def isLetter (c : Char) : Bool :=
  Category.lowercaseLetters.contains c || Category.uppercaseLetters.contains c ||
    Category.otherLetters.contains c || Category.modifierLetters.contains c ||
    Category.titlecaseLetters.contains c

/-- Letters, letter numbers and the marks that are part of words. -/
def isAlphabetic (c : Char) : Bool :=
  isLetter c || Category.letterNumbers.contains c || otherAlphabetic.contains c

def isNumber (c : Char) : Bool :=
  Category.decimalNumbers.contains c || Category.letterNumbers.contains c ||
    Category.otherNumbers.contains c

def isMark (c : Char) : Bool :=
  Category.nonspacingMarks.contains c || Category.spacingMarks.contains c ||
    Category.enclosingMarks.contains c

/-- A member of one of the seven punctuation categories. -/
def isPunctuation (c : Char) : Bool :=
  Category.otherMarks.contains c || Category.openMarks.contains c ||
    Category.closeMarks.contains c || Category.dashes.contains c ||
    Category.initialMarks.contains c || Category.finalMarks.contains c ||
    Category.connectorMarks.contains c

/-- Characters that extend the grapheme before them. -/
def extendsGrapheme (c : Char) : Bool :=
  Category.nonspacingMarks.contains c || Category.enclosingMarks.contains c ||
    otherGraphemeExtend.contains c

/-- Upper-case letters and signs. -/
def isUppercase (c : Char) : Bool :=
  Category.uppercaseLetters.contains c || otherUppercase.contains c

/-- Characters that have case. -/
def isCased (c : Char) : Bool :=
  Category.uppercaseLetters.contains c || Category.lowercaseLetters.contains c ||
    Category.titlecaseLetters.contains c || otherCased.contains c

/-- Lower-case letters and signs: the cased characters that are neither upper nor title case. -/
def isLowercase (c : Char) : Bool :=
  isCased c && !isUppercase c && !Category.titlecaseLetters.contains c

/-- Characters that are passed over when the case of their neighbours is asked for. -/
def isCaseIgnorable (c : Char) : Bool :=
  Category.nonspacingMarks.contains c || Category.enclosingMarks.contains c ||
    Category.formats.contains c || Category.modifierLetters.contains c ||
    Category.modifierSymbols.contains c || otherCaseIgnorable.contains c

end Property
end Text
end Prose

import Prose.Text.Category.Letter
import Prose.Text.Category.Mark
import Prose.Text.Category.Sign

namespace Prose
namespace Text

/-!
# General categories

Every character has one general category of the Unicode standard.  A category is known by its members;
the characters that no other category lists are unassigned.
-/

/-- The general categories, in the order of the standard. -/
inductive Category where
  | uppercaseLetter | lowercaseLetter | titlecaseLetter | modifierLetter | otherLetter
  | nonspacingMark | spacingMark | enclosingMark
  | decimalNumber | letterNumber | otherNumber
  | connectorPunctuation | dashPunctuation | openPunctuation | closePunctuation
  | initialPunctuation | finalPunctuation | otherPunctuation
  | mathSymbol | currencySymbol | modifierSymbol | otherSymbol
  | spaceSeparator | lineSeparator | paragraphSeparator
  | control | format | privateUse
  | unassigned
deriving DecidableEq, Repr

namespace Category

/-- The categories that list their members. -/
def listed : List Category :=
  [.uppercaseLetter, .lowercaseLetter, .titlecaseLetter, .modifierLetter, .otherLetter,
   .nonspacingMark, .spacingMark, .enclosingMark, .decimalNumber, .letterNumber, .otherNumber,
   .connectorPunctuation, .dashPunctuation, .openPunctuation, .closePunctuation,
   .initialPunctuation, .finalPunctuation, .otherPunctuation,
   .mathSymbol, .currencySymbol, .modifierSymbol, .otherSymbol,
   .spaceSeparator, .lineSeparator, .paragraphSeparator, .control, .format, .privateUse]

/-- The listed members of a category.  Unassigned characters are not listed. -/
def members : Category → CharSet
  | .uppercaseLetter => Category.uppercaseLetters
  | .lowercaseLetter => Category.lowercaseLetters
  | .titlecaseLetter => Category.titlecaseLetters
  | .modifierLetter => Category.modifierLetters
  | .otherLetter => Category.otherLetters
  | .nonspacingMark => Category.nonspacingMarks
  | .spacingMark => Category.spacingMarks
  | .enclosingMark => Category.enclosingMarks
  | .decimalNumber => Category.decimalNumbers
  | .letterNumber => Category.letterNumbers
  | .otherNumber => Category.otherNumbers
  | .connectorPunctuation => Category.connectorMarks
  | .dashPunctuation => Category.dashes
  | .openPunctuation => Category.openMarks
  | .closePunctuation => Category.closeMarks
  | .initialPunctuation => Category.initialMarks
  | .finalPunctuation => Category.finalMarks
  | .otherPunctuation => Category.otherMarks
  | .mathSymbol => Category.mathSymbols
  | .currencySymbol => Category.currencySymbols
  | .modifierSymbol => Category.modifierSymbols
  | .otherSymbol => Category.otherSymbols
  | .spaceSeparator => Category.spaceSeparators
  | .lineSeparator => Category.lineSeparators
  | .paragraphSeparator => Category.paragraphSeparators
  | .control => Category.controls
  | .format => Category.formats
  | .privateUse => Category.privateUses
  | .unassigned => ⟨[]⟩

def has (category : Category) (c : Char) : Bool :=
  match category with
  | .unassigned => !listed.any fun other => other.members.contains c
  | _ => category.members.contains c

end Category

end Text
end Prose

import Prose.Pattern.Basic

namespace Prose
namespace Pattern

/-!
# Classes of characters

The classes that have a name in patterns: the three that are written with a letter, those written
between colons, and properties of the Unicode standard.  Of the latter there are the general categories
and those that the program needs for other ends; scripts, ages and the other properties are not known.
-/

/-- A class with the size of its compiled form. -/
structure Class where
  weight : Nat
  test : Char → Bool

namespace Class

/-- The size of a class of a few ASCII characters. -/
def smallWeight : Nat := 3 * stateWeight

/-- The size of a class that spreads over many scripts. -/
def largeWeight : Nat := 500 * stateWeight

def ofChar (c : Char) : Class := ⟨c.utf8Size * stateWeight, fun d => d == c⟩

def range (first last : Char) : Class :=
  ⟨if last.toNat < 0x80 then smallWeight else 8 * stateWeight,
    fun c => first.toNat ≤ c.toNat && c.toNat ≤ last.toNat⟩

def none : Class := ⟨stateWeight, fun _ => false⟩

def union (a b : Class) : Class := ⟨a.weight + b.weight, fun c => a.test c || b.test c⟩

def inter (a b : Class) : Class := ⟨max a.weight b.weight, fun c => a.test c && b.test c⟩

def diff (a b : Class) : Class := ⟨a.weight + b.weight, fun c => a.test c && !b.test c⟩

def symmDiff (a b : Class) : Class := ⟨a.weight + b.weight, fun c => a.test c != b.test c⟩

def compl (a : Class) : Class := ⟨a.weight + 8 * stateWeight, fun c => !a.test c⟩

def negatedIf (negated : Bool) (a : Class) : Class := if negated then a.compl else a

/-- The characters that differ in case only from one of the class. -/
def folded (unicode : Bool) (a : Class) : Class :=
  if unicode then ⟨2 * a.weight, fun c => (Text.Casing.orbit c).any a.test⟩
  else ⟨2 * a.weight, fun c => a.test c || a.test c.toUpper || a.test c.toLower⟩

/-- Whether a class has a member among the bytes that are no characters of their own. -/
def hasHighByte (a : Class) : Bool := (List.range 128).any fun n => a.test (Char.ofNat (n + 128))

/-! ## Classes written with a letter -/

def digit (unicode : Bool) : Class :=
  if unicode then ⟨largeWeight, Text.Category.decimalNumbers.contains⟩
  else ⟨smallWeight, Char.isDigit⟩

def space (unicode : Bool) : Class :=
  if unicode then ⟨16 * stateWeight, Text.Property.isWhiteSpace⟩
  else ⟨smallWeight, fun c => c = ' ' || (9 ≤ c.toNat && c.toNat ≤ 13)⟩

def word (unicode : Bool) : Class :=
  ⟨if unicode then largeWeight else smallWeight, isWord unicode⟩

/-! ## Classes written between colons -/

/-- A visible ASCII character. -/
def isGraph (c : Char) : Bool := 0x21 ≤ c.toNat && c.toNat ≤ 0x7E

/-- The class of a name. -/
def ascii? (name : String) : Option Class :=
  let small (test : Char → Bool) : Option Class := some ⟨smallWeight, test⟩
  match name with
  | "alnum" => small Char.isAlphanum
  | "alpha" => small Char.isAlpha
  | "ascii" => small fun c => c.toNat < 0x80
  | "blank" => small fun c => c = ' ' || c = '\t'
  | "cntrl" => small fun c => c.toNat < 0x20 || c.toNat = 0x7F
  | "digit" => small Char.isDigit
  | "graph" => small isGraph
  | "lower" => small Char.isLower
  | "print" => small fun c => isGraph c || c = ' '
  | "punct" => small fun c => isGraph c && !c.isAlphanum
  | "space" => small fun c => c = ' ' || (9 ≤ c.toNat && c.toNat ≤ 13)
  | "upper" => small Char.isUpper
  | "word" => small isAsciiWord
  | "xdigit" => small fun c => c.isDigit || ('a' ≤ c && c ≤ 'f') || ('A' ≤ c && c ≤ 'F')
  | _ => Option.none

/-! ## Properties -/

open Text (Category)

/-- The general categories that a name stands for.  Names are given without case and separators. -/
def categories? (name : String) : Option (List Category) :=
  let cased : List Category := [.uppercaseLetter, .lowercaseLetter, .titlecaseLetter]
  let marks : List Category := [.nonspacingMark, .spacingMark, .enclosingMark]
  let numbers : List Category := [.decimalNumber, .letterNumber, .otherNumber]
  let marksOfPunctuation : List Category :=
    [.connectorPunctuation, .dashPunctuation, .openPunctuation, .closePunctuation,
     .initialPunctuation, .finalPunctuation, .otherPunctuation]
  let symbols : List Category := [.mathSymbol, .currencySymbol, .modifierSymbol, .otherSymbol]
  let separators : List Category := [.spaceSeparator, .lineSeparator, .paragraphSeparator]
  match name with
  | "l" | "letter" => some (cased ++ [.modifierLetter, .otherLetter])
  | "lc" | "casedletter" => some cased
  | "lu" | "uppercaseletter" => some [.uppercaseLetter]
  | "ll" | "lowercaseletter" => some [.lowercaseLetter]
  | "lt" | "titlecaseletter" => some [.titlecaseLetter]
  | "lm" | "modifierletter" => some [.modifierLetter]
  | "lo" | "otherletter" => some [.otherLetter]
  | "m" | "mark" | "combiningmark" => some marks
  | "mn" | "nonspacingmark" => some [.nonspacingMark]
  | "mc" | "spacingmark" => some [.spacingMark]
  | "me" | "enclosingmark" => some [.enclosingMark]
  | "n" | "number" => some numbers
  | "nd" | "decimalnumber" | "digit" => some [.decimalNumber]
  | "nl" | "letternumber" => some [.letterNumber]
  | "no" | "othernumber" => some [.otherNumber]
  | "p" | "punctuation" | "punct" => some marksOfPunctuation
  | "pc" | "connectorpunctuation" => some [.connectorPunctuation]
  | "pd" | "dashpunctuation" => some [.dashPunctuation]
  | "ps" | "openpunctuation" => some [.openPunctuation]
  | "pe" | "closepunctuation" => some [.closePunctuation]
  | "pi" | "initialpunctuation" => some [.initialPunctuation]
  | "pf" | "finalpunctuation" => some [.finalPunctuation]
  | "po" | "otherpunctuation" => some [.otherPunctuation]
  | "s" | "symbol" => some symbols
  | "sm" | "mathsymbol" => some [.mathSymbol]
  | "sc" | "currencysymbol" => some [.currencySymbol]
  | "sk" | "modifiersymbol" => some [.modifierSymbol]
  | "so" | "othersymbol" => some [.otherSymbol]
  | "z" | "separator" => some separators
  | "zs" | "spaceseparator" => some [.spaceSeparator]
  | "zl" | "lineseparator" => some [.lineSeparator]
  | "zp" | "paragraphseparator" => some [.paragraphSeparator]
  | "c" | "other" => some [.control, .format, .privateUse, .unassigned]
  | "cc" | "control" | "cntrl" => some [.control]
  | "cf" | "format" => some [.format]
  | "co" | "privateuse" => some [.privateUse]
  | "cn" | "unassigned" => some [.unassigned]
  | "cs" | "surrogate" => some []
  | "any" => some (.unassigned :: Category.listed)
  | "assigned" => some Category.listed
  | _ => Option.none

/-- The class of a property that is no general category. -/
def property? (name : String) : Option Class :=
  match name with
  | "alphabetic" | "alpha" => some ⟨largeWeight, Text.Property.isAlphabetic⟩
  | "whitespace" | "wspace" | "space" => some (space true)
  | "uppercase" | "upper" => some ⟨largeWeight, Text.Property.isUppercase⟩
  | "lowercase" | "lower" => some ⟨largeWeight, Text.Property.isLowercase⟩
  | "cased" => some ⟨largeWeight, Text.Property.isCased⟩
  | "caseignorable" | "ci" => some ⟨largeWeight, Text.Property.isCaseIgnorable⟩
  | "graphemeextend" | "grext" => some ⟨largeWeight, Text.Property.extendsGrapheme⟩
  | "ascii" => some ⟨smallWeight, fun c => c.toNat < 0x80⟩
  | _ => Option.none

/-- A name without case, blanks, underscores and hyphens. -/
def plainName (name : List Char) : String :=
  String.ofList
    ((name.filter fun c => c ≠ ' ' && c ≠ '_' && c ≠ '-').map Char.toLower)

def ofCategories (categories : List Category) : Class :=
  ⟨largeWeight, fun c => categories.any fun category => category.has c⟩

/-- The class that a Unicode name stands for. -/
def named? (name : List Char) : Option Class :=
  let plain := plainName name
  match property? plain with
  | some result => some result
  | Option.none => (categories? plain).map ofCategories

/-- The class that a pair of a property and a value stands for: general categories only. -/
def valued? (property value : List Char) : Option Class :=
  let plain := plainName property
  if plain = "gc" ∨ plain = "generalcategory" then
    (categories? (plainName value)).map ofCategories
  else Option.none

end Class
end Pattern
end Prose

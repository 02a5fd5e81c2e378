import Prose.Pattern.Class

namespace Prose
namespace Pattern

/-!
# Reading patterns

The notation of patterns: literals, classes, groups, repetitions and flags.  A reader takes the characters
left and gives what it read with the characters behind it, or nothing if the notation is violated.
There is no look-around and there are no references to groups, so a group only holds its parts
together and its name only has to be new.

This is the part of the language that the program reads by itself.  A class that is not known here is
refused, and so is a pattern whose estimated size is too large.  What is said about plugins does not
depend on it: there the reader of patterns is a parameter.
-/

/-- What flags may switch. -/
structure Flags where
  /-- Letters match in either case. -/
  fold : Bool
  /-- `^` and `$` match at lines. -/
  lines : Bool
  /-- `.` matches a line feed too. -/
  dotAll : Bool
  /-- Classes are those of the Unicode standard. -/
  unicode : Bool
  /-- Blanks and comments in the pattern mean nothing. -/
  spaced : Bool
  /-- A carriage return ends a line as well. -/
  returns : Bool

def Flags.initial : Flags := ⟨false, false, false, true, false, false⟩

/-! ## Blanks and numbers -/

/-- The characters behind blanks and comments. -/
def skipSpaced (comment : Bool) : List Char → List Char
  | [] => []
  | c :: cs =>
    if comment then skipSpaced (c ≠ '\n') cs
    else if Text.Property.isWhiteSpace c then skipSpaced false cs
    else if c = '#' then skipSpaced true cs
    else c :: cs

/-- The characters behind what means nothing under the flags. -/
def gap (flags : Flags) (cs : List Char) : List Char :=
  if flags.spaced then skipSpaced false cs else cs

/-- Pass over a character and what means nothing behind it. -/
def next (flags : Flags) (cs : List Char) : List Char := gap flags (cs.drop 1)

/-- The characters behind white space. -/
def trimmed (cs : List Char) : List Char := cs.dropWhile Text.Property.isWhiteSpace

/-- The digits at the front, between which meaningless characters may stand. -/
def decimalDigits (flags : Flags) : Nat → List Char → List Char × List Char
  | 0, cs => ([], cs)
  | fuel + 1, cs =>
    match cs with
    | c :: _ =>
      if c.isDigit then
        let (digits, left) := decimalDigits flags fuel (next flags cs)
        (c :: digits, left)
      else ([], cs)
    | [] => ([], [])

def decimalValue (digits : List Char) : Nat :=
  digits.foldl (fun value c => value * 10 + (c.toNat - 48)) 0

/-- A count of repetitions: digits in white space.  Too large a count is no count. -/
def count? (flags : Flags) (cs : List Char) : Option Nat × List Char :=
  let (digits, left) := decimalDigits flags cs.length (trimmed cs)
  let value := decimalValue digits
  (if digits.isEmpty ∨ Nat.pow 2 32 ≤ value then none else some value, trimmed left)

/-- The bounds of a repetition between braces, behind the opening one. -/
def bounds? (flags : Flags) (cs : List Char) : Option ((Nat × Option Nat) × List Char) :=
  let (least, left) := count? flags (gap flags cs)
  match least, left with
  | some least, ',' :: _ =>
    match next flags left with
    | '\x7d' :: rest => some ((least, none), rest)
    | left =>
      match count? flags left with
      | (some most, '\x7d' :: rest) =>
        if least ≤ most then some ((least, some most), rest) else none
      | _ => none
  | some least, '\x7d' :: rest => some ((least, some least), rest)
  | _, _ => none

/-! ## Escapes -/

/-- What a single character or an escape stands for.  A literal that is given by the number of a byte is
told apart. -/
inductive Primitive where
  | literal (c : Char) (byte : Bool)
  | class (members : Class)
  | look (condition : Look)

def hexDigit? (c : Char) : Option Nat :=
  if '0' ≤ c ∧ c ≤ '9' then some (c.toNat - 48)
  else if 'a' ≤ c ∧ c ≤ 'f' then some (c.toNat - 87)
  else if 'A' ≤ c ∧ c ≤ 'F' then some (c.toNat - 55)
  else none

def scalar? (n : Nat) : Option Char :=
  if n < 0xD800 ∨ (0xDFFF < n ∧ n < 0x110000) then some (Char.ofNat n) else none

/-- A fixed number of hexadecimal digits, behind those read already. -/
def hexFixed (flags : Flags) (value : Nat) : Nat → List Char → Option (Nat × List Char)
  | 0, cs => some (value, cs)
  | left + 1, cs =>
    match cs with
    | [] => none
    | c :: _ =>
      (hexDigit? c).bind fun digit => hexFixed flags (value * 16 + digit) left (next flags cs)

/-- Hexadecimal digits up to a closing brace. -/
def hexBraced (flags : Flags) (value length : Nat) : Nat → List Char → Option (Nat × List Char)
  | 0, _ => none
  | fuel + 1, cs =>
    match cs with
    | [] => none
    | '\x7d' :: _ => if length = 0 then none else some (value, next flags cs)
    | c :: _ =>
      (hexDigit? c).bind fun digit =>
        hexBraced flags (value * 16 + digit) (length + 1) fuel (next flags cs)

/-- A character given by its number, behind the letter that says how many digits to expect. -/
def hexEscape (flags : Flags) (length : Nat) (cs : List Char) : Option (Primitive × List Char) :=
  match gap flags cs with
  | [] => none
  | '\x7b' :: rest =>
    match hexBraced flags 0 0 (rest.length + 1) (gap flags rest) with
    | some (value, left) => (scalar? value).map fun c => (.literal c false, left)
    | none => none
  | left =>
    match hexFixed flags 0 length left with
    | some (value, left) => (scalar? value).map fun c => (.literal c (length = 2), left)
    | none => none

/-- The characters up to a closing brace. -/
def bracedName (flags : Flags) : Nat → List Char → Option (List Char × List Char)
  | 0, _ => none
  | fuel + 1, cs =>
    match cs with
    | [] => none
    | '\x7d' :: rest => some ([], rest)
    | c :: _ => (bracedName flags fuel (next flags cs)).map fun (name, left) => (c :: name, left)

/-- The class of a name, or of a property and a value with a sign between them. -/
def classOfName? (name : List Char) : Option Class :=
  match splitAt? ['!', '='] name with
  | some (property, value) => (Class.valued? property value).map Class.compl
  | none =>
    match splitAt? [':'] name with
    | some (property, value) => Class.valued? property value
    | none =>
      match splitAt? ['='] name with
      | some (property, value) => Class.valued? property value
      | none => Class.named? name
where
  /-- What stands in front of and behind the first occurrence of a sign. -/
  splitAt? (sign : List Char) : List Char → Option (List Char × List Char)
    | [] => none
    | c :: cs =>
      if sign.isPrefixOf (c :: cs) then some ([], (c :: cs).drop sign.length)
      else (splitAt? sign cs).map fun (front, back) => (c :: front, back)

/-- A class of the Unicode standard, behind its letter. -/
def unicodeClass (flags : Flags) (negated : Bool) (cs : List Char) :
    Option (Primitive × List Char) :=
  let finish (found : Option Class) (left : List Char) : Option (Primitive × List Char) :=
    if flags.unicode then
      found.map fun members =>
        let members := if flags.fold then members.folded true else members
        (.class (members.negatedIf negated), left)
    else none
  match gap flags cs with
  | [] => none
  | '\x7b' :: rest =>
    match bracedName flags (rest.length + 1) (gap flags rest) with
    | some (name, left) => finish (classOfName? name) left
    | none => none
  | c :: rest => if c = '\\' then none else finish (Class.named? [c]) (gap flags rest)

/-- A class written with a letter.  Outside the Unicode standard its complement is refused: it would
match half a character. -/
def letterClass (flags : Flags) (members : Class) (negated : Bool) (left : List Char) :
    Option (Primitive × List Char) :=
  if negated && !flags.unicode then none
  else some (.class (members.negatedIf negated), left)

/-- Punctuation that has a meaning in patterns. -/
def isMeta (c : Char) : Bool :=
  "\\.+*?()|[]\x7b\x7d^$#&-~".toList.contains c

/-- The edge of a word that a name between braces stands for. -/
def edgeOfName? (unicode : Bool) (name : String) : Option Look :=
  match name with
  | "start" => some (.wordStart unicode)
  | "end" => some (.wordEnd unicode)
  | "start-half" => some (.noWordBefore unicode)
  | "end-half" => some (.noWordAfter unicode)
  | _ => none

def isEdgeChar (c : Char) : Bool := c.isAlpha || c = '-'

/-- The name of an edge up to its closing brace. -/
def edgeName (flags : Flags) : Nat → List Char → Option (List Char × List Char)
  | 0, _ => none
  | fuel + 1, cs =>
    match cs with
    | [] => none
    | '\x7d' :: rest => some ([], rest)
    | c :: _ =>
      if isEdgeChar c then
        (edgeName flags fuel (next flags cs)).map fun (name, left) => (c :: name, left)
      else none

/-- A word edge, behind its letter.  A name in braces may follow; braces around anything else belong to
a repetition. -/
def wordEdge (flags : Flags) (cs : List Char) : Option (Primitive × List Char) :=
  match cs with
  | '\x7b' :: _ =>
    match next flags cs with
    | [] => none
    | c :: rest =>
      if isEdgeChar c then
        match edgeName flags (rest.length + 2) (c :: rest) with
        | some (name, left) =>
          (edgeOfName? flags.unicode (String.ofList name)).map fun edge => (.look edge, left)
        | none => none
      else some (.look (.wordEdge flags.unicode), cs)
  | _ => some (.look (.wordEdge flags.unicode), cs)

/-- What the characters behind a backslash stand for. -/
def escape (flags : Flags) (cs : List Char) : Option (Primitive × List Char) :=
  match cs with
  | [] => none
  | c :: rest =>
    let char (d : Char) : Option (Primitive × List Char) := some (.literal d false, rest)
    match c with
    | 'x' => hexEscape flags 2 rest
    | 'u' => hexEscape flags 4 rest
    | 'U' => hexEscape flags 8 rest
    | 'p' => unicodeClass flags false rest
    | 'P' => unicodeClass flags true rest
    | 'd' => letterClass flags (.digit flags.unicode) false rest
    | 'D' => letterClass flags (.digit flags.unicode) true rest
    | 's' => letterClass flags (.space flags.unicode) false rest
    | 'S' => letterClass flags (.space flags.unicode) true rest
    | 'w' => letterClass flags (.word flags.unicode) false rest
    | 'W' => letterClass flags (.word flags.unicode) true rest
    | 'a' => char '\x07'
    | 'f' => char '\x0c'
    | 't' => char '\t'
    | 'n' => char '\n'
    | 'r' => char '\r'
    | 'v' => char '\x0b'
    | 'A' => some (.look .textStart, rest)
    | 'z' => some (.look .textEnd, rest)
    | 'b' => wordEdge flags rest
    | 'B' => some (.look (.notWordEdge flags.unicode), rest)
    | '<' => some (.look (.wordStart flags.unicode), rest)
    | '>' => some (.look (.wordEnd flags.unicode), rest)
    | _ => if isMeta c || (c.toNat < 0x80 && !c.isAlphanum) then char c else none

/-! ## Classes in brackets -/

/-- A class with the depth of nesting of its notation. -/
structure Nested where
  members : Class
  depth : Nat

/-- The union of the members of a class in brackets, in reverse. -/
def unite : List Nested → Nested
  | [] => ⟨Class.none, 0⟩
  | [item] => item
  | items =>
    ⟨(items.map Nested.members).foldl Class.union Class.none,
      (items.map Nested.depth).foldl max 0 + 1⟩

/-- The three operations on classes. -/
inductive Operation where
  | inter
  | diff
  | symmDiff

def Operation.ofChar? (c : Char) : Option Operation :=
  if c = '&' then some .inter
  else if c = '-' then some .diff
  else if c = '~' then some .symmDiff
  else none

/-- Join the operand read last to those in front of it. -/
def combine (left : Option (Nested × Operation)) (right : Nested) : Nested :=
  match left with
  | none => right
  | some (left, operation) =>
    let members :=
      match operation with
      | .inter => left.members.inter right.members
      | .diff => left.members.diff right.members
      | .symmDiff => left.members.symmDiff right.members
    ⟨members, max left.depth right.depth + 1⟩

/-- A class between colons, behind the bracket that it stands in. -/
def asciiClass? (cs : List Char) : Option (Class × List Char) :=
  match cs with
  | ':' :: rest =>
    let (negated, rest) :=
      match rest with
      | '^' :: tail => (true, tail)
      | _ => (false, rest)
    let name := rest.takeWhile (· ≠ ':')
    match rest.dropWhile (· ≠ ':') with
    | ':' :: ']' :: left =>
      (Class.ascii? (String.ofList name)).map fun members => (members.negatedIf negated, left)
    | _ => none
  | _ => none

def classItem (flags : Flags) (cs : List Char) : Option (Primitive × List Char) :=
  match cs with
  | [] => none
  | '\\' :: rest => escape flags rest
  | c :: rest => some (.literal c false, rest)

/-- A literal as a member of a class; without the Unicode standard only ASCII has one. -/
def literal? (flags : Flags) (c : Char) : Option Char :=
  if flags.unicode || c.toNat < 0x80 then some c else none

def foldIf (flags : Flags) (members : Class) : Class :=
  if flags.fold then members.folded flags.unicode else members

def memberOf (flags : Flags) (primitive : Primitive) : Option Nested :=
  match primitive with
  | .literal c _ => (literal? flags c).map fun c => ⟨foldIf flags (Class.ofChar c), 0⟩
  | .class members => some ⟨foldIf flags members, 0⟩
  | .look _ => none

/-- A member of a class in brackets, or a range of two. -/
def classRange (flags : Flags) (cs : List Char) : Option (Nested × List Char) :=
  match classItem flags cs with
  | none => none
  | some (first, left) =>
    let left := gap flags left
    let single := (memberOf flags first).map fun item => (item, left)
    match left with
    | [] => none
    | '-' :: _ =>
      match next flags left with
      | [] => none
      | ']' :: _ | '-' :: _ => single
      | behind =>
        match first, classItem flags behind with
        | .literal a _, some (.literal b _, left) =>
          match literal? flags a, literal? flags b with
          | some a, some b =>
            if a ≤ b then some (⟨foldIf flags (Class.range a b), 0⟩, left) else none
          | _, _ => none
        | _, _ => none
    | _ => single

/-- The hyphens at the start of a class, which stand for themselves. -/
def leadingHyphens (flags : Flags) : Nat → List Char → Nat × List Char
  | 0, cs => (0, cs)
  | fuel + 1, cs =>
    match cs with
    | '-' :: _ =>
      let (count, left) := leadingHyphens flags fuel (next flags cs)
      (count + 1, left)
    | _ => (0, cs)

/-- A bracket closes a class: its complement is taken if it is negated.  Without the Unicode standard it
must not match half a character. -/
def closeClass (flags : Flags) (negated : Bool) (body : Nested) : Option Nested :=
  let members := body.members.negatedIf negated
  if !flags.unicode && members.hasHighByte then none else some ⟨members, body.depth + 1⟩

mutual

/-- Read a class behind its opening bracket. -/
def bracket (flags : Flags) (fuel : Nat) (cs : List Char) : Option (Nested × List Char) :=
  match fuel with
  | 0 => none
  | fuel + 1 =>
    let cs := gap flags cs
    let (negated, cs) :=
      match cs with
      | '^' :: _ => (true, next flags cs)
      | _ => (false, cs)
    let (hyphens, cs) := leadingHyphens flags cs.length cs
    let hyphen : Nested := ⟨foldIf flags (Class.ofChar '-'), 0⟩
    match hyphens, cs with
    | 0, ']' :: _ =>
      members flags fuel negated none [⟨foldIf flags (Class.ofChar ']'), 0⟩] (next flags cs)
    | _, _ => members flags fuel negated none (List.replicate hyphens hyphen) cs

/-- Read the members of a class up to its closing bracket, behind operands and members read before. -/
def members (flags : Flags) (fuel : Nat) (negated : Bool) (left : Option (Nested × Operation))
    (items : List Nested) (cs : List Char) : Option (Nested × List Char) :=
  match fuel with
  | 0 => none
  | fuel + 1 =>
    match gap flags cs with
    | [] => none
    | ']' :: rest =>
      (closeClass flags negated (combine left (unite items))).map fun result => (result, rest)
    | '[' :: rest =>
      match asciiClass? rest with
      | some (found, rest) =>
        members flags fuel negated left (⟨foldIf flags found, 0⟩ :: items) rest
      | none =>
        match bracket flags fuel rest with
        | some (inner, rest) => members flags fuel negated left (inner :: items) rest
        | none => none
    | c :: d :: rest =>
      match (if c = d then Operation.ofChar? c else none) with
      | some operation =>
        members flags fuel negated (some (combine left (unite items), operation)) [] rest
      | none =>
        match classRange flags (c :: d :: rest) with
        | some (item, rest) => members flags fuel negated left (item :: items) rest
        | none => none
    | [c] =>
      match classRange flags [c] with
      | some (item, rest) => members flags fuel negated left (item :: items) rest
      | none => none

end

/-! ## Groups and flags -/

def isNameChar (first : Bool) (c : Char) : Bool :=
  c = '_' || Text.Property.isAlphabetic c ||
    (!first && (c = '.' || c = '[' || c = ']' || Text.Property.isNumber c))

/-- The name of a group, up to the bracket behind it. -/
def groupName? (cs : List Char) : Option (String × List Char) :=
  let name := cs.takeWhile (· ≠ '>')
  match cs.dropWhile (· ≠ '>'), name with
  | '>' :: left, c :: rest =>
    if isNameChar true c && rest.all (isNameChar false) then some (String.ofList name, left)
    else none
  | _, _ => none

def Flags.set (flags : Flags) (letter : Char) (on : Bool) : Option Flags :=
  match letter with
  | 'i' => some { flags with fold := on }
  | 'm' => some { flags with lines := on }
  | 's' => some { flags with dotAll := on }
  | 'u' => some { flags with unicode := on }
  | 'x' => some { flags with spaced := on }
  | 'R' => some { flags with returns := on }
  | 'U' => some flags
  | _ => none

/-- Read flags up to the character that ends them.  No letter may occur twice, and something has to
follow a hyphen. -/
def flagLetters (flags : Flags) (seen : List Char) : List Char → Option (Flags × List Char × List Char)
  | [] => none
  | c :: cs =>
    if c = ':' ∨ c = ')' then
      if seen.head? = some '-' then none else some (flags, seen, c :: cs)
    else if seen.contains c then none
    else if c = '-' then flagLetters flags (c :: seen) cs
    else
      match flags.set c (!seen.contains '-') with
      | some flags => flagLetters flags (c :: seen) cs
      | none => none

/-- How a group begins. -/
inductive Opening where
  /-- A directive that sets flags for the rest of the group around it. -/
  | directive (flags : Flags)
  /-- A group with its flags, and its name if it has one. -/
  | group (flags : Flags) (name : Option String)

/-- Read how a group begins, behind its opening parenthesis. -/
def opening (flags : Flags) (cs : List Char) : Option (Opening × List Char) :=
  match gap flags cs with
  | '?' :: '=' :: _ | '?' :: '!' :: _ | '?' :: '<' :: '=' :: _ | '?' :: '<' :: '!' :: _ => none
  | '?' :: 'P' :: '<' :: rest =>
    (groupName? rest).map fun (name, left) => (.group flags (some name), left)
  | '?' :: '<' :: rest =>
    (groupName? rest).map fun (name, left) => (.group flags (some name), left)
  | '?' :: rest =>
    match flagLetters flags [] rest with
    | some (_, [], ')' :: _) => none
    | some (flags, _, ')' :: left) => some (.directive flags, left)
    | some (flags, _, ':' :: left) => some (.group flags none, left)
    | _ => none
  | left => some (.group flags none, left)

/-! ## Sequences -/

/-- A part of a pattern with the depth of nesting of its notation. -/
structure Part where
  pattern : Pattern
  depth : Nat

/-- An item of a sequence: a part, or a directive, which cannot be repeated. -/
inductive Item where
  | part (part : Part)
  | directive

def Item.depth : Item → Nat
  | .part inner => inner.depth
  | .directive => 0

def Item.pattern : Item → Pattern
  | .part inner => inner.pattern
  | .directive => .empty

def sequence : List Item → Part
  | [] => ⟨.empty, 0⟩
  | [item] => ⟨item.pattern, item.depth⟩
  | item :: rest =>
    ⟨rest.foldl (fun tail item => .seq item.pattern tail) item.pattern,
      ((item :: rest).map Item.depth).foldl max 0 + 1⟩

def alternatives : List Part → Part
  | [] => ⟨.empty, 0⟩
  | [part] => part
  | part :: rest =>
    ⟨rest.foldl (fun tail part => .either part.pattern tail) part.pattern,
      ((part :: rest).map Part.depth).foldl max 0 + 1⟩

def repeatLast (least : Nat) (most : Option Nat) : List Item → Option (List Item)
  | .part part :: rest =>
    some (.part ⟨.repeated least most part.pattern, part.depth + 1⟩ :: rest)
  | _ => none

/-- Pass over the mark of a reluctant repetition. -/
def skipReluctant (cs : List Char) : List Char :=
  match cs with
  | '?' :: rest => rest
  | _ => cs

/-- The pattern of one character or escape. -/
def patternOf (flags : Flags) (primitive : Primitive) : Option Part :=
  match primitive with
  | .literal c byte =>
    if byte && !flags.unicode && 0x80 ≤ c.toNat then none
    else
      let members := foldIf flags (Class.ofChar c)
      some ⟨.one members.weight members.test, 0⟩
  | .class members => some ⟨.one members.weight members.test, 0⟩
  | .look condition => some ⟨.look condition, 0⟩

/-- The dot: any character but the ends of lines.  Without the Unicode standard it would match half a
character. -/
def dot? (flags : Flags) : Option Part :=
  if !flags.unicode then none
  else
    some ⟨.one (8 * stateWeight) fun c =>
      flags.dotAll || !(c = '\n' || (flags.returns && c = '\r')), 0⟩

def caret (flags : Flags) : Look :=
  if flags.lines then (if flags.returns then .anyLineStart else .lineStart) else .textStart

def dollar (flags : Flags) : Look :=
  if flags.lines then (if flags.returns then .anyLineEnd else .lineEnd) else .textEnd

/-- What reading a group up to its end gives: its pattern, the names of groups met so far, and the
characters left, which start with the closing parenthesis unless the text is at its end. -/
structure Body where
  part : Part
  names : List String
  left : List Char

/-- Read alternatives up to the end of the group.  The items of the present alternative and the
alternatives in front of it are kept in reverse. -/
def body (fuel : Nat) (flags : Flags) (names : List String) (before : List Part)
    (items : List Item) (cs : List Char) : Option Body :=
  match fuel with
  | 0 => none
  | fuel + 1 =>
    let go (items : List Item) (left : List Char) : Option Body :=
      body fuel flags names before items left
    let repeated (least : Nat) (most : Option Nat) (left : List Char) : Option Body :=
      (repeatLast least most items).bind fun items => go items (skipReluctant left)
    match gap flags cs with
    | [] => some ⟨alternatives (sequence items :: before), names, []⟩
    | ')' :: rest => some ⟨alternatives (sequence items :: before), names, ')' :: rest⟩
    | '|' :: rest => body fuel flags names (sequence items :: before) [] rest
    | '(' :: rest =>
      match opening flags rest with
      | none => none
      | some (.directive flags, left) => body fuel flags names before (.directive :: items) left
      | some (.group inner name, left) =>
        if name.any names.contains then none
        else
          match body fuel inner (name.toList ++ names) [] [] left with
          | some ⟨part, names, ')' :: left⟩ =>
            body fuel flags names before (.part ⟨part.pattern, part.depth + 1⟩ :: items) left
          | _ => none
    | '[' :: rest =>
      match bracket flags fuel rest with
      | some (found, left) =>
        go (.part ⟨.one found.members.weight found.members.test, found.depth⟩ :: items) left
      | none => none
    | '?' :: left => repeated 0 (some 1) left
    | '*' :: left => repeated 0 none left
    | '+' :: left => repeated 1 none left
    | '\x7b' :: rest =>
      match bounds? flags rest with
      | some ((least, most), left) => repeated least most (gap flags left)
      | none => none
    | '\\' :: rest =>
      match escape flags rest with
      | some (primitive, left) =>
        (patternOf flags primitive).bind fun part => go (.part part :: items) left
      | none => none
    | '.' :: left => (dot? flags).bind fun part => go (.part part :: items) left
    | '^' :: left => go (.part ⟨.look (caret flags), 0⟩ :: items) left
    | '$' :: left => go (.part ⟨.look (dollar flags), 0⟩ :: items) left
    | c :: left =>
      (patternOf flags (.literal c false)).bind fun part => go (.part part :: items) left

/-- The greatest depth of nesting that is accepted. -/
def depthLimit : Nat := 250

/-- The pattern that a text denotes. -/
def ofString? (text : String) : Option Pattern :=
  let cs := text.toList
  match body (4 * cs.length + 4) Flags.initial [] [] [] cs with
  | some ⟨part, _, []⟩ =>
    if part.depth ≤ depthLimit ∧ part.pattern.weight ≤ weightLimit then some part.pattern else none
  | _ => none

/-- The reader of patterns.  It gives no reasons. -/
def reader (text : String) : Except (Option String) (String → Bool) :=
  match ofString? text with
  | some pattern => .ok pattern.isMatch
  | none => .error none

end Pattern
end Prose

import Prose.Json.Basic
import Prose.Yaml.Node

namespace Prose
namespace Yaml

/-!
# Values of YAML

A plain scalar is a null, a truth value or a number if it has one of their forms, and else a string; a
quoted one is a string.  A tag of the core schema asks for one sort of value.
-/

/-- A value.  A number that is not finite has no digits. -/
inductive Value where
  | null
  | boolean (value : Bool)
  | integer (value : Int)
  | number (value : Option Binary64)
  | string (value : String)
  | sequence (items : List Value)
  | mapping (pairs : List (Value × Value))
deriving Repr, Inhabited

namespace Value

/-! ## Forms of scalars -/

def isNull (text : String) : Bool :=
  text = "null" || text = "Null" || text = "NULL" || text = "~"

/-- The truth value that a text is. -/
def truth? (text : String) : Option Bool :=
  if text = "true" || text = "True" || text = "TRUE" then some true
  else if text = "false" || text = "False" || text = "FALSE" then some false
  else none

/-- The number that digits of a base make, if they are all digits. -/
def digits? (base : Nat) (cs : List Char) : Option Nat := do
  if cs.isEmpty then none
  let values ← cs.mapM Scalar.hexDigit?
  if values.all (· < base) then return values.foldl (fun n d => n * base + d) 0 else none

/-- Whether digits are many and begin with a zero.  They do not make a number. -/
def isPadded (cs : List Char) : Bool := 1 < cs.length && cs.head? = some '0' && cs.all Char.isDigit

/-- The natural number that a text without sign is: hexadecimal, octal, binary or decimal. -/
def natural? (cs : List Char) : Option Nat :=
  match cs with
  | '0' :: 'x' :: rest => digits? 16 rest
  | '0' :: 'o' :: rest => digits? 8 rest
  | '0' :: 'b' :: rest => digits? 2 rest
  | _ => if isPadded cs then none else digits? 10 cs

/-- The whole number that a text is, if it lies within 128 bits. -/
def integer? (cs : List Char) : Option Int :=
  match cs with
  | '-' :: rest => ((natural? rest).filter (· ≤ Nat.pow 2 127)).map fun n => -(n : Int)
  | '+' :: rest => ((natural? rest).filter (· < Nat.pow 2 128)).map fun n => (n : Int)
  | _ => ((natural? cs).filter (· < Nat.pow 2 128)).map fun n => (n : Int)

/-- The exponent behind a decimal number. -/
def exponent? (cs : List Char) : Option Int :=
  match cs with
  | [] => some 0
  | c :: rest =>
    if c = 'e' || c = 'E' then
      match rest with
      | '-' :: rest => (digits? 10 rest).map fun n => -(n : Int)
      | '+' :: rest => (digits? 10 rest).map fun n => (n : Int)
      | _ => (digits? 10 rest).map fun n => (n : Int)
    else none

/-- The finite number nearest to a decimal text without sign. -/
def decimal? (cs : List Char) : Option Binary64 := do
  let whole := cs.takeWhile Char.isDigit
  let rest := cs.drop whole.length
  let (places, rest) :=
    match rest with
    | '.' :: rest => (rest.takeWhile Char.isDigit, rest.dropWhile Char.isDigit)
    | _ => ([], rest)
  let exponent ← exponent? rest
  Binary64.ofDecimal (← digits? 10 (whole ++ places)) (exponent - places.length)

/-- The fraction that a text is.  Infinities and what is not a number are written with a point. -/
def fraction? (cs : List Char) : Option (Option Binary64) :=
  let infinite := fun cs => ["inf", "Inf", "INF"].any fun word => cs = '.' :: word.toList
  match cs with
  | '+' :: rest => if infinite rest then some none else (decimal? rest).map some
  | '-' :: rest =>
    if infinite rest then some none else (decimal? rest).map fun x => some (x.withSign true)
  | _ =>
    if infinite cs || ["nan", "NaN", "NAN"].any fun word => cs = '.' :: word.toList then some none
    else (decimal? cs).map some

/-- A whole number as a value, if 64 bits hold it with or without a sign. -/
def ofInteger? (n : Int) : Option Value :=
  if -(Nat.pow 2 63 : Int) ≤ n && n < (Nat.pow 2 64 : Int) then some (.integer n) else none

/-- The value of a plain scalar without tag. -/
def ofPlain? (text : String) : Option Value :=
  if text.isEmpty || isNull text then some .null
  else
    match truth? text with
    | some value => some (.boolean value)
    | none =>
      let cs := text.toList
      match integer? cs with
      | some n => ofInteger? n
      | none =>
        let unsigned :=
          match cs with
          | '-' :: rest | '+' :: rest => rest
          | _ => cs
        if isPadded unsigned then some (.string text)
        else
          match fraction? cs with
          | some x => some (.number x)
          | none => some (.string text)

def ofScalar? (tag : Option String) (plain : Bool) (text : String) : Option Value :=
  match tag with
  | none => if plain then ofPlain? text else some (.string text)
  | some tag =>
    if tag = "tag:yaml.org,2002:bool" then (truth? text).map .boolean
    else if tag = "tag:yaml.org,2002:int" then (integer? text.toList).bind ofInteger?
    else if tag = "tag:yaml.org,2002:float" then (fraction? text.toList).map .number
    else if tag = "tag:yaml.org,2002:null" then if isNull text then some .null else none
    else some (.string text)

/-! ## Values of nodes -/

/-- Whether a tag is one of a document's own. -/
def isLocal (tag : Option String) : Bool := tag.any fun tag => tag.startsWith "!"

/-- A step of evaluation, which may fail.  The number of aliases that may still be followed is
limited. -/
abbrev Evaluation := StateT Nat Option

def follow : Evaluation Unit := do
  match ← get with
  | 0 => failure
  | left + 1 => set left

mutual

/-- The value of a node with at most a number of collections one in another.  Tags of a document's own
are refused. -/
def ofNode? (depth : Nat) : Node → Evaluation Value
  | .scalar tag plain text => if isLocal tag then failure else StateT.lift (ofScalar? tag plain text)
  | .sequence tag items => do
    if isLocal tag || depth = 0 then failure
    return .sequence (← ofNodes? (depth - 1) items)
  | .mapping tag pairs => do
    if isLocal tag || depth = 0 then failure
    return .mapping (← ofPairs? (depth - 1) pairs)
  | .alias target => do
    follow
    ofNode? depth target

def ofNodes? (depth : Nat) : List Node → Evaluation (List Value)
  | [] => return []
  | node :: rest => do
    let value ← ofNode? depth node
    return value :: (← ofNodes? depth rest)

def ofPairs? (depth : Nat) : List (Node × Node) → Evaluation (List (Value × Value))
  | [] => return []
  | (key, value) :: rest => do
    let key ← ofNode? depth key
    let value ← ofNode? depth value
    return (key, value) :: (← ofPairs? depth rest)

end

mutual

/-- A value in JSON, if all keys in it are strings. -/
def toJson? : Value → Option Json
  | .null => some .null
  | .boolean value => some (.boolean value)
  | .integer value => some (.integer value)
  | .number (some value) => some (.number value)
  | .number none => some .null
  | .string value => some (.string value)
  | .sequence items => (toItems? items).map .array
  | .mapping pairs => (toFields? pairs).map Json.ofFields

def toItems? : List Value → Option (List Json)
  | [] => some []
  | item :: rest => do
    let item ← item.toJson?
    return item :: (← toItems? rest)

def toFields? : List (Value × Value) → Option (List (String × Json))
  | [] => some []
  | (.string key, value) :: rest => do
    let value ← value.toJson?
    return (key, value) :: (← toFields? rest)
  | _ :: _ => none

end

end Value
end Yaml
end Prose

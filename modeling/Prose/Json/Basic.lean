import Prose.Number.Binary64

namespace Prose

/-!
# JSON values

Annotations and options are JSON values.  Whole numbers and binary fractions are kept apart, and the
fields of an object are a list ordered by key.  `Json.Fields.insert` keeps that order, so equal objects
are equal lists.
-/

/-- A JSON value. -/
inductive Json where
  | null
  | boolean (value : Bool)
  | integer (value : Int)
  | number (value : Binary64)
  | string (value : String)
  | array (items : List Json)
  | object (fields : List (String × Json))
deriving Repr, Inhabited

namespace Json

/-- The fields of an object, ascending by key. -/
abbrev Fields := List (String × Json)

mutual

/-- Equality of values is decided field by field. -/
def decideEq : (a b : Json) → Decidable (a = b)
  | .null, .null => isTrue rfl
  | .boolean a, .boolean b => decidable_of_iff (a = b) (by simp)
  | .integer a, .integer b => decidable_of_iff (a = b) (by simp)
  | .number a, .number b => decidable_of_iff (a = b) (by simp)
  | .string a, .string b => decidable_of_iff (a = b) (by simp)
  | .array a, .array b =>
    match decideItemsEq a b with
    | isTrue h => isTrue (by rw [h])
    | isFalse h => isFalse (by simpa using h)
  | .object a, .object b =>
    match decideFieldsEq a b with
    | isTrue h => isTrue (by rw [h])
    | isFalse h => isFalse (by simpa using h)
  | .null, .boolean _ | .null, .integer _ | .null, .number _ | .null, .string _
  | .null, .array _ | .null, .object _ => isFalse (by simp)
  | .boolean _, .null | .boolean _, .integer _ | .boolean _, .number _ | .boolean _, .string _
  | .boolean _, .array _ | .boolean _, .object _ => isFalse (by simp)
  | .integer _, .null | .integer _, .boolean _ | .integer _, .number _ | .integer _, .string _
  | .integer _, .array _ | .integer _, .object _ => isFalse (by simp)
  | .number _, .null | .number _, .boolean _ | .number _, .integer _ | .number _, .string _
  | .number _, .array _ | .number _, .object _ => isFalse (by simp)
  | .string _, .null | .string _, .boolean _ | .string _, .integer _ | .string _, .number _
  | .string _, .array _ | .string _, .object _ => isFalse (by simp)
  | .array _, .null | .array _, .boolean _ | .array _, .integer _ | .array _, .number _
  | .array _, .string _ | .array _, .object _ => isFalse (by simp)
  | .object _, .null | .object _, .boolean _ | .object _, .integer _ | .object _, .number _
  | .object _, .string _ | .object _, .array _ => isFalse (by simp)

def decideItemsEq : (a b : List Json) → Decidable (a = b)
  | [], [] => isTrue rfl
  | [], _ :: _ => isFalse (by simp)
  | _ :: _, [] => isFalse (by simp)
  | a :: as, b :: bs =>
    match decideEq a b, decideItemsEq as bs with
    | isTrue h, isTrue hs => isTrue (by rw [h, hs])
    | isFalse h, _ => isFalse (by simp [h])
    | _, isFalse hs => isFalse (by simp [hs])

def decideFieldsEq : (a b : List (String × Json)) → Decidable (a = b)
  | [], [] => isTrue rfl
  | [], _ :: _ => isFalse (by simp)
  | _ :: _, [] => isFalse (by simp)
  | (j, a) :: as, (k, b) :: bs =>
    match decEq j k, decideEq a b, decideFieldsEq as bs with
    | isTrue hk, isTrue h, isTrue hs => isTrue (by rw [hk, h, hs])
    | isFalse hk, _, _ => isFalse (by simp [hk])
    | _, isFalse h, _ => isFalse (by simp [h])
    | _, _, isFalse hs => isFalse (by simp [hs])

end

instance : DecidableEq Json := decideEq

def ofNat (n : Nat) : Json := .integer n

/-! ## Nesting -/

mutual

/-- How deep arrays and objects are nested in a value. -/
def depth : Json → Nat
  | .array items => depthAll items + 1
  | .object fields => depthFields fields + 1
  | _ => 0

/-- The greatest depth of several values. -/
def depthAll : List Json → Nat
  | [] => 0
  | item :: rest => max item.depth (depthAll rest)

/-- The greatest depth of the values of fields. -/
def depthFields : List (String × Json) → Nat
  | [] => 0
  | (_, value) :: rest => max value.depth (depthFields rest)

end

/-! ## Fields -/

namespace Fields

/-- Set a field: an equal key is replaced, another one takes its place in the order. -/
def insert (key : String) (value : Json) : Fields → Fields
  | [] => [(key, value)]
  | (k, v) :: rest =>
    if key < k then (key, value) :: (k, v) :: rest
    else if key = k then (key, value) :: rest
    else (k, v) :: insert key value rest

def find? (key : String) (fields : Fields) : Option Json := fields.lookup key

def erase (key : String) (fields : Fields) : Fields := fields.filter fun field => field.1 ≠ key

/-- The fields of a list of pairs; of two with one key the later one stays. -/
def ofList (pairs : List (String × Json)) : Fields :=
  pairs.foldl (fun fields pair => insert pair.1 pair.2 fields) []

end Fields

/-- An object with the given fields, in any order. -/
def ofFields (pairs : List (String × Json)) : Json := .object (Fields.ofList pairs)

end Json
end Prose

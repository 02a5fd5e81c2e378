import Prose.Number.Binary64

namespace Prose

/-!
# Shortest decimals

The decimal with the fewest digits among those that round to a given binary number, and among these
the one nearest to it.  For each number of digits the two neighbours of the exact value on that decimal
grid are tried; if any point of the grid rounds to the number, one of them does.
-/

/-- The positive number `digits * 10 ^ power`. -/
structure Decimal where
  digits : Nat
  power : Int
deriving DecidableEq, Repr

namespace Decimal

def fraction (d : Decimal) : Nat × Nat :=
  match d.power with
  | .ofNat k => (d.digits * Nat.pow 10 k, 1)
  | .negSucc k => (d.digits, Nat.pow 10 (k + 1))

def roundsTo (d : Decimal) (x : Binary64) : Bool :=
  Binary64.round d.fraction.1 d.fraction.2 == some (x.withSign false)

/-- How many decimal digits the whole part of a fraction of at least one has. -/
def wholeLength (num den : Nat) : Nat := (Nat.toDigits 10 (num / den)).length

/-- The number of zeros directly behind the point of a fraction below one, searched up to a bound. -/
def leadingZeros (num den : Nat) : Nat → Nat
  | 0 => 0
  | bound + 1 => if den ≤ num * 10 then 0 else leadingZeros (num * 10) den bound + 1

/-- The power of ten that stands just above a positive fraction. -/
def magnitude (num den : Nat) : Int :=
  if den ≤ num then (wholeLength num den : Int) else -(leadingZeros num den 400 : Int)

/-- The decimals of `count` digits next to a fraction, below and above. -/
def neighbours (num den : Nat) (count : Nat) : Decimal × Decimal :=
  let power := magnitude num den - count
  let below :=
    match power with
    | .ofNat k => num / (den * Nat.pow 10 k)
    | .negSucc k => num * Nat.pow 10 (k + 1) / den
  (⟨below, power⟩, ⟨below + 1, power⟩)

/-- Whether the lower of two neighbours is at least as near to the fraction as the upper one. -/
def lowerNearer (num den : Nat) (low high : Decimal) : Bool :=
  let (a, b) := low.fraction
  let (c, d) := high.fraction
  -- `num / den - a / b ≤ c / d - num / den`
  decide (2 * num * b * d ≤ (c * b + a * d) * den)

/-- The shortest decimal of at least `count` digits, with `left` more lengths to try. -/
def search (x : Binary64) (count : Nat) : Nat → Decimal
  | 0 => (neighbours x.fraction.1 x.fraction.2 count).1
  | left + 1 =>
    let (low, high) := neighbours x.fraction.1 x.fraction.2 count
    match low.roundsTo x, high.roundsTo x with
    | true, true => if lowerNearer x.fraction.1 x.fraction.2 low high then low else high
    | true, false => low
    | false, true => high
    | false, false => search x (count + 1) left

/-- Drop the zeros at the end of the digits. -/
def trim (d : Decimal) : Nat → Decimal
  | 0 => d
  | left + 1 =>
    if d.digits ≠ 0 ∧ d.digits % 10 = 0 then trim ⟨d.digits / 10, d.power + 1⟩ left else d

/-- The shortest decimal that rounds to the absolute value of a number other than zero. -/
def shortest (x : Binary64) : Decimal := trim (search x 1 17) 17

/-! ## Notation -/

/-- How decimals are written: positionally if the exponent of the leading digit is at least `least`
and below `limit`, else with an exponent. -/
structure Notation where
  least : Int
  limit : Int
  plusSign : Bool

/-- Digits with a point behind the first `whole` of them. -/
def pointed (digits : List Char) (whole : Nat) : List Char :=
  let tail := digits.drop whole
  digits.take whole ++ '.' :: (if tail.isEmpty then ['0'] else tail)

/-- Positional notation; there is a digit on both sides of the point. -/
def positional (digits : List Char) (lead : Int) : List Char :=
  match lead with
  | .ofNat k => pointed (digits ++ List.replicate (k + 1 - digits.length) '0') (k + 1)
  | .negSucc k => '0' :: '.' :: (List.replicate k '0' ++ digits)

def exponential (form : Notation) (digits : List Char) (lead : Int) : List Char :=
  let mantissa :=
    match digits with
    | [] => []
    | [d] => [d]
    | d :: rest => d :: '.' :: rest
  let exponent :=
    match lead with
    | .ofNat k => (if form.plusSign then ['+'] else []) ++ Nat.toDigits 10 k
    | .negSucc k => '-' :: Nat.toDigits 10 (k + 1)
  mantissa ++ 'e' :: exponent

/-- The written form of a positive decimal. -/
def write (form : Notation) (d : Decimal) : List Char :=
  let digits := Nat.toDigits 10 d.digits
  let lead := d.power + digits.length - 1
  if form.least ≤ lead ∧ lead < form.limit then positional digits lead
  else exponential form digits lead

end Decimal

namespace Binary64

/-- The written form of a number: its shortest decimal, with a minus sign if it has one. -/
def write (form : Decimal.Notation) (x : Binary64) : String :=
  let magnitude :=
    if x.mantissa = 0 then ['0', '.', '0'] else (Decimal.shortest x).write form
  String.ofList (if x.negative then '-' :: magnitude else magnitude)

end Binary64
end Prose

namespace Prose

/-!
# Binary floating-point numbers

A finite number of the 64-bit binary format is a whole mantissa below `2 ^ 53` times a power of two.
Numbers are rounded from exact fractions, to the nearest one and on a tie to the even mantissa, so that
no arithmetic here is approximate.
-/

/-- The number `mantissa * 2 ^ exponent`, negated if `negative`.  In a number made by `Binary64.round`
the mantissa is below `2 ^ 53`, and at least `2 ^ 52` unless the exponent is the least one. -/
structure Binary64 where
  negative : Bool
  mantissa : Nat
  exponent : Int
deriving DecidableEq, Repr

namespace Binary64

def leastExponent : Int := -1074

def greatestExponent : Int := 971

def zero (negative : Bool) : Binary64 := ⟨negative, 0, leastExponent⟩

/-- The number with its sign reversed if `negative`. -/
def withSign (negative : Bool) (x : Binary64) : Binary64 := { x with negative := negative }

/-- Scale a fraction by a power of two, as numerator and denominator. -/
def scaled (num den : Nat) (power : Int) : Nat × Nat :=
  match power with
  | .ofNat k => (num * Nat.pow 2 k, den)
  | .negSucc k => (num, den * Nat.pow 2 (k + 1))

/-- The whole number nearest to `num / den`, the even one of two. -/
def nearest (num den : Nat) : Nat :=
  let q := num / den
  let twice := 2 * (num % den)
  if twice < den then q
  else if den < twice then q + 1
  else q + q % 2

/-- The exponent at which `num / den` has a mantissa of full length, kept in the format's range
below. -/
def exponentFor (num den : Nat) : Int :=
  let k : Int := (num.log2 : Int) - (den.log2 : Int)
  let (n, d) := scaled num den (-k)
  max leastExponent (if n < d then k - 53 else k - 52)

/-- The number nearest to the fraction `num / den`, or `none` if it is too large. -/
def round (num den : Nat) : Option Binary64 :=
  if num = 0 then some (zero false)
  else
    let e := exponentFor num den
    let (n, d) := scaled num den (-e)
    let m := nearest n d
    let (m, e) := if m = Nat.pow 2 53 then (Nat.pow 2 52, e + 1) else (m, e)
    if greatestExponent < e then none else some ⟨false, m, e⟩

def fraction (x : Binary64) : Nat × Nat := scaled x.mantissa 1 x.exponent

def ofNat (n : Nat) : Option Binary64 := round n 1

/-- The rounded product of the absolute values. -/
def mul (x y : Binary64) : Option Binary64 :=
  round (x.fraction.1 * y.fraction.1) (x.fraction.2 * y.fraction.2)

/-- The rounded quotient of the absolute values, for a divisor that is not zero. -/
def div (x y : Binary64) : Option Binary64 :=
  round (x.fraction.1 * y.fraction.2) (x.fraction.2 * y.fraction.1)

/-- The number nearest to `digits * 10 ^ power`.  Powers far outside the format's range are not
computed. -/
def ofDecimal (digits : Nat) (power : Int) : Option Binary64 :=
  if digits = 0 then some (zero false)
  else
    match power with
    | .ofNat k => if k > 400 then none else round (digits * Nat.pow 10 k) 1
    | .negSucc k =>
      if k > 400 + (Nat.toDigits 10 digits).length then some (zero false)
      else round digits (Nat.pow 10 (k + 1))

end Binary64
end Prose

/-!
# Double — binary floating-point numbers, exactly

A finite double is its sign and the exact magnitude `mantissa · 2 ^ exponent`.  Every double that is made comes from
`ofRatio`, which rounds a quotient of naturals to the nearest double, a half to the even mantissa; so reading a decimal,
converting an integer and multiplying are all rounded once.
-/
namespace PasswordGate

/-- **A quotient rounded to the nearest natural**, a half to the even one. -/
def roundDiv (num den : Nat) : Nat :=
  let quotient := num / den
  let rest := num % den
  if 2 * rest < den ∨ (2 * rest = den ∧ quotient % 2 = 0) then quotient else quotient + 1

/-- A double: the magnitude of a finite one is `mantissa · 2 ^ exponent`. -/
inductive Double
  | finite (negative : Bool) (mantissa : Nat) (exponent : Int)
  | infinite (negative : Bool)
  | nan
  deriving DecidableEq, Repr, Inhabited

namespace Double

def leastExponent : Int := -1074

def greatestExponent : Int := 971

def zero (negative : Bool) : Double := finite negative 0 leastExponent

/-- The exponent at which a quotient has a mantissa of 53 bits, or the least one. -/
def exponentOf (num den : Nat) : Int :=
  let low : Int := num.log2 - den.log2 - 53
  let scaled := num * Nat.pow 2 (-low).toNat / (den * Nat.pow 2 low.toNat)
  max (if scaled < Nat.pow 2 53 then low else low + 1) leastExponent

/-- **The double nearest to a quotient**; past the largest one it is infinite. -/
def ofRatio (negative : Bool) (num den : Nat) : Double :=
  if num = 0 then zero negative
  else
    let exponent := exponentOf num den
    let mantissa := roundDiv (num * Nat.pow 2 (-exponent).toNat) (den * Nat.pow 2 exponent.toNat)
    let (mantissa, exponent) := if mantissa = Nat.pow 2 53 then (Nat.pow 2 52, exponent + 1) else (mantissa, exponent)
    if greatestExponent < exponent then infinite negative else finite negative mantissa exponent

/-- The number of decimal digits of a natural; zero has one. -/
def digitCount (n : Nat) : Nat := (Nat.toDigits 10 n).length

/-- **The double nearest to `digits · 10 ^ exponent`.** -/
def ofDecimal (negative : Bool) (digits : Nat) (exponent : Int) : Double :=
  if digits = 0 then zero negative
  else if 310 < exponent + digitCount digits then infinite negative
  else if exponent + digitCount digits < -330 then zero negative
  else ofRatio negative (digits * Nat.pow 10 exponent.toNat) (Nat.pow 10 (-exponent).toNat)

def ofInt (n : Int) : Double :=
  if 1100 < n.natAbs.log2 then infinite (n < 0) else ofRatio (n < 0) n.natAbs 1

def ratio (mantissa : Nat) (exponent : Int) : Nat × Nat :=
  (mantissa * Nat.pow 2 exponent.toNat, Nat.pow 2 (-exponent).toNat)

def wholePart (mantissa : Nat) (exponent : Int) : Nat :=
  let (num, den) := ratio mantissa exponent
  num / den

/-- **The integer toward zero** of a finite double. -/
def truncate? : Double → Option Int
  | finite negative mantissa exponent =>
    let whole := wholePart mantissa exponent
    some (if negative then -(whole : Int) else whole)
  | _ => none

def isInt (x : Double) (n : Int) : Bool :=
  match x with
  | finite negative mantissa exponent =>
    let (num, den) := ratio mantissa exponent
    (num : Int) == (if negative then -n else n) * den
  | _ => false

end Double
end PasswordGate

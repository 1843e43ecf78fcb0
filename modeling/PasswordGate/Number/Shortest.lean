import PasswordGate.Number.Double
/-!
# Shortest — the fewest decimal digits that read back as the same double

The reals that round to a double form an interval around it, its ends included when the mantissa is even.  For one digit,
two digits, … `shortest` looks at the double's two neighbours on the decimal grid of that many digits; the first grid
with a neighbour inside the interval wins, and of two neighbours the nearer one, a tie going to the even one.  Seventeen
digits always suffice.

A `FloatStyle` says how digits become text: which magnitudes are written positionally, and how an exponent is spelled.
-/
namespace PasswordGate

def decimalAtMost (digits : Nat) (exponent : Int) (num den : Nat) : Bool :=
  digits * Nat.pow 10 exponent.toNat * den ≤ num * Nat.pow 10 (-exponent).toNat

def decimalAtLeast (digits : Nat) (exponent : Int) (num den : Nat) : Bool :=
  num * Nat.pow 10 (-exponent).toNat ≤ digits * Nat.pow 10 exponent.toNat * den

/-- **The position of the leading digit** of a positive quotient: it lies from `10 ^ p` up to below `10 ^ (p + 1)`. -/
def leadingPosition (num den : Nat) : Int :=
  let guess : Int := ((num.log2 : Int) - den.log2) * 30103 / 100000
  if decimalAtMost 1 (guess + 1) num den then guess + 1
  else if decimalAtMost 1 guess num den then guess
  else guess - 1

/-- A quotient cut to the decimal grid of an exponent. -/
def gridFloor (num den : Nat) (exponent : Int) : Nat :=
  num * Nat.pow 10 (-exponent).toNat / (den * Nat.pow 10 exponent.toNat)

/-- A quotient rounded to the decimal grid of an exponent, a half to the even grid point. -/
def gridRound (num den : Nat) (exponent : Int) : Nat :=
  roundDiv (num * Nat.pow 10 (-exponent).toNat) (den * Nat.pow 10 exponent.toNat)

namespace Double

/-- **The reals that round to a double**, its ends and the double itself as numerators over one denominator. -/
structure Interval where
  low : Nat
  middle : Nat
  high : Nat
  den : Nat
  closed : Bool
  deriving Repr

/-- The interval of a magnitude; below a power of two the next double is only half as far. -/
def interval (mantissa : Nat) (exponent : Int) : Interval :=
  let unit := Nat.pow 2 exponent.toNat
  let below := if mantissa = Nat.pow 2 52 ∧ leastExponent < exponent then 1 else 2
  { low := (4 * mantissa - below) * unit, middle := 4 * mantissa * unit, high := (4 * mantissa + 2) * unit
    den := 4 * Nat.pow 2 (-exponent).toNat, closed := mantissa % 2 == 0 }

def Interval.holds (i : Interval) (digits : Nat) (exponent : Int) : Bool :=
  if i.closed then decimalAtLeast digits exponent i.low i.den && decimalAtMost digits exponent i.high i.den
  else !decimalAtMost digits exponent i.low i.den && !decimalAtLeast digits exponent i.high i.den

/-- The grid point next to the double that rounds to it, if one does. -/
def Interval.pick? (i : Interval) (exponent : Int) : Option Nat :=
  let below := gridFloor i.middle i.den exponent
  match i.holds below exponent, i.holds (below + 1) exponent with
  | true, true => some (gridRound i.middle i.den exponent)
  | true, false => some below
  | false, true => some (below + 1)
  | false, false => none

def stripZeros (fuel digits : Nat) (exponent : Int) : Nat × Int :=
  match fuel with
  | 0 => (digits, exponent)
  | fuel + 1 => if digits ≠ 0 ∧ digits % 10 = 0 then stripZeros fuel (digits / 10) (exponent + 1) else (digits, exponent)

/-- **The fewest digits, and their exponent**, of a positive magnitude. -/
def shortest (mantissa : Nat) (exponent : Int) : Nat × Int :=
  let i := interval mantissa exponent
  let lead := leadingPosition i.middle i.den
  let found := (List.range 17).findSome? fun (more : Nat) =>
    (i.pick? (lead - more)).map fun digits => stripZeros 18 digits (lead - more)
  found.getD (gridRound i.middle i.den (lead - 16), lead - 16)

end Double

/-- **How the digits of a double become text.** -/
structure FloatStyle where
  leastPositional : Int
  firstExponential : Int
  exponentPlus : Bool
  exponentDigits : Nat
  infinite : String
  negativeInfinite : String
  nan : String
  deriving Repr

namespace FloatStyle

def padLeft (width : Nat) (digits : String) : String :=
  String.ofList (List.replicate (width - digits.length) '0') ++ digits

def positional (digits : String) (exponent : Int) : String :=
  if 0 ≤ exponent then digits ++ String.ofList (List.replicate exponent.toNat '0') ++ ".0"
  else
    let padded := padLeft ((-exponent).toNat + 1) digits
    let whole := padded.length - (-exponent).toNat
    String.ofList (padded.toList.take whole) ++ "." ++ String.ofList (padded.toList.drop whole)

/-- One digit, a point and the others, if there are others, and the exponent of the first. -/
def exponential (s : FloatStyle) (digits : String) (lead : Int) : String :=
  let others := digits.toList.drop 1
  let sign := if lead < 0 then "-" else if s.exponentPlus then "+" else ""
  String.ofList (digits.toList.take 1) ++ (if others.isEmpty then "" else "." ++ String.ofList others) ++
    "e" ++ sign ++ padLeft s.exponentDigits (toString lead.natAbs)

/-- **The text of a double**, with the fewest digits that read back. -/
def text (s : FloatStyle) : Double → String
  | .nan => s.nan
  | .infinite negative => if negative then s.negativeInfinite else s.infinite
  | .finite negative mantissa exponent =>
    let sign := if negative then "-" else ""
    if mantissa = 0 then sign ++ "0.0"
    else
      let (digits, exponent) := Double.shortest mantissa exponent
      let text := toString digits
      let lead := exponent + text.length - 1
      sign ++ (if s.leastPositional ≤ lead ∧ lead < s.firstExponential then positional text exponent
        else s.exponential text lead)

end FloatStyle
end PasswordGate

import PasswordGate.Number.Double
/-!
# Reading — decimal text as a double

A sign, digits with at most one point, and an exponent; at least one digit stands before the exponent.  `inf`,
`infinity` and `nan` are read in any case of their letters.
-/
namespace PasswordGate

def naturalOfDigits (digits : List Char) : Nat := digits.foldl (fun n c => 10 * n + (c.toNat - 48)) 0

namespace Double

def splitSign : List Char → Bool × List Char
  | '-' :: rest => (true, rest)
  | '+' :: rest => (false, rest)
  | text => (false, text)

def readExponent? : List Char → Option Int
  | [] => some 0
  | c :: rest =>
    if c = 'e' ∨ c = 'E' then
      let (negative, digits) := splitSign rest
      if digits ≠ [] ∧ digits.all Char.isDigit then
        some (if negative then -(naturalOfDigits digits : Int) else naturalOfDigits digits)
      else none
    else none

def read? (text : List Char) : Option Double :=
  let (negative, body) := splitSign text
  let lower := body.map Char.toLower
  if lower = ['i', 'n', 'f'] ∨ lower = ['i', 'n', 'f', 'i', 'n', 'i', 't', 'y'] then some (infinite negative)
  else if lower = ['n', 'a', 'n'] then some nan
  else
    let whole := body.takeWhile Char.isDigit
    let rest := body.dropWhile Char.isDigit
    let (fraction, rest) := match rest with
      | '.' :: more => (more.takeWhile Char.isDigit, more.dropWhile Char.isDigit)
      | rest => ([], rest)
    if whole = [] ∧ fraction = [] then none
    else
      (readExponent? rest).map fun exponent =>
        ofDecimal negative (naturalOfDigits (whole ++ fraction)) (exponent - fraction.length)

end Double
end PasswordGate

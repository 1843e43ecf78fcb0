import PasswordGate.Number.Shortest
/-!
# Fixed — a magnitude with a given number of digits

Three layouts of a non-negative quotient: so many places after the point (`places`), one digit before the point and an
exponent (`scientific`), and `general`, which keeps so many significant digits and takes whichever of the two layouts
suits the magnitude.  Digits are rounded once, a half to the even digit.  The `alternate` form keeps the point, and in
`general` the trailing zeros.
-/
namespace PasswordGate
namespace Fixed

def insertPoint (digits : String) (count : Nat) (alternate : Bool) : String :=
  let padded := FloatStyle.padLeft (count + 1) digits
  let whole := padded.length - count
  String.ofList (padded.toList.take whole) ++ (if count = 0 ∧ !alternate then "" else ".") ++
    String.ofList (padded.toList.drop whole)

/-- **So many places after the point.** -/
def places (num den count : Nat) (alternate : Bool) : String :=
  insertPoint (toString (roundDiv (num * Nat.pow 10 count) den)) count alternate

/-- So many significant digits of a quotient, and the position of the first. -/
def significant (num den count : Nat) : Nat × Int :=
  if num = 0 then (0, 0)
  else
    let lead := leadingPosition num den
    let digits := gridRound num den (lead - count + 1)
    if digits = Nat.pow 10 count then (digits / 10, lead + 1) else (digits, lead)

/-- The exponent's text: a sign and at least two digits. -/
def exponentText (lead : Int) : String :=
  "e" ++ (if lead < 0 then "-" else "+") ++ FloatStyle.padLeft 2 (toString lead.natAbs)

/-- **One digit before the point, so many after it, and an exponent.** -/
def scientific (num den count : Nat) (alternate : Bool) : String :=
  let (digits, lead) := significant num den (count + 1)
  insertPoint (FloatStyle.padLeft (count + 1) (toString digits)) count alternate ++ exponentText lead

/-- Zeros at the end of a fraction go, and a point with nothing behind it. -/
def trim (text : String) : String :=
  if text.toList.contains '.' then
    let kept := text.toList.reverse.dropWhile (· == '0')
    String.ofList (match kept with
      | '.' :: rest => rest.reverse
      | kept => kept.reverse)
  else text

/-- **So many significant digits**, positional from `10 ^ -4` up to as many digits as are kept. -/
def general (num den count : Nat) (alternate : Bool) : String :=
  let count := if count = 0 then 1 else count
  let (digits, lead) := significant num den count
  let finish (text : String) : String := if alternate then text else trim text
  if -4 ≤ lead ∧ lead < count then finish (places num den (count - 1 - lead).toNat alternate)
  else finish (insertPoint (FloatStyle.padLeft count (toString digits)) (count - 1) alternate) ++ exponentText lead

end Fixed
end PasswordGate

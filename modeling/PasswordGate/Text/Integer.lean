import PasswordGate.Number.Reading
import PasswordGate.Text.Blank
import PasswordGate.Text.Digit
/-!
# Integer — whole numbers as people write them

White space around the number, a sign, and decimal digits of any script with single underscores between them.  Text
with more digits than `maxDigits` is not read.
-/
namespace PasswordGate
namespace Integer

/-- The most digits that are read, zeros in front included. -/
def maxDigits : Nat := 4300

/-- A character in ASCII: a digit of another script as its ASCII digit, white space outside ASCII as a space. -/
def simplify (c : Char) : Char :=
  if c.toNat < 127 then c
  else if isBlank c then ' '
  else
    match decimalValue? c with
    | some value => Char.ofNat (48 + value)
    | none => '?'

/-- Digits with single underscores between them, without the underscores. -/
def ungroup : List Char → Option (List Char)
  | [c] => if c.isDigit then some [c] else none
  | c :: '_' :: rest => if c.isDigit then (ungroup rest).map (c :: ·) else none
  | c :: rest => if c.isDigit then (ungroup rest).map (c :: ·) else none
  | [] => none

def trim (text : List Char) : List Char :=
  ((text.dropWhile isAsciiBlank).reverse.dropWhile isAsciiBlank).reverse

def readAscii? (text : List Char) : Option Int :=
  let (negative, body) := Double.splitSign (trim text)
  match ungroup body with
  | none => none
  | some digits =>
    if maxDigits < digits.length then none
    else some (if negative then -(naturalOfDigits digits : Int) else naturalOfDigits digits)

def read? (text : String) : Option Int := readAscii? (text.toList.map simplify)

def readBytes? (data : List UInt8) : Option Int := readAscii? (data.map fun b => Char.ofNat b.toNat)

end Integer
end PasswordGate

import PasswordGate.Bytes.Hex
import PasswordGate.Text.Blank
/-!
# Hex text — a message as it is pasted on the command line

White space may stand anywhere, also inside the marker `0x` and between the two digits of an octet; after it is gone,
one marker in front is cut off and the rest has to be an even number of hexadecimal digits.
-/
namespace PasswordGate

/-- Why a text is no message. -/
inductive HexError
  | oddLength
  | notHex (raw : String) (position : Nat)
  deriving DecidableEq, Repr

namespace HexError

def message : HexError → String
  | oddLength => "message hex must contain an even number of digits"
  | notHex raw position =>
    "Invalid message hex '" ++ raw ++
      s!"': non-hexadecimal number found in fromhex() arg at position {position}"

end HexError

namespace HexText

def compact (text : List Char) : List Char := text.filter (!isBlank ·)

def unmarked : List Char → List Char
  | '0' :: 'x' :: rest => rest
  | '0' :: 'X' :: rest => rest
  | text => text

/-- Where the text fails: at its first character outside ASCII, or else at the first that is no digit. -/
def failure? (digits : List Char) : Option Nat :=
  match digits.findIdx? fun c => 128 ≤ c.toNat with
  | some position => some position
  | none => digits.findIdx? fun c => (Hex.nibble? c).isNone

/-- **The octets that a text spells.** -/
def parse (text : String) : Except HexError Bytes :=
  let digits := unmarked (compact text.toList)
  if digits.length % 2 = 1 then .error .oddLength
  else
    match Hex.decode digits with
    | some data => .ok data
    | none => .error (.notHex text ((failure? digits).getD 0))

end HexText
end PasswordGate

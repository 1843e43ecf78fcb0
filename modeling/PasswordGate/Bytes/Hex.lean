import PasswordGate.Bytes
/-!
# Hex — octets as pairs of hexadecimal digits

`encode` writes two lower-case digits an octet, the high nibble first; `decode` reads digits of either case and refuses
anything else.
-/
namespace PasswordGate
namespace Hex

def digit (nibble : Nat) : Char :=
  Char.ofNat (if nibble < 10 then 48 + nibble else 87 + nibble)

def nibble? (c : Char) : Option Nat :=
  if 48 ≤ c.toNat ∧ c.toNat ≤ 57 then some (c.toNat - 48)
  else if 97 ≤ c.toNat ∧ c.toNat ≤ 102 then some (c.toNat - 87)
  else if 65 ≤ c.toNat ∧ c.toNat ≤ 70 then some (c.toNat - 55)
  else none

def octet (byte : UInt8) : List Char :=
  [digit (byte.toNat / 16), digit (byte.toNat % 16)]

def encode (data : Bytes) : List Char := data.flatMap octet

/-- The octets that an even number of digits spell. -/
def decode : List Char → Option Bytes
  | [] => some []
  | [_] => none
  | high :: low :: rest =>
    match nibble? high, nibble? low, decode rest with
    | some h, some l, some data => some (UInt8.ofNat (16 * h + l) :: data)
    | _, _, _ => none

def text (data : Bytes) : String := String.ofList (encode data)

end Hex
end PasswordGate

import PasswordGate.Bytes
import PasswordGate.Codec.Error
/-!
# Word — unsigned 32-bit numbers, least significant byte first

Every number on the wire is such a word.  Writing refuses a number that does not fit, reading refuses fewer than four
bytes and ignores what follows the fourth.
-/
namespace PasswordGate
namespace Word

def size : Nat := 4

def largest : Nat := 4294967295

/-- The four bytes of a number, its excess over 32 bits dropped. -/
def bytes (number : Nat) : Bytes :=
  [UInt8.ofNat number, UInt8.ofNat (number / 256), UInt8.ofNat (number / 65536), UInt8.ofNat (number / 16777216)]

/-- **A number as a word**, if it fits. -/
def encode (number : Nat) : Except CodecError Bytes :=
  if number ≤ largest then .ok (bytes number) else .error (.wordOutOfRange number)

/-- **The number that the first four bytes spell.** -/
def decode : Bytes → Except CodecError Nat
  | b₀ :: b₁ :: b₂ :: b₃ :: _ =>
    .ok (b₀.toNat + 256 * b₁.toNat + 65536 * b₂.toNat + 16777216 * b₃.toNat)
  | _ => .error .shortWord

theorem length_bytes (number : Nat) : (bytes number).length = size := rfl

end Word
end PasswordGate

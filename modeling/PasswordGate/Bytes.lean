/-!
# Bytes — octet strings, their slices, and writing over a slice

A position may be negative, and then counts from the end; every position is first brought inside the data (`clamp`).
A slice whose stop lies before its start is empty and sits at the start.  `splice` replaces a slice by other bytes, so
the data grows or shrinks by the difference of the two lengths.
-/
namespace PasswordGate

/-- A string of octets. -/
abbrev Bytes := List UInt8

namespace Bytes

/-- **A position brought inside the data**: a negative one counts from the end. -/
def clamp (size : Nat) (position : Int) : Nat :=
  if position < 0 then (size + position).toNat else min position.toNat size

def slice (data : Bytes) (start stop : Int) : Bytes :=
  (data.drop (clamp data.length start)).take (clamp data.length stop - clamp data.length start)

/-- **The slice between two positions gives way to other bytes.** -/
def splice (data : Bytes) (start stop : Int) (insertion : Bytes) : Bytes :=
  let first := clamp data.length start
  data.take first ++ insertion ++ data.drop (max first (clamp data.length stop))

def zeros (count : Nat) : Bytes := List.replicate count 0

def ofString (text : String) : Bytes := text.toUTF8.toList

/-- The text that the bytes encode, unless they are not UTF-8. -/
def toString? (data : Bytes) : Option String := String.fromUTF8? (ByteArray.mk data.toArray)

theorem length_zeros (count : Nat) : (zeros count).length = count := List.length_replicate

theorem clamp_natCast (size position : Nat) : clamp size position = min position size := by
  unfold clamp
  rw [if_neg (by omega), Int.toNat_natCast]

end Bytes
end PasswordGate

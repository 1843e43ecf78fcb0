/-!
# Codec errors — what the codec refuses, and in which words

One type for the arguments that are refused (`unknownStatus` … `tooManyFields`), for fields that are structurally
malformed (`truncatedField` … `fieldOverLimit`), and for words that are cut short or do not fit.
-/
namespace PasswordGate

inductive CodecError
  | unknownStatus (number : Int)
  | userIdOutOfRange (userId : Int)
  | lengthOutOfRange (length : Int)
  | endOutside (stop : Int) (size : Nat)
  | tooManyFields
  | truncatedField (left : Nat)
  | fieldOverrun (declared : Nat) (remaining : Int)
  | fieldOverLimit (declared : Nat) (limit : Int)
  | shortWord
  | wordOutOfRange (number : Nat)
  deriving DecidableEq, Repr

namespace CodecError

/-- **A malformed field**: the errors that decoding a message turns into its status. -/
def isMalformed : CodecError → Bool
  | truncatedField _ | fieldOverrun _ _ | fieldOverLimit _ _ => true
  | _ => false

def message : CodecError → String
  | unknownStatus number => s!"{number} is not a valid Status"
  | userIdOutOfRange userId => s!"User id {userId} outside 32-bit range"
  | lengthOutOfRange length => s!"Buffer length {length} outside 32-bit range"
  | endOutside stop size => s!"end {stop} outside payload of {size} bytes"
  | tooManyFields => "more buffers than the message has fields to fill"
  | truncatedField left => s!"Truncated field: {left} bytes left, length prefix needs 4"
  | fieldOverrun declared remaining => s!"Field declares {declared} bytes but only {remaining} remain"
  | fieldOverLimit declared limit => s!"Field length {declared} exceeds limit {limit}"
  | shortWord => "fewer than 4 bytes for a word"
  | wordOutOfRange number => s!"{number} does not fit a word"

end CodecError
end PasswordGate

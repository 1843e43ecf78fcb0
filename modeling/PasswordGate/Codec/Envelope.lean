import PasswordGate.Codec.Field
import PasswordGate.Codec.Kind
import PasswordGate.Codec.Status
/-!
# Envelope — what a message says, and its wire form

A message that is in order is written as its status, its user id and its fields in wire order; any other as its status
alone.  Decoding looks at a window of the data.  It refuses the message before the fields (`Decoded.refused`: a window
too short, or a status that is not in order), and then nothing but the status changes; or it comes to the payload, and
then the user id is the one on the wire, and the fields up to the first malformed one hold what was read.
-/
namespace PasswordGate

/-- **What a message says**: the contents of its fields stand in wire order. -/
structure Envelope where
  kind : Kind
  status : Status := .ok
  userId : Nat := 0
  fields : List Bytes
  deriving DecidableEq

/-- What a window of data holds for a message with a given number of fields. -/
inductive Decoded
  | refused
  | payload (userId : Nat) (contents : List Bytes) (complete : Bool)
  deriving DecidableEq, Repr

/-- A buffer in words: its length, and nothing of what it holds. -/
def bufferSummary (length : Nat) : String := s!"SizedBuffer(length={length})"

namespace Envelope

/-- The bytes that the status and the user id take. -/
def headerSize : Nat := Word.size + Word.size

def blank (kind : Kind) : Envelope := { kind := kind, fields := kind.fields.map fun _ => [] }

def encodedSize (e : Envelope) : Nat :=
  match e.status with
  | .ok => headerSize + Field.totalSize e.fields
  | .invalid => Word.size

/-- **The wire form**, written into storage prepared at its size. -/
def encode (e : Envelope) : Except CodecError Bytes :=
  match e.status with
  | .invalid => Word.encode e.status.number
  | .ok => do
    let status ← Word.encode e.status.number
    let userId ← Word.encode e.userId
    let out := (Bytes.zeros e.encodedSize).splice 0 headerSize (status ++ userId)
    let (out, _) ← Field.writeAll out headerSize e.fields
    return out

/-- **What the window that ends at `stop` holds**, for a message with `count` fields. -/
def decode (count : Nat) (data : Bytes) (stop limit : Int) : Except CodecError Decoded := do
  if stop < Word.size then return .refused
  let status ← Word.decode (data.slice 0 Word.size)
  if Status.ofWire status ≠ .ok then return .refused
  if stop - Word.size < Word.size then return .refused
  let userId ← Word.decode (data.slice Word.size headerSize)
  let (contents, complete) ← Field.readAll data stop limit count headerSize
  return .payload userId contents complete

/-- The window of a payload: its whole length, or an end that has to lie inside it. -/
def window (data : Bytes) : Option Int → Except CodecError Int
  | none => .ok data.length
  | some stop => if 0 ≤ stop ∧ stop ≤ data.length then .ok stop else .error (.endOutside stop data.length)

/-- **A message after a decoding**: the fields that were not read are empty. -/
def accept (e : Envelope) : Decoded → Envelope
  | .refused => { e with status := .invalid }
  | .payload userId contents complete =>
    { e with
      status := if complete then .ok else .invalid
      userId := userId
      fields := contents ++ List.replicate (e.fields.length - contents.length) [] }

/-- **Decoding replaces what the message says**; a bad window is refused before anything changes. -/
def deserialize (e : Envelope) (data : Bytes) (stop : Option Int) (limit : Int) : Except CodecError Envelope := do
  let stop ← window data stop
  return e.accept (← decode e.fields.length data stop limit)

def field? (e : Envelope) (name : String) : Option Bytes := do e.fields[← e.kind.position? name]?

/-- A message in words: its kind, status and user id, and the length of each field. -/
def summary (e : Envelope) : String :=
  let field (name : String) (content : Bytes) : String := s!", {name}=" ++ bufferSummary content.length
  e.kind.title ++ s!"(status={e.status.label}, user_id={e.userId}" ++
    String.join (List.zipWith field e.kind.fields e.fields) ++ ")"

end Envelope
end PasswordGate

import PasswordGate.Bytes.Sha256
import PasswordGate.Codec.Envelope
import PasswordGate.Json.Text
/-!
# Snapshot — a message summarised without its secrets

A snapshot shows the envelope of a message and the length of each field.  Two messages can be compared by the
fingerprints of their fields, the first digits of a digest; a password has none, since a short secret could be found
from its digest.  A message that is not in order shows its status alone.
-/
namespace PasswordGate

/-- A field by its length, and by a fingerprint unless it is a password. -/
structure FieldSnapshot where
  name : String
  length : Nat
  fingerprint : Option String
  deriving DecidableEq, Repr

/-- **A message summarised**: the user id is there only if the message is in order. -/
structure Snapshot where
  kind : String
  rawLength : Nat
  status : Status
  userId : Option Nat := none
  fields : List FieldSnapshot := []
  deriving DecidableEq, Repr

inductive SnapshotError
  | unknownKind (name : String)
  | codec (cause : CodecError)
  deriving DecidableEq, Repr

namespace SnapshotError

def message : SnapshotError → String
  | unknownKind name =>
    "Unknown message kind '" ++ name ++ "'. Choose from: " ++ ", ".intercalate (Kind.table.map (·.1))
  | codec cause => cause.message

end SnapshotError

namespace FieldSnapshot

def fingerprintDigits : Nat := 16

def lengthOnly : List String := ["provided_password"]

def fingerprintOf (content : Bytes) : String :=
  String.ofList ((Hex.encode (Sha256.digest content)).take fingerprintDigits)

def of (name : String) (content : Bytes) : FieldSnapshot :=
  { name := name, length := content.length
    fingerprint := if lengthOnly.contains name then none else some (fingerprintOf content) }

def line (f : FieldSnapshot) : String :=
  f.name ++ s!": len={f.length}" ++
    match f.fingerprint with
    | none => ""
    | some digits => " sha256=" ++ digits

def toJson (f : FieldSnapshot) : Json :=
  .object [("name", .text f.name), ("length", .int f.length),
    ("fingerprint", match f.fingerprint with
      | none => .null
      | some digits => .text digits)]

end FieldSnapshot

namespace Snapshot

def ofEnvelope (name : String) (rawLength : Nat) (e : Envelope) : Snapshot :=
  match e.status with
  | .invalid => { kind := name, rawLength := rawLength, status := .invalid }
  | .ok =>
    { kind := name, rawLength := rawLength, status := .ok, userId := some e.userId
      fields := List.zipWith FieldSnapshot.of e.kind.fields e.fields }

def build (name : String) (raw : Bytes) : Except SnapshotError Snapshot :=
  match Kind.table.lookup name with
  | none => .error (.unknownKind name)
  | some kind =>
    match (Envelope.blank kind).deserialize raw none Field.maxLength with
    | .error e => .error (.codec e)
    | .ok e => .ok (ofEnvelope name raw.length e)

def lines (s : Snapshot) : List String :=
  ["[MessageDebug] --- Snapshot ---", "kind=" ++ s.kind, s!"raw_len={s.rawLength}", "status=" ++ s.status.label] ++
    (match s.userId with
      | none => []
      | some userId => [s!"user_id={userId}"]) ++
    s.fields.map FieldSnapshot.line

def render (s : Snapshot) : String := "\n".intercalate s.lines

def toJson (s : Snapshot) : Json :=
  .object [("kind", .text s.kind), ("raw_length", .int s.rawLength), ("status", .text s.status.label),
    ("user_id", match s.userId with
      | none => .null
      | some userId => .int userId),
    ("fields", .array (s.fields.map FieldSnapshot.toJson))]

def json (s : Snapshot) : String := s.toJson.render

end Snapshot
end PasswordGate

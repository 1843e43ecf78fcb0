import PasswordGate.Store.Basic
/-!
# Messages in the store — slots that own their buffers

A message owns the buffer in each of its slots.  Assigning a buffer to a slot moves its contents in: the giver is left
empty, and what the slot held before is released.  Every slot always holds a buffer, empty at first.

`envelope` shows what a message says; the wire form and the decoder are the envelope's, and `deserialize` carries a
decoding over to the store: first all slots are released, then each decoded field moves in.
-/
namespace PasswordGate
namespace Store

/-- The message under a number; one that was never made is a bare envelope. -/
def message (s : Store) (m : MessageId) : Message := s.messages.getD m { kind := .base, slots := [] }

def setMessage (s : Store) (m : MessageId) (value : Message) : Store := { s with messages := s.messages.set m value }

def slot? (s : Store) (m : MessageId) (position : Nat) : Option BufferId := (s.message m).slots[position]?

def field? (s : Store) (m : MessageId) (name : String) : Option BufferId := do
  s.slot? m (← (s.message m).kind.position? name)

/-- **What a message says.** -/
def envelope (s : Store) (m : MessageId) : Envelope :=
  let held := s.message m
  { kind := held.kind, status := held.status, userId := held.userId, fields := held.slots.map s.contents }

def newBuffers (s : Store) : Nat → List BufferId × Store
  | 0 => ([], s)
  | count + 1 =>
    let (b, s) := s.newBuffer
    let (rest, s) := s.newBuffers count
    (b :: rest, s)

def newMessage (s : Store) (kind : Kind) : MessageId × Store :=
  let (slots, s) := s.newBuffers kind.fields.length
  (s.messages.length, { s with messages := s.messages ++ [{ kind := kind, slots := slots }] })

def setStatus (s : Store) (m : MessageId) (status : Status) : Store :=
  s.setMessage m { s.message m with status := status }

/-- **A user id is refused outside 32 bits.** -/
def checkUserId (userId : Int) : Except CodecError Nat :=
  if 0 ≤ userId ∧ userId ≤ Word.largest then .ok userId.toNat else .error (.userIdOutOfRange userId)

def setUserId (s : Store) (m : MessageId) (userId : Int) : Except CodecError Store := do
  let userId ← checkUserId userId
  return s.setMessage m { s.message m with userId := userId }

def setSlot (s : Store) (m : MessageId) (position : Nat) (b : BufferId) : Store :=
  s.setMessage m { s.message m with slots := (s.message m).slots.set position b }

/-- The contents that are on their way into a slot, in a buffer of their own. -/
def incoming (s : Store) : Option BufferId → BufferId × Store
  | none => s.newBuffer
  | some b => s.take b

/-- **A slot is assigned a buffer, or emptied**: the contents move in and what the slot held is released; its own buffer
changes nothing. -/
def assign (s : Store) (m : MessageId) (position : Nat) (value : Option BufferId) : Store :=
  match s.slot? m position with
  | none => s
  | some current =>
    if value = some current then s
    else
      let (b, s) := s.incoming value
      (s.release current).setSlot m position b

/-- Slots are assigned in order, from one position on. -/
def assignAll (s : Store) (m : MessageId) (position : Nat) : List (Option BufferId) → Store
  | [] => s
  | value :: rest => (s.assign m position value).assignAll m (position + 1) rest

/-- **A message of a kind from a caller's buffers**: the arguments are checked first, then the buffers move in. -/
def construct (s : Store) (kind : Kind) (status userId : Int) (values : List (Option BufferId)) :
    Except CodecError (MessageId × Store) := do
  let status ← Status.ofNumber status
  if kind.filled < values.length then throw .tooManyFields
  let userId ← checkUserId userId
  let (m, s) := s.newMessage kind
  let s := s.setMessage m { s.message m with status := status, userId := userId }
  return (m, s.assignAll m 0 values)

def releaseAll (s : Store) (buffers : List BufferId) : Store := buffers.foldl release s

/-- **Every slot of a message is released.** -/
def releaseMessage (s : Store) (m : MessageId) : Store := s.releaseAll (s.message m).slots

/-- Decoded contents move into the slots from one position on. -/
def install (s : Store) (m : MessageId) (position : Nat) : List Bytes → Except CodecError Store
  | [] => .ok s
  | content :: rest => do
    let (b, s) ← s.copyOf content
    (s.assign m position (some b)).install m (position + 1) rest

def accept (s : Store) (m : MessageId) : Decoded → Except CodecError Store
  | .refused => .ok (s.setStatus m .invalid)
  | .payload userId contents complete => do
    let s := s.setMessage m { s.message m with userId := userId }
    let s ← (s.releaseMessage m).install m 0 contents
    return s.setStatus m (if complete then .ok else .invalid)

/-- **Data are decoded into a message**, whose status tells how that went; a bad window is refused. -/
def deserialize (s : Store) (m : MessageId) (data : Bytes) (stop : Option Int) (limit : Int) :
    Except CodecError Store := do
  let stop ← Envelope.window data stop
  s.accept m (← Envelope.decode (s.message m).slots.length data stop limit)

/-- **The wire form of a message.** -/
def serialize (s : Store) (m : MessageId) : Except CodecError Bytes := (s.envelope m).encode

end Store
end PasswordGate

import PasswordGate.Bytes.Erase
import PasswordGate.Codec.Envelope
/-!
# Store — blocks of storage, and the buffers that own them

A block is never freed: it stays readable under its number, so a view of it shows what became of it.  A buffer that
holds anything owns one block and has a finaliser registered on it, which zeroes the block when the buffer is released or
its last reference goes; an empty buffer owns nothing and has no finaliser.  Contents are moved (`take`, `moveFrom`):
the block changes hands, the giver's finaliser is called off and the receiver registers its own.  Only `copyOf` copies.

A number that was never given out reads as an empty buffer and an empty block.
-/
namespace PasswordGate

abbrev BlockId := Nat
abbrev BufferId := Nat
abbrev MessageId := Nat

/-- **A buffer**: the block it owns, and the block that its pending finaliser is to zero. -/
structure Buffer where
  block : Option BlockId := none
  finaliser : Option BlockId := none
  deriving DecidableEq, Repr, Inhabited

/-- A message: its envelope, and the buffer in each of its field slots, in wire order. -/
structure Message where
  kind : Kind
  status : Status := .ok
  userId : Nat := 0
  slots : List BufferId
  deriving DecidableEq

/-- **All blocks, buffers and messages**, each numbered in the order of creation. -/
structure Store where
  blocks : List Bytes := []
  buffers : List Buffer := []
  messages : List Message := []
  deriving DecidableEq

namespace Store

def block (s : Store) (i : BlockId) : Bytes := s.blocks.getD i []

def buffer (s : Store) (b : BufferId) : Buffer := s.buffers.getD b {}

def contents (s : Store) (b : BufferId) : Bytes :=
  match (s.buffer b).block with
  | none => []
  | some i => s.block i

def length (s : Store) (b : BufferId) : Nat := (s.contents b).length

def setBuffer (s : Store) (b : BufferId) (value : Buffer) : Store := { s with buffers := s.buffers.set b value }

def newBuffer (s : Store) : BufferId × Store := (s.buffers.length, { s with buffers := s.buffers ++ [{}] })

def newBlock (s : Store) (data : Bytes) : BlockId × Store := (s.blocks.length, { s with blocks := s.blocks ++ [data] })

/-- **A block overwritten with zeros.** -/
def wipe (s : Store) (i : BlockId) : Store :=
  match (s.block i).erase .storage with
  | .ok zeroed => { s with blocks := s.blocks.set i zeroed }
  | .error _ => s

/-- A pending finaliser runs. -/
def runFinaliser (s : Store) : Option BlockId → Store
  | none => s
  | some i => s.wipe i

/-- A buffer becomes the owner of a block, and registers its finaliser on it. -/
def adopt (s : Store) (b : BufferId) (i : BlockId) : Store := s.setBuffer b { block := some i, finaliser := some i }

/-- A buffer gives up its block, if it has one, and calls its finaliser off. -/
def disown (s : Store) (b : BufferId) : Option BlockId × Store := ((s.buffer b).block, s.setBuffer b {})

/-- A buffer becomes the owner of the block another one gave up. -/
def receive (s : Store) (b : BufferId) : Option BlockId → Store
  | none => s
  | some i => s.adopt b i

/-- **A buffer of so many zero bytes**; with none it owns no block. -/
def allocate (s : Store) (length : Int) : Except CodecError (BufferId × Store) :=
  if 0 ≤ length ∧ length ≤ Word.largest then
    let (b, s) := s.newBuffer
    if length = 0 then .ok (b, s)
    else
      let (i, s) := s.newBlock (Bytes.zeros length.toNat)
      .ok (b, s.adopt b i)
  else .error (.lengthOutOfRange length)

/-- A buffer's block is filled with bytes of the block's own length. -/
def fill (s : Store) (b : BufferId) (data : Bytes) : Store :=
  match (s.buffer b).block with
  | none => s
  | some i => { s with blocks := s.blocks.set i data }

/-- **A new buffer with a copy of the data.** -/
def copyOf (s : Store) (data : Bytes) : Except CodecError (BufferId × Store) := do
  let (b, s) ← s.allocate data.length
  return (b, s.fill b data)

/-- **The contents move into a new buffer**, and the old one is left empty. -/
def take (s : Store) (b : BufferId) : BufferId × Store :=
  let (moved, s) := s.newBuffer
  let (owned, s) := s.disown b
  (moved, s.receive moved owned)

/-- **The storage is zeroed and dropped**; of an empty buffer there is nothing to drop. -/
def release (s : Store) (b : BufferId) : Store :=
  (s.setBuffer b {}).runFinaliser (s.buffer b).finaliser

/-- **A buffer takes over what another one holds**, after releasing what it held itself; from itself, it keeps it. -/
def moveFrom (s : Store) (b other : BufferId) : Store :=
  if other = b then s
  else
    let s := s.release b
    let (owned, s) := s.disown other
    s.receive b owned

end Store
end PasswordGate

import PasswordGate.Store.Message
/-!
# Lookup — what a number stands for after each change of a store

Every change of a store is read through three lookups: the bytes of a block, the buffer under a number, and the message
under a number.  Numbers that were never given out have an answer of their own (an empty block, an empty buffer, a bare
message), so most equations hold of every number.
-/
namespace PasswordGate

/-- **A buffer that owns a block**, with its finaliser on it; with none, an empty buffer. -/
def Buffer.owning (owned : Option BlockId) : Buffer := { block := owned, finaliser := owned }

theorem getD_set {α : Type} (l : List α) (i j : Nat) (a d : α) :
    (l.set i a).getD j d = if j = i ∧ i < l.length then a else l.getD j d := by
  simp only [List.getD_eq_getElem?_getD, List.getElem?_set]
  by_cases h : i = j
  · subst h
    by_cases hl : i < l.length <;> simp [hl]
  · rw [if_neg h, if_neg (fun hj => h hj.1.symm)]

theorem getD_append_singleton {α : Type} (l : List α) (i : Nat) (a d : α) :
    (l ++ [a]).getD i d = if i = l.length then a else l.getD i d := by
  simp only [List.getD_eq_getElem?_getD]
  rcases Nat.lt_trichotomy i l.length with h | h | h
  · rw [List.getElem?_append_left h, if_neg (by omega)]
  · subst h
    simp
  · rw [List.getElem?_eq_none (by simp; omega), List.getElem?_eq_none (by omega), if_neg (by omega)]

namespace Store

variable (s : Store)

theorem buffer_of_length_le {b : BufferId} (h : s.buffers.length ≤ b) : s.buffer b = {} := by
  rw [buffer, List.getD_eq_getElem?_getD, List.getElem?_eq_none h]
  rfl

theorem block_of_length_le {i : BlockId} (h : s.blocks.length ≤ i) : s.block i = [] := by
  rw [block, List.getD_eq_getElem?_getD, List.getElem?_eq_none h]
  rfl

theorem message_of_length_le {m : MessageId} (h : s.messages.length ≤ m) :
    s.message m = { kind := .base, slots := [] } := by
  rw [message, List.getD_eq_getElem?_getD, List.getElem?_eq_none h]
  rfl

theorem lt_of_slot {m : MessageId} {position : Nat} {b : BufferId} (h : s.slot? m position = some b) :
    m < s.messages.length := by
  by_cases hm : m < s.messages.length
  · exact hm
  · rw [slot?, s.message_of_length_le (Nat.le_of_not_lt hm)] at h
    cases h

/-! ## Buffers and blocks -/

@[simp] theorem block_setBuffer (b : BufferId) (value : Buffer) (i : BlockId) :
    (s.setBuffer b value).block i = s.block i := rfl

@[simp] theorem message_setBuffer (b : BufferId) (value : Buffer) (m : MessageId) :
    (s.setBuffer b value).message m = s.message m := rfl

@[simp] theorem blocks_setBuffer (b : BufferId) (value : Buffer) : (s.setBuffer b value).blocks = s.blocks := rfl

@[simp] theorem messages_setBuffer (b : BufferId) (value : Buffer) : (s.setBuffer b value).messages = s.messages := rfl

@[simp] theorem length_buffers_setBuffer (b : BufferId) (value : Buffer) :
    (s.setBuffer b value).buffers.length = s.buffers.length := List.length_set

theorem buffer_setBuffer (b : BufferId) (value : Buffer) (x : BufferId) :
    (s.setBuffer b value).buffer x = if x = b ∧ b < s.buffers.length then value else s.buffer x := getD_set _ _ _ _ _

/-- Emptying a buffer needs no room for it: a number that was not given out is empty anyway. -/
@[simp] theorem buffer_setBuffer_empty (b x : BufferId) :
    (s.setBuffer b {}).buffer x = if x = b then {} else s.buffer x := by
  rw [buffer_setBuffer]
  by_cases hb : b < s.buffers.length
  · simp only [hb, and_true]
  · by_cases hx : x = b
    · subst hx
      rw [if_neg (fun h => hb h.2), if_pos rfl, s.buffer_of_length_le (Nat.le_of_not_lt hb)]
    · rw [if_neg (fun h => hx h.1), if_neg hx]

@[simp] theorem fst_newBuffer : s.newBuffer.1 = s.buffers.length := rfl

@[simp] theorem buffer_newBuffer (x : BufferId) : s.newBuffer.2.buffer x = s.buffer x := by
  show (s.buffers ++ [({} : Buffer)]).getD x {} = _
  rw [getD_append_singleton]
  by_cases hx : x = s.buffers.length
  · rw [if_pos hx, s.buffer_of_length_le (Nat.le_of_eq hx.symm)]
  · rw [if_neg hx, buffer]

@[simp] theorem block_newBuffer (i : BlockId) : s.newBuffer.2.block i = s.block i := rfl

@[simp] theorem message_newBuffer (m : MessageId) : s.newBuffer.2.message m = s.message m := rfl

@[simp] theorem length_buffers_newBuffer : s.newBuffer.2.buffers.length = s.buffers.length + 1 := by simp [newBuffer]

@[simp] theorem fst_newBlock (data : Bytes) : (s.newBlock data).1 = s.blocks.length := rfl

@[simp] theorem block_newBlock (data : Bytes) (i : BlockId) :
    (s.newBlock data).2.block i = if i = s.blocks.length then data else s.block i := getD_append_singleton _ _ _ _

@[simp] theorem block_wipe (i j : BlockId) :
    (s.wipe i).block j = if j = i then Bytes.zeros (s.block i).length else s.block j := by
  have herase : (s.block i).erase .storage = .ok (Bytes.zeros (s.block i).length) := by simp [Bytes.erase, Bytes.blank]
  simp only [wipe, herase]
  rw [block, getD_set]
  by_cases hi : i < s.blocks.length
  · simp only [hi, and_true]
    rfl
  · have hnil := s.block_of_length_le (Nat.le_of_not_lt hi)
    by_cases hj : j = i
    · subst hj
      rw [if_neg (fun h => hi h.2), if_pos rfl, hnil]
      exact hnil
    · rw [if_neg (fun h => hj h.1), if_neg hj, block]

theorem wipe_frame (i : BlockId) : (s.wipe i).buffers = s.buffers ∧ (s.wipe i).messages = s.messages ∧
    (s.wipe i).blocks.length = s.blocks.length := by
  unfold wipe
  split <;> simp

theorem runFinaliser_frame (pending : Option BlockId) : (s.runFinaliser pending).buffers = s.buffers ∧
    (s.runFinaliser pending).messages = s.messages ∧ (s.runFinaliser pending).blocks.length = s.blocks.length := by
  cases pending with
  | none => exact ⟨rfl, rfl, rfl⟩
  | some i => exact s.wipe_frame i

/-! ## Releasing and handing over -/

@[simp] theorem buffer_release (b x : BufferId) : (s.release b).buffer x = if x = b then {} else s.buffer x := by
  rw [← buffer_setBuffer_empty, buffer, buffer, release, (runFinaliser_frame _ _).1]

@[simp] theorem block_release (b : BufferId) (i : BlockId) : (s.release b).block i =
    if (s.buffer b).finaliser = some i then Bytes.zeros (s.block i).length else s.block i := by
  unfold release
  cases hf : (s.buffer b).finaliser with
  | none => simp [runFinaliser]
  | some j =>
    simp only [runFinaliser, block_wipe, block_setBuffer, Option.some.injEq]
    by_cases h : i = j
    · subst h
      simp
    · rw [if_neg h, if_neg (Ne.symm h)]

@[simp] theorem messages_release (b : BufferId) : (s.release b).messages = s.messages := (runFinaliser_frame _ _).2.1

@[simp] theorem message_release (b : BufferId) (m : MessageId) : (s.release b).message m = s.message m := by
  rw [message, message, messages_release]

@[simp] theorem length_buffers_release (b : BufferId) : (s.release b).buffers.length = s.buffers.length := by
  rw [release, (runFinaliser_frame _ _).1, length_buffers_setBuffer]

@[simp] theorem length_blocks_release (b : BufferId) : (s.release b).blocks.length = s.blocks.length :=
  (runFinaliser_frame _ _).2.2

theorem setBuffer_self (b : BufferId) : s.setBuffer b (s.buffer b) = s := by
  have hset : s.buffers.set b (s.buffer b) = s.buffers := by
    by_cases hb : b < s.buffers.length
    · rw [buffer, ← List.getElem_eq_getD (h := hb), List.set_getElem_self]
    · exact List.set_eq_of_length_le (Nat.le_of_not_lt hb)
  rw [setBuffer, hset]

/-- There is nothing to release in an empty buffer. -/
theorem release_of_empty {b : BufferId} (h : s.buffer b = {}) : s.release b = s := by
  have hself := s.setBuffer_self b
  rw [h] at hself
  rw [release, h, hself]
  rfl

/-- A block that one buffer gave up, taken over by another that is empty. -/
theorem buffer_receive {taker : BufferId} (owned : Option BlockId) (hlt : taker < s.buffers.length)
    (hempty : s.buffer taker = {}) (x : BufferId) :
    (s.receive taker owned).buffer x = if x = taker then Buffer.owning owned else s.buffer x := by
  cases owned with
  | none =>
    by_cases hx : x = taker
    · subst hx
      rw [if_pos rfl]
      exact hempty
    · rw [if_neg hx, receive]
  | some i =>
    simp only [receive, adopt, buffer_setBuffer, hlt, and_true]
    rfl

@[simp] theorem block_receive (taker : BufferId) (owned : Option BlockId) (i : BlockId) :
    (s.receive taker owned).block i = s.block i := by cases owned <;> rfl

@[simp] theorem messages_receive (taker : BufferId) (owned : Option BlockId) :
    (s.receive taker owned).messages = s.messages := by cases owned <;> rfl

@[simp] theorem message_receive (taker : BufferId) (owned : Option BlockId) (m : MessageId) :
    (s.receive taker owned).message m = s.message m := by rw [message, message, messages_receive]

@[simp] theorem length_buffers_receive (taker : BufferId) (owned : Option BlockId) :
    (s.receive taker owned).buffers.length = s.buffers.length := by cases owned <;> simp [receive, adopt]

@[simp] theorem length_blocks_receive (taker : BufferId) (owned : Option BlockId) :
    (s.receive taker owned).blocks.length = s.blocks.length := by cases owned <;> rfl

/-! ## Messages -/

theorem message_setMessage (m : MessageId) (value : Message) (x : MessageId) :
    (s.setMessage m value).message x = if x = m ∧ m < s.messages.length then value else s.message x := getD_set _ _ _ _ _

@[simp] theorem length_messages_setMessage (m : MessageId) (value : Message) :
    (s.setMessage m value).messages.length = s.messages.length := List.length_set

end Store
end PasswordGate

import Mathlib.Logic.Relation
import PasswordGate.Proofs.Store.Lookup
/-!
# Ownership — who owns which block, and what a single change of a store can do

`Tick` lists the single changes that every operation on buffers and messages is made of: a buffer is made, it gets new
storage, a block changes hands, a buffer is released, a message is made, relabelled, or given another buffer in a slot.
`Sound` is the invariant: it is proved once for each kind of tick (`Tick.sound`), and what a tick leaves of the blocks
that were there before is said once as well (`Tick.grows`).  A row of ticks is `Reaches`.

Only a releasing tick runs a finaliser, and in a sound store the finaliser of a buffer is on that buffer's own block.
-/
namespace PasswordGate
namespace Store

def Owns (s : Store) (b : BufferId) (i : BlockId) : Prop := (s.buffer b).block = some i

/-- A buffer that was given out and holds nothing. -/
def Vacant (s : Store) (b : BufferId) : Prop := b < s.buffers.length ∧ s.buffer b = {}

/-- A buffer that was given out and is in no message's slot. -/
def Loose (s : Store) (b : BufferId) : Prop := b < s.buffers.length ∧ ∀ m, b ∉ (s.message m).slots

/-- **Blocks have one owner, which holds a finaliser on them; a block without an owner is zeroed.** -/
structure Owned (s : Store) : Prop where
  finaliser_eq : ∀ b, (s.buffer b).finaliser = (s.buffer b).block
  owner_unique : ∀ b b' i, s.Owns b i → s.Owns b' i → b = b'
  block_ne_nil : ∀ b i, s.Owns b i → s.block i ≠ []
  length_le : ∀ i, (s.block i).length ≤ Word.largest
  orphan_zero : ∀ i, (∀ b, ¬ s.Owns b i) → ∀ x ∈ s.block i, x = 0

/-- **Every message has a slot for each of its fields, each with a buffer of its own, and a user id that fits.** -/
structure Slotted (s : Store) : Prop where
  slot_lt : ∀ m, ∀ b ∈ (s.message m).slots, b < s.buffers.length
  slot_unique : ∀ m m' p p' b, s.slot? m p = some b → s.slot? m' p' = some b → m = m' ∧ p = p'
  slot_count : ∀ m, (s.message m).slots.length = (s.message m).kind.fields.length
  userId_le : ∀ m, (s.message m).userId ≤ Word.largest

/-- **A store in order.** -/
structure Sound (s : Store) : Prop extends Owned s, Slotted s

/-- **A single change of a store.** -/
inductive Tick (s : Store) : Store → Prop
  | buffer : Tick s s.newBuffer.2
  | storage {b : BufferId} {data : Bytes} (hb : s.Vacant b) (hne : data ≠ []) (hle : data.length ≤ Word.largest) :
      Tick s ((s.newBlock data).2.adopt b s.blocks.length)
  | move (giver : BufferId) {taker : BufferId} (ht : s.Vacant taker) :
      Tick s ((s.setBuffer giver {}).receive taker (s.buffer giver).block)
  | release (b : BufferId) : Tick s (s.release b)
  | message {value : Message} (hloose : ∀ b ∈ value.slots, s.Loose b) (hnodup : value.slots.Nodup)
      (hcount : value.slots.length = value.kind.fields.length) (huser : value.userId ≤ Word.largest) :
      Tick s { s with messages := s.messages ++ [value] }
  | label (m : MessageId) (status : Status) {userId : Nat} (huser : userId ≤ Word.largest) :
      Tick s (s.setMessage m { s.message m with status := status, userId := userId })
  | slot (m : MessageId) (position : Nat) {b : BufferId} (hb : s.Loose b) : Tick s (s.setSlot m position b)

abbrev Reaches : Store → Store → Prop := Relation.ReflTransGen Tick

/-- **What a change leaves of what was there before**: numbers stay given out, a block keeps its length, and its bytes too
as long as a buffer owns it. -/
structure Grows (s s' : Store) : Prop where
  buffers_le : s.buffers.length ≤ s'.buffers.length
  blocks_le : s.blocks.length ≤ s'.blocks.length
  messages_le : s.messages.length ≤ s'.messages.length
  length_block : ∀ i, i < s.blocks.length → (s'.block i).length = (s.block i).length
  kept : ∀ i b, i < s.blocks.length → s'.Owns b i → (∃ b, s.Owns b i) ∧ s'.block i = s.block i
  kind_eq : ∀ m, m < s.messages.length → (s'.message m).kind = (s.message m).kind

variable {s s' s'' : Store}

theorem Owned.lt_of_owns (h : s.Owned) {b : BufferId} {i : BlockId} (hb : s.Owns b i) : i < s.blocks.length :=
  Nat.lt_of_not_le fun hi => h.block_ne_nil b i hb (s.block_of_length_le hi)

theorem Grows.refl (s : Store) : s.Grows s :=
  ⟨Nat.le_refl _, Nat.le_refl _, Nat.le_refl _, fun _ _ => rfl, fun _ b _ hb => ⟨⟨b, hb⟩, rfl⟩, fun _ _ => rfl⟩

theorem Grows.trans (h : s.Grows s') (h' : s'.Grows s'') : s.Grows s'' where
  buffers_le := Nat.le_trans h.buffers_le h'.buffers_le
  blocks_le := Nat.le_trans h.blocks_le h'.blocks_le
  messages_le := Nat.le_trans h.messages_le h'.messages_le
  length_block i hi :=
    (h'.length_block i (Nat.lt_of_lt_of_le hi h.blocks_le)).trans (h.length_block i hi)
  kept i b hi hb := by
    obtain ⟨⟨b', hb'⟩, heq'⟩ := h'.kept i b (Nat.lt_of_lt_of_le hi h.blocks_le) hb
    obtain ⟨howner, heq⟩ := h.kept i b' hi hb'
    exact ⟨howner, heq'.trans heq⟩
  kind_eq m hm := (h'.kind_eq m (Nat.lt_of_lt_of_le hm h.messages_le)).trans (h.kind_eq m hm)

/-! ## Changes that leave the messages alone -/

/-- Slots stay in order as long as the messages are the same and no buffer is taken back. -/
theorem Slotted.of_message_eq (h : s.Slotted) (hm : ∀ m, s'.message m = s.message m)
    (hlen : s.buffers.length ≤ s'.buffers.length) : s'.Slotted where
  slot_lt m b hb := Nat.lt_of_lt_of_le (h.slot_lt m b (by rw [← hm]; exact hb)) hlen
  slot_unique m m' p p' b hb hb' := h.slot_unique m m' p p' b (by rw [slot?, ← hm]; exact hb) (by rw [slot?, ← hm]; exact hb')
  slot_count m := by rw [hm]; exact h.slot_count m
  userId_le m := by rw [hm]; exact h.userId_le m

/-- Ownership stays in order as long as buffers and blocks are the same. -/
theorem Owned.of_eq (h : s.Owned) (hb : ∀ b, s'.buffer b = s.buffer b) (hi : ∀ i, s'.block i = s.block i) :
    s'.Owned where
  finaliser_eq b := by rw [hb]; exact h.finaliser_eq b
  owner_unique b b' i ho ho' := h.owner_unique b b' i (by rw [Owns, ← hb]; exact ho) (by rw [Owns, ← hb]; exact ho')
  block_ne_nil b i ho := by rw [hi]; exact h.block_ne_nil b i (by rw [Owns, ← hb]; exact ho)
  length_le i := by rw [hi]; exact h.length_le i
  orphan_zero i hno x hx := h.orphan_zero i (fun b ho => hno b (by rw [Owns, hb]; exact ho)) x (by rw [← hi]; exact hx)

section Storage

variable {b : BufferId} {data : Bytes}

theorem buffer_storage (data : Bytes) (hb : s.Vacant b) (x : BufferId) : ((s.newBlock data).2.adopt b s.blocks.length).buffer x =
    if x = b then Buffer.owning (some s.blocks.length) else s.buffer x := by
  have hlt : b < (s.newBlock data).2.buffers.length := hb.1
  simp only [adopt, buffer_setBuffer, hlt, and_true]
  rfl

theorem block_storage (i : BlockId) : ((s.newBlock data).2.adopt b s.blocks.length).block i =
    if i = s.blocks.length then data else s.block i := block_newBlock _ _ _

theorem Owned.storage (h : s.Owned) (hb : s.Vacant b) (hne : data ≠ []) (hle : data.length ≤ Word.largest) :
    ((s.newBlock data).2.adopt b s.blocks.length).Owned := by
  have howns : ∀ x i, ((s.newBlock data).2.adopt b s.blocks.length).Owns x i ↔
      (x = b ∧ i = s.blocks.length) ∨ (x ≠ b ∧ s.Owns x i) := by
    intro x i
    rw [Owns, buffer_storage _ hb]
    by_cases hx : x = b
    · rw [if_pos hx]
      simp [hx, Buffer.owning, eq_comm]
    · rw [if_neg hx]
      simp [hx, Owns]
  constructor
  · intro x
    rw [buffer_storage _ hb]
    split
    · rfl
    · exact h.finaliser_eq x
  · intro x x' i hx hx'
    rcases (howns x i).1 hx with ⟨rfl, rfl⟩ | ⟨-, ho⟩
    · rcases (howns x' _).1 hx' with ⟨rfl, -⟩ | ⟨-, ho'⟩
      · rfl
      · exact absurd (h.lt_of_owns ho') (Nat.lt_irrefl _)
    · rcases (howns x' i).1 hx' with ⟨rfl, rfl⟩ | ⟨-, ho'⟩
      · exact absurd (h.lt_of_owns ho) (Nat.lt_irrefl _)
      · exact h.owner_unique x x' i ho ho'
  · intro x i hx
    rw [block_storage]
    split
    · exact hne
    · rename_i hi
      rcases (howns x i).1 hx with ⟨-, hi'⟩ | ⟨-, ho⟩
      · exact absurd hi' hi
      · exact h.block_ne_nil x i ho
  · intro i
    rw [block_storage]
    split
    · exact hle
    · exact h.length_le i
  · intro i hno x hx
    rw [block_storage] at hx
    split at hx
    · rename_i hi
      exact absurd ((howns b i).2 (.inl ⟨rfl, hi⟩)) (hno b)
    · refine h.orphan_zero i (fun y ho => ?_) x hx
      by_cases hy : y = b
      · rw [Owns, hy, hb.2] at ho
        cases ho
      · exact hno y ((howns y i).2 (.inr ⟨hy, ho⟩))

end Storage

section Move

variable {giver taker : BufferId}

theorem buffer_move (giver : BufferId) (ht : s.Vacant taker) (x : BufferId) :
    ((s.setBuffer giver {}).receive taker (s.buffer giver).block).buffer x =
      if x = taker then Buffer.owning (s.buffer giver).block else if x = giver then {} else s.buffer x := by
  rw [buffer_receive _ _ (by rw [length_buffers_setBuffer]; exact ht.1), buffer_setBuffer_empty]
  rw [buffer_setBuffer_empty, ht.2, ite_self]

/-- After a move the taker owns what the giver owned, and the giver owns nothing. -/
theorem owns_move (ht : s.Vacant taker) (x : BufferId) (i : BlockId) :
    ((s.setBuffer giver {}).receive taker (s.buffer giver).block).Owns x i ↔
      (x = taker ∧ s.Owns giver i) ∨ (x ≠ taker ∧ x ≠ giver ∧ s.Owns x i) := by
  rw [Owns, buffer_move _ ht]
  by_cases hx : x = taker
  · simp [hx, Buffer.owning, Owns]
  · rw [if_neg hx]
    by_cases hg : x = giver
    · subst hg
      simp [hx]
    · simp [hx, hg, Owns]

theorem Owned.move (h : s.Owned) (ht : s.Vacant taker) :
    ((s.setBuffer giver {}).receive taker (s.buffer giver).block).Owned := by
  have hblock : ∀ i, ((s.setBuffer giver {}).receive taker (s.buffer giver).block).block i = s.block i := fun i => by
    rw [block_receive, block_setBuffer]
  constructor
  · intro x
    rw [buffer_move _ ht]
    split
    · rfl
    split
    · rfl
    · exact h.finaliser_eq x
  · intro x x' i hx hx'
    rcases (owns_move ht x i).1 hx with ⟨rfl, ho⟩ | ⟨-, hg, ho⟩ <;>
      rcases (owns_move ht x' i).1 hx' with ⟨rfl, ho'⟩ | ⟨-, hg', ho'⟩
    · rfl
    · exact absurd (h.owner_unique _ _ i ho' ho) hg'
    · exact absurd (h.owner_unique _ _ i ho ho') hg
    · exact h.owner_unique x x' i ho ho'
  · intro x i hx
    rw [hblock]
    rcases (owns_move ht x i).1 hx with ⟨-, ho⟩ | ⟨-, -, ho⟩
    · exact h.block_ne_nil _ i ho
    · exact h.block_ne_nil _ i ho
  · intro i
    rw [hblock]
    exact h.length_le i
  · intro i hno x hx
    rw [hblock] at hx
    refine h.orphan_zero i (fun y ho => ?_) x hx
    by_cases hg : y = giver
    · exact hno taker ((owns_move ht taker i).2 (.inl ⟨rfl, hg ▸ ho⟩))
    by_cases hy : y = taker
    · rw [Owns, hy, ht.2] at ho
      cases ho
    · exact hno y ((owns_move ht y i).2 (.inr ⟨hy, hg, ho⟩))

end Move

section Release

variable {b : BufferId}

theorem owns_release (x : BufferId) (i : BlockId) : (s.release b).Owns x i ↔ x ≠ b ∧ s.Owns x i := by
  rw [Owns, buffer_release]
  by_cases hx : x = b
  · simp [hx]
  · simp [hx, Owns]

/-- **A release zeroes the released buffer's own block and no other buffer's.** -/
theorem Owned.block_release_of_owns (h : s.Owned) {x : BufferId} {i : BlockId} (hx : (s.release b).Owns x i) :
    (s.release b).block i = s.block i := by
  obtain ⟨hne, ho⟩ := (owns_release x i).1 hx
  rw [block_release, h.finaliser_eq, if_neg]
  exact fun hb => hne (h.owner_unique x b i ho hb)

theorem Owned.release (h : s.Owned) (b : BufferId) : (s.release b).Owned := by
  constructor
  · intro x
    rw [buffer_release]
    split
    · rfl
    · exact h.finaliser_eq x
  · intro x x' i hx hx'
    exact h.owner_unique x x' i ((owns_release x i).1 hx).2 ((owns_release x' i).1 hx').2
  · intro x i hx
    rw [h.block_release_of_owns hx]
    exact h.block_ne_nil x i ((owns_release x i).1 hx).2
  · intro i
    rw [block_release]
    split
    · rw [Bytes.length_zeros]
      exact h.length_le i
    · exact h.length_le i
  · intro i hno x hx
    rw [block_release] at hx
    split at hx
    · exact List.eq_of_mem_replicate hx
    · rename_i hb
      refine h.orphan_zero i (fun y ho => ?_) x hx
      by_cases hy : y = b
      · exact hb (by rw [h.finaliser_eq, ← hy]; exact ho)
      · exact hno y ((owns_release y i).2 ⟨hy, ho⟩)

end Release

/-! ## Changes that leave the buffers alone -/

theorem message_append (value : Message) (x : MessageId) :
    ({ s with messages := s.messages ++ [value] } : Store).message x =
      if x = s.messages.length then value else s.message x := getD_append_singleton _ _ _ _

theorem Slotted.message (h : s.Slotted) {value : Message} (hloose : ∀ b ∈ value.slots, s.Loose b)
    (hnodup : value.slots.Nodup) (hcount : value.slots.length = value.kind.fields.length)
    (huser : value.userId ≤ Word.largest) : ({ s with messages := s.messages ++ [value] } : Store).Slotted := by
  have hnew : ∀ {m p p' b}, value.slots[p]? = some b → s.slot? m p' = some b → False := fun hp hp' =>
    (hloose _ (List.mem_of_getElem? hp)).2 _ (List.mem_of_getElem? hp')
  constructor
  · intro m b hb
    rw [message_append] at hb
    split at hb
    · exact (hloose b hb).1
    · exact h.slot_lt m b hb
  · intro m m' p p' b hb hb'
    simp only [slot?, message_append] at hb hb'
    split at hb <;> split at hb'
    · rename_i hm hm'
      refine ⟨hm.trans hm'.symm, ?_⟩
      have hlt := (List.getElem?_eq_some_iff.1 hb).1
      exact (List.getElem?_inj hlt hnodup).1 (hb.trans hb'.symm)
    · exact (hnew hb hb').elim
    · exact (hnew hb' hb).elim
    · exact h.slot_unique m m' p p' b hb hb'
  · intro m
    rw [message_append]
    split
    · exact hcount
    · exact h.slot_count m
  · intro m
    rw [message_append]
    split
    · exact huser
    · exact h.userId_le m

theorem slots_label (m : MessageId) (status : Status) (userId : Nat) (x : MessageId) :
    ((s.setMessage m { s.message m with status := status, userId := userId }).message x).slots = (s.message x).slots := by
  rw [message_setMessage]
  split
  · rename_i hx
    rw [hx.1]
  · rfl

theorem Slotted.label (h : s.Slotted) (m : MessageId) (status : Status) {userId : Nat} (huser : userId ≤ Word.largest) :
    (s.setMessage m { s.message m with status := status, userId := userId }).Slotted := by
  have hslots := slots_label (s := s) m status userId
  constructor
  · intro x b hb
    exact h.slot_lt x b (by rw [← hslots]; exact hb)
  · intro x x' p p' b hb hb'
    exact h.slot_unique x x' p p' b (by rw [slot?, ← hslots]; exact hb) (by rw [slot?, ← hslots]; exact hb')
  · intro x
    rw [hslots, h.slot_count, message_setMessage]
    split
    · rename_i hx
      rw [hx.1]
    · rfl
  · intro x
    rw [message_setMessage]
    split
    · exact huser
    · exact h.userId_le x

theorem slot?_setSlot (m : MessageId) (position : Nat) (b : BufferId) (x : MessageId) (p : Nat) {c : BufferId}
    (h : (s.setSlot m position b).slot? x p = some c) : (x = m ∧ p = position ∧ c = b) ∨
      (s.slot? x p = some c ∧ ¬ (x = m ∧ p = position)) := by
  simp only [slot?, setSlot, message_setMessage] at h
  split at h
  · rename_i hx
    obtain ⟨rfl, -⟩ := hx
    rw [List.getElem?_set] at h
    split at h
    · rename_i hp
      split at h
      · exact .inl ⟨rfl, hp.symm, (Option.some.inj h).symm⟩
      · cases h
    · rename_i hp
      exact .inr ⟨h, fun hxp => hp hxp.2.symm⟩
  · rename_i hx
    refine .inr ⟨h, fun hxp => hx ⟨hxp.1, ?_⟩⟩
    rw [← hxp.1]
    exact s.lt_of_slot h

theorem Slotted.slot (h : s.Slotted) (m : MessageId) (position : Nat) {b : BufferId} (hb : s.Loose b) :
    (s.setSlot m position b).Slotted := by
  have hnot : ∀ {x p}, s.slot? x p ≠ some b := fun hx => hb.2 _ (List.mem_of_getElem? hx)
  constructor
  · intro x c hc
    obtain ⟨p, hp⟩ := List.mem_iff_getElem?.1 hc
    rcases slot?_setSlot m position b x p hp with ⟨-, -, rfl⟩ | ⟨hold, -⟩
    · exact hb.1
    · exact h.slot_lt x c (List.mem_of_getElem? hold)
  · intro x x' p p' c hc hc'
    rcases slot?_setSlot m position b x p hc with ⟨rfl, rfl, rfl⟩ | ⟨hold, -⟩ <;>
      rcases slot?_setSlot _ _ _ x' p' hc' with ⟨rfl, rfl, hcb⟩ | ⟨hold', -⟩
    · exact ⟨rfl, rfl⟩
    · exact absurd hold' hnot
    · exact absurd (hcb ▸ hold) hnot
    · exact h.slot_unique x x' p p' c hold hold'
  · intro x
    rw [setSlot, message_setMessage]
    split
    · rename_i hx
      rw [List.length_set]
      exact h.slot_count m
    · exact h.slot_count x
  · intro x
    rw [setSlot, message_setMessage]
    split
    · exact h.userId_le m
    · exact h.userId_le x

/-! ## Ticks and rows of ticks -/

/-- **Every single change keeps a store in order.** -/
theorem Tick.sound (t : s.Tick s') (h : s.Sound) : s'.Sound := by
  cases t with
  | buffer =>
    exact ⟨h.toOwned.of_eq s.buffer_newBuffer s.block_newBuffer,
      h.toSlotted.of_message_eq s.message_newBuffer (by rw [length_buffers_newBuffer]; omega)⟩
  | storage hb hne hle =>
    exact ⟨h.toOwned.storage hb hne hle, h.toSlotted.of_message_eq (fun _ => rfl)
      (by rw [adopt, length_buffers_setBuffer]; exact Nat.le_refl _)⟩
  | move giver ht =>
    exact ⟨h.toOwned.move ht, h.toSlotted.of_message_eq (fun m => by rw [message_receive, message_setBuffer])
      (Nat.le_of_eq (by rw [length_buffers_receive, length_buffers_setBuffer]))⟩
  | release b =>
    exact ⟨h.toOwned.release b, h.toSlotted.of_message_eq (s.message_release b)
      (Nat.le_of_eq (by rw [length_buffers_release]))⟩
  | message hloose hnodup hcount huser =>
    exact ⟨h.toOwned.of_eq (fun _ => rfl) (fun _ => rfl), h.toSlotted.message hloose hnodup hcount huser⟩
  | label m status huser =>
    exact ⟨h.toOwned.of_eq (fun _ => rfl) (fun _ => rfl), h.toSlotted.label m status huser⟩
  | slot m position hb =>
    exact ⟨h.toOwned.of_eq (fun _ => rfl) (fun _ => rfl), h.toSlotted.slot m position hb⟩

theorem grows_of_messages (hbuffers : s'.buffers = s.buffers) (hblocks : s'.blocks = s.blocks)
    (hlen : s.messages.length ≤ s'.messages.length)
    (hkind : ∀ m, m < s.messages.length → (s'.message m).kind = (s.message m).kind) : s.Grows s' where
  buffers_le := Nat.le_of_eq (by rw [hbuffers])
  blocks_le := Nat.le_of_eq (by rw [hblocks])
  messages_le := hlen
  length_block i _ := by rw [block, block, hblocks]
  kept i b _ hb := ⟨⟨b, by rw [Owns, buffer, ← hbuffers]; exact hb⟩, by rw [block, block, hblocks]⟩
  kind_eq := hkind

/-- **What a single change leaves of what was there before.** -/
theorem Tick.grows (t : s.Tick s') (h : s.Owned) : s.Grows s' := by
  cases t with
  | buffer =>
    exact ⟨by rw [length_buffers_newBuffer]; omega, Nat.le_refl _, Nat.le_refl _, fun _ _ => rfl,
      fun i b _ hb => ⟨⟨b, by rw [Owns, ← buffer_newBuffer]; exact hb⟩, rfl⟩, fun _ _ => rfl⟩
  | @storage b data hb hne hle =>
    have hold : ∀ i, i < s.blocks.length → ((s.newBlock data).2.adopt b s.blocks.length).block i = s.block i :=
      fun i hi => by rw [block_storage, if_neg (Nat.ne_of_lt hi)]
    refine ⟨by rw [adopt, length_buffers_setBuffer]; exact Nat.le_refl _, ?_, Nat.le_refl _,
      fun i hi => by rw [hold i hi], fun i x hi hx => ⟨⟨x, ?_⟩, hold i hi⟩, fun _ _ => rfl⟩
    · show s.blocks.length ≤ (s.blocks ++ [data]).length
      simp
    · rw [Owns, buffer_storage _ hb] at hx
      split at hx
      · cases hx
        exact absurd hi (Nat.lt_irrefl _)
      · exact hx
  | move giver ht =>
    refine ⟨Nat.le_of_eq (by rw [length_buffers_receive, length_buffers_setBuffer]),
      Nat.le_of_eq (by rw [length_blocks_receive, blocks_setBuffer]), Nat.le_of_eq (by rw [messages_receive, messages_setBuffer]),
      fun i _ => by rw [block_receive, block_setBuffer], fun i x _ hx => ⟨?_, by rw [block_receive, block_setBuffer]⟩,
      fun m _ => by rw [message_receive, message_setBuffer]⟩
    rcases (owns_move ht x i).1 hx with ⟨-, ho⟩ | ⟨-, -, ho⟩
    · exact ⟨giver, ho⟩
    · exact ⟨x, ho⟩
  | release b =>
    refine ⟨Nat.le_of_eq (by rw [length_buffers_release]), Nat.le_of_eq (by rw [length_blocks_release]),
      Nat.le_of_eq (by rw [messages_release]), fun i _ => ?_,
      fun i x _ hx => ⟨⟨x, ((owns_release x i).1 hx).2⟩, h.block_release_of_owns hx⟩, fun m _ => by rw [message_release]⟩
    rw [block_release]
    split
    · rw [Bytes.length_zeros]
    · rfl
  | @message value =>
    refine grows_of_messages rfl rfl (by simp) fun m hm => ?_
    rw [message_append, if_neg (Nat.ne_of_lt hm)]
  | label m status huser =>
    refine grows_of_messages rfl rfl (by simp) fun x _ => ?_
    rw [message_setMessage]
    split
    · rename_i hx
      rw [hx.1]
    · rfl
  | slot m position hb =>
    refine grows_of_messages rfl rfl (by simp [setSlot]) fun x _ => ?_
    rw [setSlot, message_setMessage]
    split
    · rename_i hx
      rw [hx.1]
    · rfl

/-- **A row of changes keeps a store in order.** -/
theorem Reaches.sound (r : Reaches s s') (h : s.Sound) : s'.Sound := by
  induction r with
  | refl => exact h
  | tail _ t ih => exact t.sound ih

theorem Reaches.grows (r : Reaches s s') (h : s.Sound) : s.Grows s' := by
  induction r with
  | refl => exact Grows.refl s
  | tail r t ih => exact ih.trans (t.grows (Reaches.sound r h).toOwned)

/-- **A block without an owner is zeroed and never gets an owner again**, so it stays as it is. -/
theorem block_of_unowned (r : Reaches s s') (h : s.Sound) {i : BlockId} (hi : i < s.blocks.length)
    (hno : ∀ b, ¬ s.Owns b i) : s'.block i = Bytes.zeros (s.block i).length := by
  have hzero := (Reaches.sound r h).orphan_zero i fun b hb => by
    obtain ⟨⟨b', hb'⟩, -⟩ := (Reaches.grows r h).kept i b hi hb
    exact hno b' hb'
  exact List.eq_replicate_iff.2 ⟨(Reaches.grows r h).length_block i hi, hzero⟩

theorem sound_empty : ({} : Store).Sound :=
  { finaliser_eq := fun _ => rfl
    owner_unique := fun _ _ _ h => by cases h
    block_ne_nil := fun _ _ h => by cases h
    length_le := fun _ => Nat.zero_le _
    orphan_zero := fun _ _ _ h => by cases h
    slot_lt := fun _ _ h => by cases h
    slot_unique := fun _ _ _ _ _ h => by cases h
    slot_count := fun _ => rfl
    userId_le := fun _ => Nat.zero_le _ }

end Store
end PasswordGate

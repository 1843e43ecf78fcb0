import PasswordGate.Proofs.Store.Operations
/-!
# Contents — what buffers hold and what messages say after each operation

In a sound store a release empties one buffer and leaves every other as it was, a move carries the bytes over, and a slot
that is assigned gets exactly what was on its way in (`envelope_assign`).  So an assignment acts on what messages say, and
only on the message that gives the buffer and the one that gets it.
-/
namespace PasswordGate
namespace Store

variable {s s' : Store}

/-! ## Buffers -/

theorem contents_of_buffer_eq {b b' : BufferId} (hb : (s'.buffer b').block = (s.buffer b).block)
    (hi : ∀ i, s.Owns b i → s'.block i = s.block i) : s'.contents b' = s.contents b := by
  unfold contents
  rw [hb]
  cases h : (s.buffer b).block with
  | none => rfl
  | some i => exact hi i h

theorem contents_of_empty {b : BufferId} (h : s.buffer b = {}) : s.contents b = [] := by rw [contents, h]

theorem contents_of_length_le (s : Store) {b : BufferId} (h : s.buffers.length ≤ b) : s.contents b = [] :=
  contents_of_empty (s.buffer_of_length_le h)

/-- **A release empties one buffer and no other.** -/
theorem contents_release (h : s.Owned) (b x : BufferId) :
    (s.release b).contents x = if x = b then [] else s.contents x := by
  by_cases hx : x = b
  · rw [if_pos hx, contents_of_empty (by rw [buffer_release, if_pos hx])]
  · rw [if_neg hx]
    refine contents_of_buffer_eq (by rw [buffer_release, if_neg hx]) fun i hi => ?_
    exact h.block_release_of_owns ((owns_release x i).2 ⟨hx, hi⟩)

theorem contents_releaseAll : ∀ (buffers : List BufferId) {s : Store}, s.Owned → ∀ x : BufferId,
    (s.releaseAll buffers).contents x = if x ∈ buffers then [] else s.contents x
  | [], s, _, x => by simp [releaseAll]
  | b :: rest, s, h, x => by
    show ((s.release b).releaseAll rest).contents x = _
    rw [contents_releaseAll rest (h.release b), contents_release h]
    by_cases hx : x = b <;> by_cases hr : x ∈ rest <;> simp [hx, hr]

theorem buffer_releaseAll (x : BufferId) : ∀ (buffers : List BufferId) (s : Store),
    (s.releaseAll buffers).buffer x = if x ∈ buffers then {} else s.buffer x
  | [], s => by simp [releaseAll]
  | b :: rest, s => by
    show ((s.release b).releaseAll rest).buffer x = _
    rw [buffer_releaseAll x rest, buffer_release]
    by_cases hx : x = b <;> by_cases hr : x ∈ rest <;> simp [hx, hr]

theorem messages_releaseAll : ∀ (buffers : List BufferId) (s : Store), (s.releaseAll buffers).messages = s.messages
  | [], _ => rfl
  | b :: rest, s => (messages_releaseAll rest (s.release b)).trans (s.messages_release b)

theorem length_buffers_releaseAll : ∀ (buffers : List BufferId) (s : Store),
    (s.releaseAll buffers).buffers.length = s.buffers.length
  | [], _ => rfl
  | b :: rest, s => (length_buffers_releaseAll rest (s.release b)).trans (s.length_buffers_release b)

theorem releaseAll_of_empty : ∀ (buffers : List BufferId) {s : Store}, (∀ b ∈ buffers, s.buffer b = {}) →
    s.releaseAll buffers = s
  | [], _, _ => rfl
  | b :: rest, s, h => by
    show (s.release b).releaseAll rest = s
    rw [s.release_of_empty (h b List.mem_cons_self)]
    exact releaseAll_of_empty rest fun c hc => h c (List.mem_cons_of_mem _ hc)

theorem buffer_take (s : Store) (b x : BufferId) : (s.take b).2.buffer x =
    if x = s.buffers.length then Buffer.owning (s.buffer b).block else if x = b then {} else s.buffer x := by
  have hmove := buffer_move b s.vacant_newBuffer x
  simp only [buffer_newBuffer] at hmove
  simp only [take, disown, fst_newBuffer, buffer_newBuffer]
  exact hmove

@[simp] theorem block_take (s : Store) (b : BufferId) (i : BlockId) : (s.take b).2.block i = s.block i := by
  simp only [take, disown, block_receive, block_setBuffer, block_newBuffer]

/-- **A move carries the bytes over and leaves the giver empty.** -/
theorem contents_take (s : Store) (b x : BufferId) : (s.take b).2.contents x =
    if x = s.buffers.length then s.contents b else if x = b then [] else s.contents x := by
  have hb := s.buffer_take b x
  by_cases hx : x = s.buffers.length
  · rw [if_pos hx] at hb ⊢
    exact contents_of_buffer_eq (by rw [hb]; rfl) fun i _ => s.block_take b i
  · rw [if_neg hx] at hb ⊢
    by_cases hg : x = b
    · rw [if_pos hg] at hb ⊢
      exact contents_of_empty hb
    · rw [if_neg hg] at hb ⊢
      exact contents_of_buffer_eq (by rw [hb]) fun i _ => s.block_take b i

theorem contents_copyOf {data : Bytes} {b : BufferId} (h : s.copyOf data = .ok (b, s')) : s'.contents b = data := by
  obtain ⟨rfl, ⟨rfl, rfl⟩ | ⟨-, -, rfl⟩⟩ := copyOf_cases h
  · exact contents_of_empty s.vacant_newBuffer.2
  · have hbuffer : ((s.newBuffer.2.newBlock data).2.adopt s.buffers.length s.blocks.length).buffer s.buffers.length =
        Buffer.owning (some s.blocks.length) := (buffer_storage data s.vacant_newBuffer _).trans (if_pos rfl)
    rw [contents, hbuffer]
    exact (block_storage _).trans (if_pos rfl)

/-- **A copy holds the data, and nothing else has changed.** -/
theorem copyOf_spec (h : s.Owned) {data : Bytes} (hle : data.length ≤ Word.largest) : ∃ s',
    s.copyOf data = .ok (s.buffers.length, s') ∧ Reaches s s' ∧ s'.messages = s.messages ∧
    s'.buffers.length = s.buffers.length + 1 ∧
    ∀ x, s'.contents x = if x = s.buffers.length then data else s.contents x := by
  obtain ⟨b, s', hcopy⟩ := s.exists_copyOf hle
  obtain ⟨rfl, hlen, hmessages, hbuffer⟩ := copyOf_buffers hcopy
  refine ⟨s', hcopy, (reaches_copyOf hcopy).1, hmessages, hlen, fun x => ?_⟩
  split
  · rename_i hx
    rw [hx]
    exact contents_copyOf hcopy
  · rename_i hx
    exact contents_of_buffer_eq (by rw [hbuffer x hx]) fun i hi => block_copyOf hcopy (h.lt_of_owns hi)

/-! ## Messages -/

def given (s : Store) : Option BufferId → Bytes
  | none => []
  | some b => s.contents b

/-- What the fields of a message hold once a buffer has been taken. -/
def fieldsWithout (s : Store) (value : Option BufferId) (m : MessageId) : List Bytes :=
  (s.message m).slots.map fun b => if value = some b then [] else s.contents b

theorem fieldsWithout_of_not_mem {value : Option BufferId} {m : MessageId}
    (h : ∀ b ∈ (s.message m).slots, value ≠ some b) : s.fieldsWithout value m = (s.envelope m).fields :=
  List.map_congr_left fun b hb => if_neg (h b hb)

/-- A buffer in a slot is in no other, so taking it empties that one field. -/
theorem fieldsWithout_of_slot (h : s.Slotted) {m : MessageId} {position : Nat} {b : BufferId}
    (hb : s.slot? m position = some b) : s.fieldsWithout (some b) m = (s.envelope m).fields.set position [] := by
  refine List.ext_getElem? fun p => ?_
  simp only [fieldsWithout, envelope, List.getElem?_map, List.getElem?_set, List.length_map, Option.some.injEq]
  by_cases hp : position = p
  · subst hp
    have hslot : (s.message m).slots[position]? = some b := hb
    have hlt := (List.getElem?_eq_some_iff.1 hslot).1
    rw [hslot, if_pos rfl, if_pos hlt, Option.map_some, if_pos rfl]
  · rw [if_neg hp]
    cases hc : (s.message m).slots[p]? with
    | none => rfl
    | some c =>
      have hne : b ≠ c := fun hbc => hp (h.slot_unique m m position p b hb (hbc ▸ hc)).2
      rw [Option.map_some, Option.map_some, if_neg hne]

theorem envelope_of_eq {m : MessageId} (hm : s'.message m = s.message m)
    (hc : ∀ b ∈ (s.message m).slots, s'.contents b = s.contents b) : s'.envelope m = s.envelope m := by
  simp only [envelope, hm, Envelope.mk.injEq, true_and]
  exact List.map_congr_left hc

theorem length_fields (h : s.Slotted) (m : MessageId) :
    (s.envelope m).fields.length = (s.envelope m).kind.fields.length := by
  rw [envelope, List.length_map]
  exact h.slot_count m

theorem length_contents_le (h : s.Owned) (b : BufferId) : (s.contents b).length ≤ Word.largest := by
  unfold contents
  split
  · exact Nat.zero_le _
  · exact h.length_le _

theorem fits_envelope (h : s.Sound) (m : MessageId) : (s.envelope m).Fits where
  userId_le := h.userId_le m
  length_le content hc := by
    obtain ⟨b, -, rfl⟩ := List.mem_map.1 hc
    exact length_contents_le h.toOwned b

theorem contents_incoming (s : Store) (value : Option BufferId) (x : BufferId) : (s.incoming value).2.contents x =
    if x = s.buffers.length then s.given value else if value = some x then [] else s.contents x := by
  cases value with
  | none =>
    rw [incoming, contents_of_buffer_eq (s := s) (by rw [buffer_newBuffer]) (fun i _ => s.block_newBuffer i)]
    split
    · rename_i hx
      exact s.contents_of_length_le (Nat.le_of_eq hx.symm)
    · rfl
  | some b =>
    rw [incoming, contents_take]
    simp only [given, Option.some.injEq, eq_comm]

theorem message_assign {m : MessageId} {position : Nat} {value : Option BufferId} {current : BufferId}
    (hslot : s.slot? m position = some current) (hne : value ≠ some current) (x : MessageId) :
    (s.assign m position value).message x =
      if x = m then { s.message m with slots := (s.message m).slots.set position s.buffers.length } else s.message x := by
  obtain ⟨-, -, -, hmessage⟩ := incoming_spec s value
  have hslot' : (s.incoming value).2.slot? m position = some current := by
    rw [slot?, hmessage]
    exact hslot
  have hm := lt_of_slot _ hslot'
  simp only [assign_eq hslot hne, setSlot, message_setMessage, message_release, messages_release, hmessage, hm, and_true]

theorem contents_assign (h : s.Sound) {m : MessageId} {position : Nat} {value : Option BufferId} {current : BufferId}
    (hslot : s.slot? m position = some current) (hne : value ≠ some current) (x : BufferId) :
    (s.assign m position value).contents x =
      if x = current then [] else if x = s.buffers.length then s.given value
      else if value = some x then [] else s.contents x := by
  obtain ⟨-, hreach, -, -⟩ := incoming_spec s value
  rw [assign_eq hslot hne]
  show ((s.incoming value).2.release current).contents x = _
  rw [contents_release (Reaches.sound hreach h).toOwned, contents_incoming]

/-- **A slot that is assigned gets what was on its way in**, and only what was taken for it goes missing elsewhere. -/
theorem envelope_assign (h : s.Sound) {m : MessageId} {position : Nat} {value : Option BufferId} {current : BufferId}
    (hslot : s.slot? m position = some current) (hne : value ≠ some current) (x : MessageId) :
    (s.assign m position value).envelope x = { s.envelope x with
      fields := if x = m then (s.fieldsWithout value x).set position (s.given value) else s.fieldsWithout value x } := by
  have hnew : ∀ c ∈ (s.message x).slots, c ≠ s.buffers.length := fun c hc => Nat.ne_of_lt (h.slot_lt x c hc)
  by_cases hx : x = m
  · subst hx
    simp only [envelope, message_assign hslot hne, if_true, Envelope.mk.injEq, true_and]
    refine List.ext_getElem? fun p => ?_
    simp only [fieldsWithout, List.getElem?_map, List.getElem?_set, List.length_map]
    by_cases hp : position = p
    · subst hp
      have hlt : position < (s.message x).slots.length := (List.getElem?_eq_some_iff.1 hslot).1
      rw [if_pos rfl, if_pos rfl, if_pos hlt, if_pos hlt, Option.map_some, contents_assign h hslot hne,
        if_neg (Nat.ne_of_gt (h.slot_lt x current (List.mem_of_getElem? hslot))), if_pos rfl]
    · rw [if_neg hp, if_neg hp]
      cases hc : (s.message x).slots[p]? with
      | none => rfl
      | some c =>
        have hother : c ≠ current := fun he => hp (h.slot_unique x x position p c (he ▸ hslot) hc).2
        rw [Option.map_some, Option.map_some, contents_assign h hslot hne, if_neg hother,
          if_neg (hnew c (List.mem_of_getElem? hc))]
  · simp only [envelope, message_assign hslot hne, if_neg hx, Envelope.mk.injEq, true_and]
    refine List.map_congr_left fun c hc => ?_
    have hother : c ≠ current := fun he => by
      obtain ⟨p, hp⟩ := List.mem_iff_getElem?.1 hc
      exact hx (h.slot_unique x m p position c hp (he ▸ hslot)).1
    rw [contents_assign h hslot hne, if_neg hother, if_neg (hnew c hc)]

/-- Assigning nothing, or a buffer that no message holds, changes one field of one message. -/
theorem envelope_assign_of_loose (h : s.Sound) {m : MessageId} {position : Nat} {value : Option BufferId}
    {current : BufferId} (hslot : s.slot? m position = some current) (hloose : ∀ b, value = some b → s.Loose b)
    (x : MessageId) : (s.assign m position value).envelope x = if x = m then
      { s.envelope x with fields := (s.envelope x).fields.set position (s.given value) } else s.envelope x := by
  have hnot : ∀ m', ∀ b ∈ (s.message m').slots, value ≠ some b := fun m' b hb hv => (hloose b hv).2 m' hb
  rw [envelope_assign h hslot (hnot m current (List.mem_of_getElem? hslot)), fieldsWithout_of_not_mem (hnot x)]
  split <;> rfl

theorem envelope_label {m : MessageId} (hm : m < s.messages.length) (status : Status) (userId : Nat) (x : MessageId) :
    (s.setMessage m { s.message m with status := status, userId := userId }).envelope x =
      if x = m then { s.envelope x with status := status, userId := userId } else s.envelope x := by
  simp only [envelope, message_setMessage, hm, and_true]
  by_cases hx : x = m
  · subst hx
    rw [if_pos rfl, if_pos rfl]
    rfl
  · rw [if_neg hx, if_neg hx]
    rfl

theorem envelope_setStatus {m : MessageId} (hm : m < s.messages.length) (status : Status) (x : MessageId) :
    (s.setStatus m status).envelope x = if x = m then { s.envelope x with status := status } else s.envelope x := by
  refine (envelope_label hm status (s.message m).userId x).trans ?_
  split
  · rename_i hx
    subst hx
    rfl
  · rfl

theorem envelope_setUserId {m : MessageId} (hm : m < s.messages.length) (userId : Nat) (x : MessageId) :
    (s.setMessage m { s.message m with userId := userId }).envelope x =
      if x = m then { s.envelope x with userId := userId } else s.envelope x := by
  refine (envelope_label hm (s.message m).status userId x).trans ?_
  split
  · rename_i hx
    subst hx
    rfl
  · rfl

theorem contents_releaseMessage (h : s.Owned) (m : MessageId) {b : BufferId} (hb : s.Loose b) :
    (s.releaseMessage m).contents b = s.contents b := by
  rw [releaseMessage, contents_releaseAll _ h, if_neg (hb.2 m)]

/-- **Releasing a message empties its fields and no other message's.** -/
theorem envelope_releaseMessage (h : s.Sound) (m x : MessageId) : (s.releaseMessage m).envelope x = if x = m then
    { s.envelope x with fields := List.replicate (s.envelope x).fields.length [] } else s.envelope x := by
  have hmessage : ∀ y, (s.releaseMessage m).message y = s.message y := fun y => by
    rw [message, message, releaseMessage, messages_releaseAll]
  have hcontents : ∀ b, (s.releaseMessage m).contents b = if b ∈ (s.message m).slots then [] else s.contents b :=
    contents_releaseAll _ h.toOwned
  by_cases hx : x = m
  · subst hx
    simp only [envelope, hmessage, if_true, Envelope.mk.injEq, true_and, List.length_map]
    refine List.eq_replicate_iff.2 ⟨List.length_map _, fun c hc => ?_⟩
    obtain ⟨b, hb, rfl⟩ := List.mem_map.1 hc
    rw [hcontents, if_pos hb]
  · rw [if_neg hx]
    refine envelope_of_eq (hmessage x) fun b hb => ?_
    rw [hcontents, if_neg]
    intro hbm
    obtain ⟨p, hp⟩ := List.mem_iff_getElem?.1 hb
    obtain ⟨p', hp'⟩ := List.mem_iff_getElem?.1 hbm
    exact hx (h.slot_unique x m p p' b hp hp').1

end Store
end PasswordGate

import PasswordGate.Proofs.Store.Decoding
/-!
# Construction — a message made from a caller's buffers says what they held

A new message has empty slots of its own (`Marked`).  Assigning buffers to them in turn wipes nothing, and leaves the slots
still to come empty and the buffers still to come as they are (`Outside`, `assignAll_filled`).  So in the end each field
holds what its buffer did; a buffer that comes up again gives its contents only once (`offer`).
-/
namespace PasswordGate
namespace Store

variable {s s' : Store}

theorem Loose.of_messages_eq {b : BufferId} (h : s.Loose b) (hm : s'.messages = s.messages)
    (hle : s.buffers.length ≤ s'.buffers.length) : s'.Loose b :=
  ⟨Nat.lt_of_lt_of_le h.1 hle, fun m => by rw [message, hm]; exact h.2 m⟩

/-- **A copy is in a new buffer that no message holds**, and loose buffers stay as they are. -/
theorem copyOf_loose (h : s.Sound) {data : Bytes} (hle : data.length ≤ Word.largest) : ∃ s',
    s.copyOf data = .ok (s.buffers.length, s') ∧ Reaches s s' ∧ s'.Loose s.buffers.length ∧
    s'.contents s.buffers.length = data ∧
    ∀ b, s.Loose b → s'.Loose b ∧ s'.contents b = s.contents b ∧ b ≠ s.buffers.length := by
  obtain ⟨s', hcopy, hreach, hmessages, hlen, hcontents⟩ := copyOf_spec h.toOwned hle
  have hmessage : ∀ m, s'.message m = s.message m := fun m => by rw [message, message, hmessages]
  refine ⟨s', hcopy, hreach, h.loose_of_le hmessage (Nat.le_refl _) (by rw [hlen]; exact Nat.lt_succ_self _), ?_,
    fun b hb => ⟨hb.of_messages_eq hmessages (by rw [hlen]; exact Nat.le_succ _), ?_, Nat.ne_of_lt hb.1⟩⟩
  · rw [hcontents, if_pos rfl]
  · rw [hcontents, if_neg (Nat.ne_of_lt hb.1)]

theorem message_newMessage (s : Store) (kind : Kind) (m : MessageId) : (s.newMessage kind).2.message m =
    if m = s.messages.length then { kind := kind, slots := List.range' s.buffers.length kind.fields.length }
    else s.message m := by
  obtain ⟨-, hids, -, hmessages, -, -⟩ := newBuffers_spec kind.fields.length s
  show ({ (s.newBuffers kind.fields.length).2 with messages := (s.newBuffers kind.fields.length).2.messages ++
    [{ kind := kind, slots := (s.newBuffers kind.fields.length).1 }] } : Store).message m = _
  rw [message_append, hids, hmessages, message, message, hmessages]

theorem length_messages_newMessage (s : Store) (kind : Kind) :
    (s.newMessage kind).2.messages.length = s.messages.length + 1 := by
  obtain ⟨-, -, -, hmessages, -, -⟩ := newBuffers_spec kind.fields.length s
  show ((s.newBuffers kind.fields.length).2.messages ++ [_]).length = _
  rw [hmessages, List.length_append]
  rfl

theorem length_buffers_newMessage (s : Store) (kind : Kind) :
    (s.newMessage kind).2.buffers.length = s.buffers.length + kind.fields.length := (newBuffers_spec _ s).2.2.1

theorem buffer_newMessage (s : Store) (kind : Kind) (b : BufferId) : (s.newMessage kind).2.buffer b = s.buffer b :=
  (newBuffers_spec kind.fields.length s).2.2.2.2.2 b

/-- **A new message is blank**, and nothing else has changed. -/
theorem newMessage_spec (h : s.Sound) (kind : Kind) : (s.newMessage kind).1 = s.messages.length ∧
    Reaches s (s.newMessage kind).2 ∧ s.messages.length < (s.newMessage kind).2.messages.length ∧
    (s.newMessage kind).2.envelope s.messages.length = Envelope.blank kind ∧
    (∀ b, (s.newMessage kind).2.contents b = s.contents b) ∧ (∀ b, s.Loose b → (s.newMessage kind).2.Loose b) ∧
    ∀ m, m < s.messages.length → (s.newMessage kind).2.envelope m = s.envelope m := by
  obtain ⟨-, -, -, hmessages, hblocks, -⟩ := newBuffers_spec kind.fields.length s
  have hmessage := s.message_newMessage kind
  have hcontents : ∀ b, (s.newMessage kind).2.contents b = s.contents b := fun b =>
    contents_of_buffer_eq (congrArg Buffer.block (s.buffer_newMessage kind b)) fun i _ => congrArg (·.getD i []) hblocks
  refine ⟨congrArg List.length hmessages, reaches_newMessage h.toSlotted kind, ?_, ?_, hcontents, fun b hb => ⟨?_, fun m => ?_⟩,
    fun m hm => ?_⟩
  · rw [length_messages_newMessage]
    exact Nat.lt_succ_self _
  · simp only [envelope, hmessage, if_true, Envelope.blank, Envelope.mk.injEq, true_and]
    refine List.ext_getElem (by simp) fun p hp _ => ?_
    rw [List.getElem_map, List.getElem_map, hcontents, List.getElem_range']
    exact s.contents_of_length_le (by omega)
  · rw [length_buffers_newMessage]
    exact Nat.lt_of_lt_of_le hb.1 (Nat.le_add_right _ _)
  · rw [hmessage]
    split
    · intro hmem
      exact absurd hb.1 (Nat.not_lt.2 (List.mem_range'_1.1 hmem).1)
    · exact hb.2 m
  · refine envelope_of_eq ?_ fun b _ => hcontents b
    rw [hmessage, if_neg (Nat.ne_of_lt hm)]

/-! ## Single assignments -/

theorem block_incoming (s : Store) (value : Option BufferId) (i : BlockId) :
    (s.incoming value).2.block i = s.block i := by
  cases value with
  | none => rfl
  | some b => exact s.block_take b i

theorem buffer_incoming_of_ne (s : Store) {value : Option BufferId} {x : BufferId} (hnew : x ≠ s.buffers.length)
    (hvalue : value ≠ some x) : (s.incoming value).2.buffer x = s.buffer x := by
  cases value with
  | none => exact s.buffer_newBuffer x
  | some b =>
    rw [incoming, buffer_take, if_neg hnew, if_neg fun hx => hvalue (congrArg some hx.symm)]

/-- **A slot that is assigned a buffer** has a new buffer that owns what that one owned; the two others are empty. -/
theorem buffer_assign {m : MessageId} {position : Nat} {b current : BufferId} (hslot : s.slot? m position = some current)
    (hne : some b ≠ some current) (x : BufferId) : (s.assign m position (some b)).buffer x =
      if x = current then {} else if x = s.buffers.length then Buffer.owning (s.buffer b).block
      else if x = b then {} else s.buffer x := by
  rw [assign_eq hslot hne]
  show ((s.take b).2.release current).buffer x = _
  rw [buffer_release, buffer_take]

theorem length_buffers_assign {m : MessageId} {position : Nat} {b current : BufferId}
    (hslot : s.slot? m position = some current) (hne : some b ≠ some current) :
    (s.assign m position (some b)).buffers.length = s.buffers.length + 1 := by
  rw [assign_eq hslot hne]
  show ((s.take b).2.release current).buffers.length = _
  rw [length_buffers_release, length_buffers_take]

theorem length_messages_assign {m : MessageId} {position : Nat} {b current : BufferId}
    (hslot : s.slot? m position = some current) (hne : some b ≠ some current) :
    (s.assign m position (some b)).messages.length = s.messages.length := by
  rw [assign_eq hslot hne, setSlot, length_messages_setMessage, messages_release]
  exact congrArg List.length (s.messages_take b)

theorem length_slots_assign (m : MessageId) (position : Nat) (value : Option BufferId) (x : MessageId) :
    ((s.assign m position value).message x).slots.length = (s.message x).slots.length := by
  cases hslot : s.slot? m position with
  | none => rw [assign, hslot]
  | some current =>
    by_cases hne : value = some current
    · rw [assign, hslot]
      simp only
      rw [if_pos hne]
    · rw [message_assign hslot hne]
      split
      · rename_i hx
        rw [hx, List.length_set]
      · rfl

/-- A buffer that there is and that is in no slot of a message. -/
def Outside (s : Store) (m : MessageId) (b : BufferId) : Prop := b < s.buffers.length ∧ b ∉ (s.message m).slots

section Slot

variable {m : MessageId} {position : Nat} {value : Option BufferId} {current : BufferId}

/-- **An assignment wipes what the slot's own buffer owned**, and no other block. -/
theorem block_assign (h : s.Sound) (hslot : s.slot? m position = some current) (hne : value ≠ some current) (i : BlockId) :
    (s.assign m position value).block i =
      if (s.buffer current).block = some i then Bytes.zeros (s.block i).length else s.block i := by
  have hlt := h.slot_lt m current (List.mem_of_getElem? hslot)
  rw [assign_eq hslot hne]
  show ((s.incoming value).2.release current).block i = _
  rw [block_release, buffer_incoming_of_ne s (Nat.ne_of_lt hlt) hne, block_incoming, h.finaliser_eq]

theorem buffer_assign_of_ne (hslot : s.slot? m position = some current) (hne : value ≠ some current) {x : BufferId}
    (hcurrent : x ≠ current) (hnew : x ≠ s.buffers.length) (hvalue : value ≠ some x) :
    (s.assign m position value).buffer x = s.buffer x := by
  rw [assign_eq hslot hne]
  show ((s.incoming value).2.release current).buffer x = _
  rw [buffer_release, if_neg hcurrent, buffer_incoming_of_ne s hnew hvalue]

theorem slots_assign (hslot : s.slot? m position = some current) (hne : value ≠ some current) :
    ((s.assign m position value).message m).slots = (s.message m).slots.set position s.buffers.length := by
  rw [message_assign hslot hne, if_pos rfl]

section Outside

variable {b : BufferId} (hb : s.Outside m b)
include hb

theorem Outside.ne_current (hslot : s.slot? m position = some current) : b ≠ current := fun he =>
  hb.2 (he ▸ List.mem_of_getElem? hslot)

/-- **An assignment puts a new buffer into the slot**, so what was outside stays outside. -/
theorem Outside.assign (h : s.Sound) (hslot : s.slot? m position = some current) (hne : value ≠ some current) :
    (s.assign m position value).Outside m b := by
  refine ⟨Nat.lt_of_lt_of_le hb.1 (Reaches.grows (reaches_assign h.toSlotted m position value) h).buffers_le, fun hmem => ?_⟩
  rw [slots_assign hslot hne] at hmem
  exact (List.mem_or_eq_of_mem_set hmem).elim hb.2 (Nat.ne_of_lt hb.1)

theorem Outside.contents_assign (h : s.Sound) (hslot : s.slot? m position = some current) (hne : value ≠ some current) :
    (s.assign m position value).contents b = if value = some b then [] else s.contents b := by
  rw [Store.contents_assign h hslot hne, if_neg (hb.ne_current hslot), if_neg (Nat.ne_of_lt hb.1)]

theorem Outside.buffer_assign (hslot : s.slot? m position = some current) (hne : value ≠ some current)
    (hvalue : value ≠ some b) : (s.assign m position value).buffer b = s.buffer b :=
  buffer_assign_of_ne hslot hne (hb.ne_current hslot) (Nat.ne_of_lt hb.1) hvalue

end Outside

/-- The slots behind one that is assigned are as empty as they were. -/
theorem empty_behind_assign (h : s.Sound) (hslot : s.slot? m position = some current)
    (hforeign : ∀ c ∈ (s.message m).slots, value ≠ some c)
    (hempty : ∀ p c, position ≤ p → s.slot? m p = some c → s.buffer c = {}) : ∀ p c, position + 1 ≤ p →
      (s.assign m position value).slot? m p = some c → (s.assign m position value).buffer c = {} := by
  intro p c hp hc
  have hne := hforeign current (List.mem_of_getElem? hslot)
  rw [slot?, slots_assign hslot hne, List.getElem?_set_ne (by omega)] at hc
  have hmem : c ∈ (s.message m).slots := List.mem_of_getElem? hc
  have hdistinct : c ≠ current := fun he => by
    have hsame := (h.slot_unique m m position p current hslot (he ▸ hc)).2
    omega
  rw [buffer_assign_of_ne hslot hne hdistinct (Nat.ne_of_lt (h.slot_lt m c hmem)) (hforeign c hmem)]
  exact hempty p c (by omega) hc

end Slot

/-! ## Rows of assignments -/

/-- **What an argument in a row gives**: what its buffer holds, unless the buffer stands before it in the row. -/
def offer (s : Store) (values : List (Option BufferId)) (position : Nat) : Bytes :=
  match values[position]? with
  | some (some b) => if some b ∈ values.take position then [] else s.contents b
  | _ => []

theorem offer_zero (value : Option BufferId) (rest : List (Option BufferId)) :
    s.offer (value :: rest) 0 = s.given value := by
  cases value with
  | none => rfl
  | some b => rfl

/-- Once the first of a row has been taken, the others give what they gave behind it. -/
theorem offer_succ {value : Option BufferId} {rest : List (Option BufferId)}
    (h : ∀ b, some b ∈ rest → s'.contents b = if value = some b then [] else s.contents b) (position : Nat) :
    s.offer (value :: rest) (position + 1) = s'.offer rest position := by
  unfold offer
  rw [List.getElem?_cons_succ, List.take_succ_cons]
  cases hvalue : rest[position]? with
  | none => rfl
  | some found =>
    cases found with
    | none => rfl
    | some b =>
      dsimp only
      rw [h b (List.mem_of_getElem? hvalue)]
      by_cases hfirst : value = some b
      · rw [if_pos hfirst, if_pos (hfirst ▸ List.mem_cons_self), ite_self]
      · have hmem : some b ∈ value :: rest.take position ↔ some b ∈ rest.take position :=
          ⟨fun hb => (List.mem_cons.1 hb).resolve_left (Ne.symm hfirst), List.mem_cons_of_mem _⟩
        simp only [if_neg hfirst, hmem]

/-- What a row of arguments gives, one after the other. -/
def offers (s : Store) (values : List (Option BufferId)) : List Bytes := (List.range values.length).map (s.offer values)

theorem offers_cons {value : Option BufferId} {rest : List (Option BufferId)}
    (h : ∀ b, some b ∈ rest → s'.contents b = if value = some b then [] else s.contents b) :
    s.offers (value :: rest) = s.given value :: s'.offers rest := by
  rw [offers, List.length_cons, List.range_succ_eq_map, List.map_cons, List.map_map, offer_zero]
  exact congrArg _ (List.map_congr_left fun position _ => offer_succ h position)

/-- **A row of buffers moved into slots of a message** that were empty, from one position on. -/
structure Filled (s : Store) (m : MessageId) (position : Nat) (values : List (Option BufferId)) (s' : Store) : Prop where
  said : s'.envelope m = { s.envelope m with
    fields := (s.envelope m).fields.take position ++ s.offers values ++
      (s.envelope m).fields.drop (position + values.length) }
  emptied : ∀ b, some b ∈ values → s'.buffer b = {}
  others : ∀ b, s.Outside m b → some b ∉ values → s'.buffer b = s.buffer b
  blocks : ∀ i, s'.block i = s.block i
  messages : ∀ x, x ≠ m → s'.message x = s.message x

/-- **Assigning a row fills the slots with it**, if the buffers are not the message's own. -/
theorem assignAll_filled (m : MessageId) : ∀ (values : List (Option BufferId)) (position : Nat) {s : Store}, s.Sound →
    position + values.length ≤ (s.message m).slots.length → (∀ b, some b ∈ values → s.Outside m b) →
    (∀ p c, position ≤ p → s.slot? m p = some c → s.buffer c = {}) → s.Filled m position values (s.assignAll m position values)
  | [], position, s, _, _, _, _ => ⟨by simp [assignAll, offers], nofun, fun _ _ _ => rfl, fun _ => rfl, fun _ _ => rfl⟩
  | value :: rest, position, s, h, hfit, hvalues, hempty => by
    rw [List.length_cons] at hfit
    obtain ⟨current, hslot⟩ : ∃ current, s.slot? m position = some current :=
      ⟨_, List.getElem?_eq_getElem (show position < (s.message m).slots.length by omega)⟩
    have hforeign : ∀ c ∈ (s.message m).slots, value ≠ some c := fun c hc hv =>
      (hvalues c (hv ▸ List.mem_cons_self)).2 hc
    have hne := hforeign current (List.mem_of_getElem? hslot)
    have hcurrent := hempty position current (Nat.le_refl _) hslot
    have hblocks : ∀ i, (s.assign m position value).block i = s.block i := fun i => by
      rw [block_assign h hslot hne, hcurrent, if_neg (Option.some_ne_none i).symm]
    have hothers : ∀ b, some b ∈ rest → s.Outside m b := fun b hb => hvalues b (List.mem_cons_of_mem _ hb)
    -- the others still find empty slots behind this one, and their buffers still outside
    have hrest := assignAll_filled m rest (position + 1) (Reaches.sound (reaches_assign h.toSlotted m position value) h)
      (by rw [length_slots_assign]; omega) (fun b hb => (hothers b hb).assign h hslot hne)
      (empty_behind_assign h hslot hforeign hempty)
    refine ⟨?_, fun b hb => ?_, fun b hb hnot => ?_, fun i => (hrest.blocks i).trans (hblocks i), fun x hx => ?_⟩
    · have hsaid := envelope_assign h hslot hne m
      rw [if_pos rfl, fieldsWithout_of_not_mem hforeign] at hsaid
      have hset := take_append_drop_set (s.given value) ((s.assign m position value).offers rest)
        (show position < (s.envelope m).fields.length by rw [envelope, List.length_map]; omega)
      rw [List.length_cons, offers, List.length_map, List.length_range, ← offers] at hset
      show ((s.assign m position value).assignAll m (position + 1) rest).envelope m = _
      rw [hrest.said, hsaid, offers_cons fun b hb => (hothers b hb).contents_assign h hslot hne, List.length_cons, ← hset]
    · by_cases hb' : some b ∈ rest
      · exact hrest.emptied b hb'
      · obtain rfl := (List.mem_cons.1 hb).resolve_right hb'
        have houtside := hvalues b List.mem_cons_self
        refine (hrest.others b (houtside.assign h hslot hne) hb').trans ?_
        rw [buffer_assign hslot hne, if_neg (houtside.ne_current hslot), if_neg (Nat.ne_of_lt houtside.1), if_pos rfl]
    · rw [List.mem_cons, not_or] at hnot
      exact (hrest.others b (hb.assign h hslot hne) hnot.2).trans (hb.buffer_assign hslot hne (Ne.symm hnot.1))
    · exact (hrest.messages x hx).trans (by rw [message_assign hslot hne, if_neg hx])

/-- Behind the last argument there is nothing to give. -/
theorem map_offer_range (s : Store) {values : List (Option BufferId)} {count : Nat} (h : values.length ≤ count) :
    (List.range count).map (s.offer values) = s.offers values ++ List.replicate (count - values.length) [] := by
  obtain ⟨more, rfl⟩ := Nat.exists_eq_add_of_le h
  rw [List.range_add, List.map_append, ← offers, Nat.add_sub_cancel_left]
  refine congrArg _ (List.eq_replicate_iff.2 ⟨by simp, fun content hc => ?_⟩)
  obtain ⟨position, hposition, rfl⟩ := List.mem_map.1 hc
  obtain ⟨extra, -, rfl⟩ := List.mem_map.1 hposition
  rw [offer, List.getElem?_eq_none (Nat.le_add_right _ _)]

/-! ## Whole messages -/

theorem construct_of_error {kind : Kind} {userId : Int} {values : List (Option BufferId)} {e : CodecError}
    (hfilled : values.length ≤ kind.filled) (huser : checkUserId userId = .error e) :
    s.construct kind Status.ok.number userId values = .error e := by
  simp only [construct, Status.ofNumber_number, bind, Except.bind, huser]
  rw [if_neg (Nat.not_lt.2 hfilled)]

/-- A message made from no buffers is a new message. -/
theorem construct_nil (h : s.Sound) (kind : Kind) : ∃ s',
    s.construct kind Status.ok.number 0 [] = .ok (s.messages.length, s') ∧
    s'.envelope s.messages.length = Envelope.blank kind := by
  obtain ⟨hm, -, hlt, hblank, -⟩ := newMessage_spec h kind
  refine ⟨(s.newMessage kind).2.setMessage s.messages.length
    { (s.newMessage kind).2.message s.messages.length with status := .ok, userId := 0 }, ?_, ?_⟩
  · simp only [construct, Status.ofNumber_number, bind, Except.bind, checkUserId, hm, assignAll, pure, Except.pure]
    rfl
  · rw [envelope_label hlt, if_pos rfl, hblank]
    rfl

/-- **A message as it stands before its arguments move in**: new and marked, in empty slots of its own. -/
structure Marked (s : Store) (kind : Kind) (status : Status) (userId : Nat) (s' : Store) : Prop where
  sound : s'.Sound
  said : s'.envelope s.messages.length =
    { kind := kind, status := status, userId := userId, fields := List.replicate kind.fields.length [] }
  slots : (s'.message s.messages.length).slots = List.range' s.buffers.length kind.fields.length
  messages : ∀ m, m ≠ s.messages.length → s'.message m = s.message m
  buffers_le : s.buffers.length ≤ s'.buffers.length
  buffer : ∀ b, s'.buffer b = s.buffer b
  block : ∀ i, s'.block i = s.block i

section Marked

variable {kind : Kind} {status : Status} {userId : Nat}

theorem Marked.contents (h : s.Marked kind status userId s') (b : BufferId) : s'.contents b = s.contents b :=
  contents_of_buffer_eq (congrArg Buffer.block (h.buffer b)) fun i _ => h.block i

theorem Marked.outside (h : s.Marked kind status userId s') {b : BufferId} (hb : b < s.buffers.length) :
    s'.Outside s.messages.length b := by
  refine ⟨Nat.lt_of_lt_of_le hb h.buffers_le, fun hmem => ?_⟩
  rw [h.slots, List.mem_range'_1] at hmem
  exact Nat.not_lt.2 hmem.1 hb

/-- The slots of a new message are buffers that came with it, so they are empty. -/
theorem Marked.empty (h : s.Marked kind status userId s') {position : Nat} {b : BufferId}
    (hslot : s'.slot? s.messages.length position = some b) : s'.buffer b = {} := by
  have hmem := List.mem_of_getElem? (show (s'.message s.messages.length).slots[position]? = some b from hslot)
  rw [h.slots, List.mem_range'_1] at hmem
  rw [h.buffer, s.buffer_of_length_le hmem.1]

theorem marked_newMessage (h : s.Sound) (kind : Kind) (status : Status) (huser : userId ≤ Word.largest) :
    s.Marked kind status userId ((s.newMessage kind).2.setMessage s.messages.length
      { (s.newMessage kind).2.message s.messages.length with status := status, userId := userId }) := by
  obtain ⟨-, hnew, hlt, hblank, -⟩ := newMessage_spec h kind
  refine ⟨Reaches.sound (hnew.tail (.label s.messages.length status huser)) h, ?_, ?_, fun m hm => ?_,
    (Reaches.grows hnew h).buffers_le, s.buffer_newMessage kind, fun i => ?_⟩
  · rw [envelope_label hlt, if_pos rfl, hblank]
    simp only [Envelope.blank, List.map_const']
  · rw [slots_label, message_newMessage, if_pos rfl]
  · rw [message_setMessage, if_neg fun he => hm he.1, message_newMessage, if_neg hm]
  · exact congrArg (·.getD i []) (newBuffers_spec kind.fields.length s).2.2.2.2.1

end Marked

/-- **A message made from a caller's buffers**: each field holds what its argument gives, the buffers that were passed
hold nothing, and every block, every other buffer and every other message is as it was. -/
structure Made (s : Store) (kind : Kind) (status : Status) (userId : Nat) (values : List (Option BufferId)) (s' : Store) :
    Prop where
  said : s'.envelope s.messages.length =
    { kind := kind, status := status, userId := userId, fields := (List.range kind.fields.length).map (s.offer values) }
  emptied : ∀ b, some b ∈ values → s'.contents b = []
  blocks : ∀ i, s'.block i = s.block i
  others : ∀ x, x < s.buffers.length → some x ∉ values → s'.buffer x = s.buffer x ∧ s'.contents x = s.contents x
  messages : ∀ m, m ≠ s.messages.length → s'.message m = s.message m

/-- **Making a message moves its arguments in**, in their order, and wipes nothing. -/
theorem construct_made (h : s.Sound) {kind : Kind} (status : Status) {userId : Nat} {values : List (Option BufferId)}
    (huser : userId ≤ Word.largest) (hfilled : values.length ≤ kind.filled) (hfit : values.length ≤ kind.fields.length)
    (hvalues : ∀ b, some b ∈ values → b < s.buffers.length) : ∃ s',
    s.construct kind status.number userId values = .ok (s.messages.length, s') ∧ s.Made kind status userId values s' := by
  have hid : (s.newMessage kind).1 = s.messages.length := (newMessage_spec h kind).1
  have hcheck : checkUserId userId = .ok userId := if_pos ⟨Int.natCast_nonneg _, Int.ofNat_le.2 huser⟩
  have hmarked := marked_newMessage h kind status huser
  generalize hlabelled : (s.newMessage kind).2.setMessage s.messages.length
    { (s.newMessage kind).2.message s.messages.length with status := status, userId := userId } = labelled at hmarked
  have hfilling := assignAll_filled s.messages.length values 0 hmarked.sound
    (by rw [hmarked.slots, List.length_range', Nat.zero_add]; exact hfit) (fun b hb => hmarked.outside (hvalues b hb))
    fun p c _ => hmarked.empty
  have hblocks : ∀ i, (labelled.assignAll s.messages.length 0 values).block i = s.block i := fun i =>
    (hfilling.blocks i).trans (hmarked.block i)
  have hoffer : labelled.offer values = s.offer values := funext fun position => by
    unfold offer
    simp only [hmarked.contents]
  refine ⟨labelled.assignAll s.messages.length 0 values, ?_, ?_, fun b hb => contents_of_empty (hfilling.emptied b hb),
    hblocks, fun x hx hnot => ?_, fun m hm => (hfilling.messages m hm).trans (hmarked.messages m hm)⟩
  · simp only [construct, Status.ofNumber_number, bind, Except.bind, hcheck, hid, pure, Except.pure, hlabelled]
    rw [if_neg (Nat.not_lt.2 hfilled)]
  · rw [hfilling.said, hmarked.said, map_offer_range s hfit]
    simp [offers, hoffer]
  · have hbuffer := (hfilling.others x (hmarked.outside hx) hnot).trans (hmarked.buffer x)
    exact ⟨hbuffer, contents_of_buffer_eq (congrArg Buffer.block hbuffer) fun i _ => hblocks i⟩

/-- Buffers that are all different give what they hold. -/
theorem offer_of_nodup {values : List BufferId} (hnodup : values.Nodup) :
    (List.range values.length).map (s.offer (values.map some)) = values.map s.contents := by
  refine List.ext_getElem (by simp) fun position _ hposition => ?_
  rw [List.length_map] at hposition
  have hvalue : (values.map some)[position]? = some (some values[position]) := by
    rw [List.getElem?_map, List.getElem?_eq_getElem hposition]
    rfl
  have hfirst : some values[position] ∉ (values.map some).take position := by
    rw [← List.map_take, List.mem_map]
    rintro ⟨b, hb, he⟩
    obtain ⟨earlier, hearlier, hb⟩ := List.mem_take_iff_getElem.1 hb
    have hsame := (List.getElem_inj hnodup).1 (hb.trans (Option.some.inj he))
    omega
  rw [List.getElem_map, List.getElem_range, List.getElem_map, offer, hvalue]
  exact if_neg hfirst

/-- **A message made from a loose buffer for each field** is in order, has the user id, and says what the buffers held. -/
theorem construct_spec (h : s.Sound) {kind : Kind} {userId : Int} {user : Nat} {values : List BufferId}
    (huser : checkUserId userId = .ok user) (hfilled : values.length ≤ kind.filled)
    (hcount : values.length = kind.fields.length) (hnodup : values.Nodup) (hloose : ∀ b ∈ values, s.Loose b) : ∃ s',
    s.construct kind Status.ok.number userId (values.map some) = .ok (s.messages.length, s') ∧ Reaches s s' ∧
    s.messages.length < s'.messages.length ∧
    s'.envelope s.messages.length = { kind := kind, userId := user, fields := values.map s.contents } ∧
    ∀ m, m < s.messages.length → s'.envelope m = s.envelope m := by
  have hloose' : ∀ b, some b ∈ values.map some → s.Loose b := fun b hb => by
    obtain ⟨value, hvalue, he⟩ := List.mem_map.1 hb
    exact Option.some.inj he ▸ hloose value hvalue
  obtain ⟨s', hs', hmade⟩ := construct_made h .ok (checkUserId_le huser) (by rwa [List.length_map])
    (Nat.le_of_eq ((List.length_map some).trans hcount)) fun b hb => (hloose' b hb).1
  rw [← eq_of_checkUserId huser] at hs'
  obtain ⟨hreach, hlt⟩ := reaches_construct h hs'
  refine ⟨s', hs', hreach, hlt, ?_, fun m hm => envelope_of_eq (hmade.messages m (Nat.ne_of_lt hm)) fun b hb => ?_⟩
  · rw [hmade.said, ← hcount, offer_of_nodup hnodup]
  · exact (hmade.others b (h.slot_lt m b hb) fun hmem => (hloose' b hmem).2 m hb).2

end Store
end PasswordGate

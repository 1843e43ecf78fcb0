import PasswordGate.Proofs.Codec.Envelope
import PasswordGate.Proofs.Store.Ownership
/-!
# Operations — every operation on buffers and messages is a row of single changes

One lemma for each operation: it leads from a store to what it leaves by ticks (`Reaches`).  So whatever holds of every
tick holds of every operation.  Operations that put a buffer into a slot need the slots to be in order, since the buffer
they put there has to be one that no message holds.
-/
namespace PasswordGate
namespace Store

open Relation (ReflTransGen)

variable {s s' : Store}

/-! ## Buffers -/

theorem vacant_newBuffer (s : Store) : s.newBuffer.2.Vacant s.buffers.length :=
  ⟨by rw [length_buffers_newBuffer]; exact Nat.lt_succ_self _,
    by rw [buffer_newBuffer, s.buffer_of_length_le (Nat.le_refl _)]⟩

theorem reaches_newBuffer (s : Store) : Reaches s s.newBuffer.2 := .single .buffer

theorem reaches_newStorage (s : Store) {data : Bytes} (hne : data ≠ []) (hle : data.length ≤ Word.largest) :
    Reaches s ((s.newBuffer.2.newBlock data).2.adopt s.buffers.length s.blocks.length) :=
  .tail s.reaches_newBuffer (.storage s.vacant_newBuffer hne hle)

theorem reaches_allocate {length : Int} {b : BufferId} (h : s.allocate length = .ok (b, s')) :
    Reaches s s' ∧ b < s'.buffers.length := by
  unfold allocate at h
  split at h
  · rename_i hlength
    dsimp only at h
    split at h
    · cases h
      exact ⟨s.reaches_newBuffer, s.vacant_newBuffer.1⟩
    · rename_i hne
      cases h
      have hlen : (Bytes.zeros length.toNat).length = length.toNat := Bytes.length_zeros _
      refine ⟨s.reaches_newStorage (fun hnil => ?_) (by omega), ?_⟩
      · rw [hnil] at hlen
        simp only [List.length_nil] at hlen
        omega
      · rw [adopt, length_buffers_setBuffer]
        exact s.vacant_newBuffer.1
  · cases h

theorem copyOf_nil (s : Store) : s.copyOf [] = .ok (s.buffers.length, s.newBuffer.2) := by
  have hempty := s.vacant_newBuffer.2
  simp only [copyOf, allocate, List.length_nil, bind, Except.bind, pure, Except.pure]
  rw [if_pos ⟨Int.le_refl _, by decide⟩]
  simp only [Int.natCast_zero, if_true, fst_newBuffer, fill, hempty]

/-- **A copy is a new buffer with new storage that holds the data.** -/
theorem copyOf_of_ne_nil (s : Store) {data : Bytes} (hne : data ≠ []) (hle : data.length ≤ Word.largest) :
    s.copyOf data =
      .ok (s.buffers.length, (s.newBuffer.2.newBlock data).2.adopt s.buffers.length s.blocks.length) := by
  have hpos : 0 < data.length := List.length_pos_iff.2 hne
  have hv : ∀ zeroed, (s.newBuffer.2.newBlock zeroed).2.Vacant s.buffers.length := fun _ => s.vacant_newBuffer
  simp only [copyOf, allocate, bind, Except.bind, pure, Except.pure]
  rw [if_pos ⟨by omega, by omega⟩, if_neg (by omega)]
  simp only [fst_newBuffer, fill, fst_newBlock, Except.ok.injEq, Prod.mk.injEq, true_and]
  rw [show s.newBuffer.2.blocks.length = s.blocks.length from rfl, adopt, buffer_setBuffer, if_pos ⟨rfl, (hv _).1⟩]
  simp only [adopt, newBlock, newBuffer, setBuffer, Int.toNat_natCast]
  rw [List.set_append_right _ _ (Nat.le_refl _), Nat.sub_self, List.set_cons_zero]

theorem copyOf_of_gt (s : Store) {data : Bytes} (h : Word.largest < data.length) :
    s.copyOf data = .error (.lengthOutOfRange data.length) := by
  simp only [copyOf, allocate, bind, Except.bind]
  rw [if_neg (by omega)]

theorem exists_copyOf (s : Store) {data : Bytes} (h : data.length ≤ Word.largest) :
    ∃ b s', s.copyOf data = .ok (b, s') := by
  by_cases hne : data = []
  · subst hne
    exact ⟨_, _, s.copyOf_nil⟩
  · exact ⟨_, _, s.copyOf_of_ne_nil hne h⟩

/-- **What a copy leaves**: a new buffer, and new storage that it owns if there is anything to hold. -/
theorem copyOf_cases {data : Bytes} {b : BufferId} (h : s.copyOf data = .ok (b, s')) :
    b = s.buffers.length ∧ ((data = [] ∧ s' = s.newBuffer.2) ∨ (data ≠ [] ∧ data.length ≤ Word.largest ∧
      s' = (s.newBuffer.2.newBlock data).2.adopt s.buffers.length s.blocks.length)) := by
  by_cases hle : data.length ≤ Word.largest
  · by_cases hne : data = []
    · subst hne
      rw [copyOf_nil] at h
      cases h
      exact ⟨rfl, .inl ⟨rfl, rfl⟩⟩
    · rw [copyOf_of_ne_nil s hne hle] at h
      cases h
      exact ⟨rfl, .inr ⟨hne, hle, rfl⟩⟩
  · rw [copyOf_of_gt s (Nat.lt_of_not_le hle)] at h
    cases h

theorem reaches_copyOf {data : Bytes} {b : BufferId} (h : s.copyOf data = .ok (b, s')) :
    Reaches s s' ∧ b < s'.buffers.length := by
  obtain ⟨rfl, ⟨rfl, rfl⟩ | ⟨hne, hle, rfl⟩⟩ := copyOf_cases h
  · exact ⟨s.reaches_newBuffer, s.vacant_newBuffer.1⟩
  · refine ⟨s.reaches_newStorage hne hle, ?_⟩
    rw [adopt, length_buffers_setBuffer]
    exact s.vacant_newBuffer.1

/-- A copy is in the next new buffer, and no other buffer has changed. -/
theorem copyOf_buffers {data : Bytes} {b : BufferId} (h : s.copyOf data = .ok (b, s')) : b = s.buffers.length ∧
    s'.buffers.length = s.buffers.length + 1 ∧ s'.messages = s.messages ∧ ∀ x, x ≠ b → s'.buffer x = s.buffer x := by
  obtain ⟨rfl, ⟨rfl, rfl⟩ | ⟨-, -, rfl⟩⟩ := copyOf_cases h
  · exact ⟨rfl, s.length_buffers_newBuffer, rfl, fun x _ => s.buffer_newBuffer x⟩
  · refine ⟨rfl, ?_, rfl, fun x hx => ?_⟩
    · rw [adopt, length_buffers_setBuffer]
      exact s.length_buffers_newBuffer
    · exact (buffer_storage data s.vacant_newBuffer x).trans ((if_neg hx).trans (s.buffer_newBuffer x))

/-- A copy leaves the blocks that there were as they are. -/
theorem block_copyOf {data : Bytes} {b : BufferId} (h : s.copyOf data = .ok (b, s')) {i : BlockId}
    (hi : i < s.blocks.length) : s'.block i = s.block i := by
  obtain ⟨rfl, ⟨rfl, rfl⟩ | ⟨-, -, rfl⟩⟩ := copyOf_cases h
  · exact s.block_newBuffer i
  · exact (block_storage i).trans (if_neg (Nat.ne_of_lt hi))

theorem reaches_take (s : Store) (b : BufferId) : Reaches s (s.take b).2 :=
  .tail s.reaches_newBuffer (.move b s.vacant_newBuffer)

@[simp] theorem messages_take (s : Store) (b : BufferId) : (s.take b).2.messages = s.messages := by
  simp only [take, disown, messages_receive, messages_setBuffer]
  rfl

@[simp] theorem message_take (s : Store) (b : BufferId) (m : MessageId) : (s.take b).2.message m = s.message m := by
  rw [message, message, messages_take]

@[simp] theorem length_buffers_take (s : Store) (b : BufferId) : (s.take b).2.buffers.length = s.buffers.length + 1 := by
  simp only [take, disown, length_buffers_receive, length_buffers_setBuffer, length_buffers_newBuffer]

theorem reaches_release (s : Store) (b : BufferId) : Reaches s (s.release b) := .single (.release b)

theorem reaches_releaseAll : ∀ (buffers : List BufferId) (s : Store), Reaches s (s.releaseAll buffers)
  | [], _ => .refl
  | b :: rest, s => .head (.release b) (reaches_releaseAll rest (s.release b))

theorem reaches_moveFrom {b : BufferId} (hb : b < s.buffers.length) (other : BufferId) :
    Reaches s (s.moveFrom b other) := by
  unfold moveFrom
  split
  · exact .refl
  · refine .tail (s.reaches_release b) (.move other ⟨?_, ?_⟩)
    · rw [length_buffers_release]
      exact hb
    · rw [buffer_release, if_pos rfl]

/-! ## Messages -/

/-- New buffers have the numbers from the first free one on, and hold nothing. -/
theorem newBuffers_spec : ∀ (count : Nat) (s : Store), Reaches s (s.newBuffers count).2 ∧
    (s.newBuffers count).1 = List.range' s.buffers.length count ∧
    (s.newBuffers count).2.buffers.length = s.buffers.length + count ∧
    (s.newBuffers count).2.messages = s.messages ∧ (s.newBuffers count).2.blocks = s.blocks ∧
    ∀ b, (s.newBuffers count).2.buffer b = s.buffer b
  | 0, s => ⟨.refl, rfl, rfl, rfl, rfl, fun _ => rfl⟩
  | count + 1, s => by
    obtain ⟨hreach, hids, hlen, hmessages, hblocks, hbuffer⟩ := newBuffers_spec count s.newBuffer.2
    refine ⟨.head .buffer hreach, ?_, ?_, hmessages, hblocks, fun b => (hbuffer b).trans (s.buffer_newBuffer b)⟩
    · show s.buffers.length :: (s.newBuffer.2.newBuffers count).1 = _
      rw [hids, length_buffers_newBuffer, List.range'_succ]
    · show (s.newBuffer.2.newBuffers count).2.buffers.length = _
      rw [hlen, length_buffers_newBuffer]
      omega

theorem Slotted.loose_of_le (h : s.Slotted) {b : BufferId} (hm : ∀ m, s'.message m = s.message m)
    (hle : s.buffers.length ≤ b) (hlt : b < s'.buffers.length) : s'.Loose b :=
  ⟨hlt, fun m hb => by
    rw [hm] at hb
    exact absurd (h.slot_lt m b hb) (Nat.not_lt.2 hle)⟩

theorem reaches_newMessage (h : s.Slotted) (kind : Kind) : Reaches s (s.newMessage kind).2 := by
  obtain ⟨hreach, hids, hlen, hmessages, -, -⟩ := newBuffers_spec kind.fields.length s
  have hmessage : ∀ m, (s.newBuffers kind.fields.length).2.message m = s.message m := fun m => by
    rw [message, message, hmessages]
  have htick : (s.newBuffers kind.fields.length).2.Tick { (s.newBuffers kind.fields.length).2 with
      messages := (s.newBuffers kind.fields.length).2.messages ++
        [{ kind := kind, slots := (s.newBuffers kind.fields.length).1 }] } := by
    refine .message (fun b hb => ?_) ?_ ?_ (Nat.zero_le _)
    · rw [hids, List.mem_range'_1] at hb
      exact h.loose_of_le hmessage hb.1 (by rw [hlen]; exact hb.2)
    · rw [hids]
      exact List.nodup_range'
    · rw [hids, List.length_range']
  exact .tail hreach htick

theorem reaches_setStatus (h : s.Slotted) (m : MessageId) (status : Status) : Reaches s (s.setStatus m status) :=
  .single (.label m status (h.userId_le m))

theorem checkUserId_le {userId : Int} {n : Nat} (h : checkUserId userId = .ok n) : n ≤ Word.largest := by
  unfold checkUserId at h
  split at h
  · cases h
    omega
  · cases h

theorem eq_of_checkUserId {userId : Int} {n : Nat} (h : checkUserId userId = .ok n) : userId = n := by
  unfold checkUserId at h
  split at h
  · cases h
    omega
  · cases h

theorem reaches_setUserId {m : MessageId} {userId : Int} (h : s.setUserId m userId = .ok s') : Reaches s s' := by
  cases hc : checkUserId userId with
  | error e => simp [setUserId, hc, bind, Except.bind] at h
  | ok n =>
    simp only [setUserId, hc, bind, Except.bind, pure, Except.pure, Except.ok.injEq] at h
    subst h
    exact .single (.label m (s.message m).status (checkUserId_le hc))

/-- What is on its way into a slot is in a new buffer that no message holds. -/
theorem incoming_spec (s : Store) (value : Option BufferId) : (s.incoming value).1 = s.buffers.length ∧
    Reaches s (s.incoming value).2 ∧ (s.incoming value).2.buffers.length = s.buffers.length + 1 ∧
    ∀ m, (s.incoming value).2.message m = s.message m := by
  cases value with
  | none => exact ⟨rfl, s.reaches_newBuffer, length_buffers_newBuffer s, fun _ => rfl⟩
  | some b => exact ⟨rfl, s.reaches_take b, length_buffers_take s b, fun m => message_take s b m⟩

theorem assign_eq {m : MessageId} {position : Nat} {value : Option BufferId} {current : BufferId}
    (hslot : s.slot? m position = some current) (hne : value ≠ some current) :
    s.assign m position value = ((s.incoming value).2.release current).setSlot m position s.buffers.length := by
  rw [assign, hslot]
  simp only
  rw [if_neg hne, (incoming_spec s value).1]

theorem reaches_assign (h : s.Slotted) (m : MessageId) (position : Nat) (value : Option BufferId) :
    Reaches s (s.assign m position value) := by
  cases hslot : s.slot? m position with
  | none =>
    rw [assign, hslot]
  | some current =>
    by_cases heq : value = some current
    · rw [assign, hslot]
      simp only
      rw [if_pos heq]
    · obtain ⟨-, hreach, hlen, hmessage⟩ := incoming_spec s value
      rw [assign_eq hslot heq]
      refine .tail (.tail hreach (.release current)) (.slot m position (h.loose_of_le (fun x => ?_) (Nat.le_refl _) ?_))
      · rw [message_release, hmessage]
      · rw [length_buffers_release, hlen]
        exact Nat.lt_succ_self _

theorem reaches_assignAll (m : MessageId) : ∀ (values : List (Option BufferId)) (position : Nat) {s : Store}, s.Sound →
    Reaches s (s.assignAll m position values)
  | [], _, _, _ => .refl
  | value :: rest, position, s, h => by
    have hreach := reaches_assign h.toSlotted m position value
    exact hreach.trans (reaches_assignAll m rest (position + 1) (Reaches.sound hreach h))

/-- **A construction that is not refused** labels a new message and assigns the buffers to its slots. -/
theorem exists_of_construct {kind : Kind} {status userId : Int} {values : List (Option BufferId)} {m : MessageId}
    (hc : s.construct kind status userId values = .ok (m, s')) : ∃ (verdict : Status) (user : Nat),
      user ≤ Word.largest ∧ values.length ≤ kind.filled ∧ m = (s.newMessage kind).1 ∧
      s' = ((s.newMessage kind).2.setMessage m
        { (s.newMessage kind).2.message m with status := verdict, userId := user }).assignAll m 0 values := by
  cases hstatus : Status.ofNumber status with
  | error e => simp [construct, hstatus, bind, Except.bind] at hc
  | ok verdict =>
    cases huser : checkUserId userId with
    | error e =>
      simp only [construct, hstatus, huser, bind, Except.bind] at hc
      split at hc <;> cases hc
    | ok user =>
      simp only [construct, hstatus, huser, bind, Except.bind, pure, Except.pure] at hc
      split at hc
      · cases hc
      · rename_i hfits
        cases hc
        exact ⟨verdict, user, checkUserId_le huser, Nat.le_of_not_lt hfits, rfl, rfl⟩

/-- **A message made from a caller's buffers**, unless its arguments are refused. -/
theorem reaches_construct (h : s.Sound) {kind : Kind} {status userId : Int} {values : List (Option BufferId)}
    {m : MessageId} (hc : s.construct kind status userId values = .ok (m, s')) :
    Reaches s s' ∧ m < s'.messages.length := by
  obtain ⟨verdict, user, huser, -, rfl, rfl⟩ := exists_of_construct hc
  have hnew := reaches_newMessage h.toSlotted kind
  have hlabel := hnew.tail (.label (s.newMessage kind).1 verdict huser)
  have hall := reaches_assignAll (s.newMessage kind).1 values 0 (Reaches.sound hlabel h)
  refine ⟨hlabel.trans hall, Nat.lt_of_lt_of_le ?_ (Reaches.grows hall (Reaches.sound hlabel h)).messages_le⟩
  rw [length_messages_setMessage]
  obtain ⟨-, -, -, hmessages, -⟩ := newBuffers_spec kind.fields.length s
  simp [newMessage, hmessages]

theorem reaches_releaseMessage (s : Store) (m : MessageId) : Reaches s (s.releaseMessage m) := reaches_releaseAll _ s

theorem reaches_install (m : MessageId) : ∀ (contents : List Bytes) (position : Nat) {s s' : Store}, s.Sound →
    s.install m position contents = .ok s' → Reaches s s'
  | [], _, _, _, _, hi => by
    cases hi
    exact .refl
  | content :: rest, position, s, s', h, hi => by
    unfold install at hi
    cases hc : s.copyOf content with
    | error e => simp [hc, bind, Except.bind] at hi
    | ok copy =>
      simp only [hc, bind, Except.bind] at hi
      obtain ⟨hcopy, -⟩ := reaches_copyOf hc
      have hassign := reaches_assign (Reaches.sound hcopy h).toSlotted m position (some copy.1)
      have hreach := hcopy.trans hassign
      exact hreach.trans (reaches_install m rest (position + 1) (Reaches.sound hreach h) hi)

theorem reaches_setUser (s : Store) (m : MessageId) {userId : Nat} (huser : userId ≤ Word.largest) :
    Reaches s (s.setMessage m { s.message m with userId := userId }) := .single (.label m (s.message m).status huser)

/-- A payload that is accepted is installed once the fields have been released. -/
theorem exists_install_of_accept {m : MessageId} {userId : Nat} {contents : List Bytes} {complete : Bool}
    (ha : s.accept m (.payload userId contents complete) = .ok s') : ∃ installed,
      ((s.setMessage m { s.message m with userId := userId }).releaseMessage m).install m 0 contents = .ok installed ∧
      s' = installed.setStatus m (if complete then .ok else .invalid) := by
  unfold accept at ha
  cases hi : ((s.setMessage m { s.message m with userId := userId }).releaseMessage m).install m 0 contents with
  | error e => simp [hi, bind, Except.bind] at ha
  | ok installed =>
    simp only [hi, bind, Except.bind, pure, Except.pure, Except.ok.injEq] at ha
    exact ⟨installed, rfl, ha.symm⟩

/-- What a payload does to a message once its fields have been released. -/
theorem reaches_accept_payload (h : s.Sound) {m : MessageId} {userId : Nat} {contents : List Bytes} {complete : Bool}
    (huser : userId ≤ Word.largest) (ha : s.accept m (.payload userId contents complete) = .ok s') :
    Reaches ((s.setMessage m { s.message m with userId := userId }).releaseMessage m) s' := by
  have hreleased := (reaches_setUser s m huser).trans (reaches_releaseMessage _ m)
  have hsound := Reaches.sound hreleased h
  obtain ⟨installed, hi, rfl⟩ := exists_install_of_accept ha
  have hinstalled := reaches_install m contents 0 hsound hi
  exact hinstalled.trans (reaches_setStatus (Reaches.sound hinstalled hsound).toSlotted m _)

theorem reaches_accept (h : s.Sound) {m : MessageId} {decoded : Decoded}
    (huser : ∀ userId contents complete, decoded = .payload userId contents complete → userId ≤ Word.largest)
    (ha : s.accept m decoded = .ok s') : Reaches s s' := by
  cases decoded with
  | refused =>
    cases ha
    exact reaches_setStatus h.toSlotted m .invalid
  | payload userId contents complete =>
    have hle := huser _ _ _ rfl
    exact ((reaches_setUser s m hle).trans (reaches_releaseMessage _ m)).trans (reaches_accept_payload h hle ha)

/-- A decoding that is not refused outright is what some window of the data holds. -/
theorem exists_decode_of_deserialize {m : MessageId} {data : Bytes} {stop : Option Int} {limit : Int}
    (hd : s.deserialize m data stop limit = .ok s') : ∃ (last : Nat) (decoded : Decoded),
      Envelope.window data stop = .ok last ∧ last ≤ data.length ∧
      Envelope.decode (s.message m).slots.length data last limit = .ok decoded ∧ s.accept m decoded = .ok s' := by
  cases hw : Envelope.window data stop with
  | error e => simp [deserialize, hw, bind, Except.bind] at hd
  | ok last =>
    obtain ⟨last, rfl, hlast⟩ := Envelope.window_eq_ok hw
    cases hdecode : Envelope.decode (s.message m).slots.length data last limit with
    | error e => simp [deserialize, hw, hdecode, bind, Except.bind] at hd
    | ok decoded =>
      simp only [deserialize, hw, hdecode, bind, Except.bind] at hd
      exact ⟨last, decoded, rfl, hlast, hdecode, hd⟩

theorem reaches_deserialize (h : s.Sound) {m : MessageId} {data : Bytes} {stop : Option Int} {limit : Int}
    (hd : s.deserialize m data stop limit = .ok s') : Reaches s s' := by
  obtain ⟨last, decoded, -, hlast, hdecode, haccept⟩ := exists_decode_of_deserialize hd
  refine reaches_accept h (fun userId contents complete hpayload => ?_) haccept
  rcases Envelope.exists_decode (s.message m).slots.length limit hlast with hr | ⟨user, cs, c, hp, huser, -⟩
  · rw [hdecode, hpayload] at hr
    cases hr
  · rw [hdecode, hpayload] at hp
    cases hp
    exact huser

end Store
end PasswordGate

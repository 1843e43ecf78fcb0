import PasswordGate.Proofs.Store.Construction
/-!
# Confinement — what has come since an earlier store, and where it is held

`Confined base loose opened s`: since `base`, no buffer from then has changed, and every later buffer that holds something
is one of the `loose` ones or in a slot of an `opened` message, each of them later than `base` too.  Every operation on
later buffers and messages keeps this, with the lists that it says.  Once nothing is left in the lists but what is given
away, nothing else made since `base` is held any more, and its storage is zeroed (`Confined.cleared`).
-/
namespace PasswordGate
namespace Store

variable {base s s' : Store} {loose loose' : List BufferId} {opened opened' : List MessageId}

/-- **What is held since an earlier store**, by loose buffers and by messages that are still open. -/
structure Confined (base : Store) (loose : List BufferId) (opened : List MessageId) (s : Store) : Prop where
  buffers_le : base.buffers.length ≤ s.buffers.length
  messages_le : base.messages.length ≤ s.messages.length
  old : ∀ b, b < base.buffers.length → s.buffer b = base.buffer b
  slot_le : ∀ m, base.messages.length ≤ m → ∀ b ∈ (s.message m).slots, base.buffers.length ≤ b
  loose_le : ∀ b ∈ loose, base.buffers.length ≤ b
  opened_le : ∀ m ∈ opened, base.messages.length ≤ m
  held : ∀ b, base.buffers.length ≤ b → s.buffer b ≠ {} → b ∈ loose ∨ ∃ m ∈ opened, b ∈ (s.message m).slots

namespace Confined

theorem refl (s : Store) : Confined s [] [] s where
  buffers_le := Nat.le_refl _
  messages_le := Nat.le_refl _
  old _ _ := rfl
  slot_le m hm b hb := by
    rw [s.message_of_length_le hm] at hb
    cases hb
  loose_le := nofun
  opened_le := nofun
  held b hb hne := absurd (s.buffer_of_length_le hb) hne

/-- What changes no buffer and no slot changes nothing about what is held. -/
theorem of_eq (h : Confined base loose opened s) (hlen : s'.buffers.length = s.buffers.length)
    (hmessages : s'.messages.length = s.messages.length) (hbuffer : ∀ b, s'.buffer b = s.buffer b)
    (hslots : ∀ m, (s'.message m).slots = (s.message m).slots) : Confined base loose opened s' where
  buffers_le := hlen ▸ h.buffers_le
  messages_le := hmessages ▸ h.messages_le
  old b hb := (hbuffer b).trans (h.old b hb)
  slot_le m hm b hb := h.slot_le m hm b (hslots m ▸ hb)
  loose_le := h.loose_le
  opened_le := h.opened_le
  held b hb hne := by
    simp only [hslots]
    exact h.held b hb (hbuffer b ▸ hne)

/-- More loose buffers may be reckoned with, as long as they are new. -/
theorem mono (h : Confined base loose opened s) (hsub : ∀ b ∈ loose, b ∈ loose')
    (hnew : ∀ b ∈ loose', base.buffers.length ≤ b) : Confined base loose' opened s where
  buffers_le := h.buffers_le
  messages_le := h.messages_le
  old := h.old
  slot_le := h.slot_le
  loose_le := hnew
  opened_le := h.opened_le
  held b hb hne := (h.held b hb hne).imp_left (hsub b)

theorem label (h : Confined base loose opened s) (m : MessageId) (status : Status) (userId : Nat) :
    Confined base loose opened (s.setMessage m { s.message m with status := status, userId := userId }) :=
  h.of_eq rfl (length_messages_setMessage _ _ _) (fun _ => rfl) (slots_label m status userId)

theorem copyOf (h : Confined base loose opened s) {data : Bytes} {b : BufferId} (hc : s.copyOf data = .ok (b, s')) :
    Confined base (b :: loose) opened s' := by
  obtain ⟨rfl, hlen, hmessages, hbuffer⟩ := copyOf_buffers hc
  have hmessage : ∀ m, s'.message m = s.message m := fun m => by rw [message, message, hmessages]
  constructor
  · exact hlen ▸ Nat.le_succ_of_le h.buffers_le
  · exact hmessages ▸ h.messages_le
  · intro b hb
    rw [hbuffer b (Nat.ne_of_lt (Nat.lt_of_lt_of_le hb h.buffers_le)), h.old b hb]
  · intro m hm b hb
    exact h.slot_le m hm b (hmessage m ▸ hb)
  · exact List.forall_mem_cons.2 ⟨h.buffers_le, h.loose_le⟩
  · exact h.opened_le
  · intro b hb hne
    by_cases hnew : b = s.buffers.length
    · exact .inl (hnew ▸ List.mem_cons_self)
    · rw [hbuffer b hnew] at hne
      simp only [hmessage]
      exact (h.held b hb hne).imp_left (List.mem_cons_of_mem _)

theorem take (h : Confined base loose opened s) {b : BufferId} (hb : base.buffers.length ≤ b) :
    Confined base (s.buffers.length :: loose) opened (s.take b).2 := by
  have hbuffer := s.buffer_take b
  constructor
  · rw [length_buffers_take]
    exact Nat.le_succ_of_le h.buffers_le
  · rw [messages_take]
    exact h.messages_le
  · intro x hx
    rw [hbuffer, if_neg (Nat.ne_of_lt (Nat.lt_of_lt_of_le hx h.buffers_le)), if_neg (Nat.ne_of_lt (Nat.lt_of_lt_of_le hx hb)),
      h.old x hx]
  · intro m hm x hx
    exact h.slot_le m hm x (s.message_take b m ▸ hx)
  · exact List.forall_mem_cons.2 ⟨h.buffers_le, h.loose_le⟩
  · exact h.opened_le
  · intro x hx hne
    rw [hbuffer] at hne
    simp only [message_take]
    by_cases hnew : x = s.buffers.length
    · exact .inl (hnew ▸ List.mem_cons_self)
    rw [if_neg hnew] at hne
    by_cases hgiver : x = b
    · exact absurd (if_pos hgiver) hne
    · rw [if_neg hgiver] at hne
      exact (h.held x hx hne).imp_left (List.mem_cons_of_mem _)

/-- **A loose buffer that is assigned to an open message's slot** is held by that message from then on. -/
theorem assign {b : BufferId} (h : Confined base (b :: loose) opened s) {m : MessageId} (hm : m ∈ opened) {position : Nat}
    (hposition : position < (s.message m).slots.length) : Confined base loose opened (s.assign m position (some b)) := by
  have hslot : s.slot? m position = some (s.message m).slots[position] := List.getElem?_eq_getElem hposition
  generalize hcurrent : (s.message m).slots[position] = current at hslot
  have hmem : current ∈ (s.message m).slots := hcurrent ▸ List.getElem_mem _
  have hb : base.buffers.length ≤ b := h.loose_le b List.mem_cons_self
  by_cases hne : some b = some current
  · -- the slot's own buffer: nothing changes, and it is in the slot as well
    have hsame : s.assign m position (some b) = s := by
      rw [Store.assign, hslot]
      simp only
      rw [if_pos hne]
    rw [hsame]
    refine { h with loose_le := (List.forall_mem_cons.1 h.loose_le).2, held := fun x hx hx' => ?_ }
    rcases h.held x hx hx' with hloose | hopened
    · rcases List.mem_cons.1 hloose with rfl | hrest
      · exact .inr ⟨m, hm, Option.some.inj hne ▸ hmem⟩
      · exact .inl hrest
    · exact .inr hopened
  · have hbuffer := buffer_assign hslot hne
    have hmessage := message_assign hslot hne
    constructor
    · rw [length_buffers_assign hslot hne]
      exact Nat.le_succ_of_le h.buffers_le
    · rw [length_messages_assign hslot hne]
      exact h.messages_le
    · intro x hx
      have hle := h.slot_le m (h.opened_le m hm) current hmem
      rw [hbuffer, if_neg (Nat.ne_of_lt (Nat.lt_of_lt_of_le hx hle)),
        if_neg (Nat.ne_of_lt (Nat.lt_of_lt_of_le hx h.buffers_le)), if_neg (Nat.ne_of_lt (Nat.lt_of_lt_of_le hx hb)), h.old x hx]
    · intro x hx c hc
      rw [hmessage] at hc
      split at hc
      · rcases List.mem_or_eq_of_mem_set hc with hold | rfl
        · exact h.slot_le m (h.opened_le m hm) c hold
        · exact h.buffers_le
      · exact h.slot_le x hx c hc
    · exact (List.forall_mem_cons.1 h.loose_le).2
    · exact h.opened_le
    · intro x hx hheld
      rw [hbuffer] at hheld
      by_cases hold : x = current
      · exact absurd (if_pos hold) hheld
      rw [if_neg hold] at hheld
      by_cases hnew : x = s.buffers.length
      · refine .inr ⟨m, hm, ?_⟩
        rw [hmessage, if_pos rfl, hnew]
        exact List.mem_set hposition _
      rw [if_neg hnew] at hheld
      by_cases hgiver : x = b
      · exact absurd (if_pos hgiver) hheld
      rw [if_neg hgiver] at hheld
      rcases h.held x hx hheld with hloose | ⟨m', hm', hx'⟩
      · exact .inl ((List.mem_cons.1 hloose).resolve_left hgiver)
      · refine .inr ⟨m', hm', ?_⟩
        rw [hmessage]
        split
        · -- another slot of the same message, since this one held `current`
          rename_i hsame
          subst hsame
          obtain ⟨p, hp⟩ := List.mem_iff_getElem?.1 hx'
          have hother : position ≠ p := fun he => by
            rw [← he] at hp
            exact hold (Option.some.inj (hp.symm.trans hslot))
          exact List.mem_iff_getElem?.2 ⟨p, (List.getElem?_set_ne hother).trans hp⟩
        · exact hx'

theorem newMessage (h : Confined base loose opened s) (kind : Kind) :
    Confined base loose (s.messages.length :: opened) (s.newMessage kind).2 := by
  have hbuffer := s.buffer_newMessage kind
  have hmessage := s.message_newMessage kind
  constructor
  · rw [length_buffers_newMessage]
    exact Nat.le_add_right_of_le h.buffers_le
  · rw [length_messages_newMessage]
    exact Nat.le_succ_of_le h.messages_le
  · intro b hb
    rw [hbuffer, h.old b hb]
  · intro m hm b hb
    rw [hmessage] at hb
    split at hb
    · exact Nat.le_trans h.buffers_le (List.mem_range'_1.1 hb).1
    · exact h.slot_le m hm b hb
  · exact h.loose_le
  · exact List.forall_mem_cons.2 ⟨h.messages_le, h.opened_le⟩
  · intro b hb hne
    rw [hbuffer] at hne
    refine (h.held b hb hne).imp_right fun ⟨m, hm, hslot⟩ => ⟨m, List.mem_cons_of_mem _ hm, ?_⟩
    rw [hmessage, if_neg]
    · exact hslot
    · intro hnew
      rw [s.message_of_length_le (Nat.le_of_eq hnew.symm)] at hslot
      cases hslot

/-- **Released buffers hold nothing**, so neither the loose ones among them nor messages with these slots count. -/
theorem releaseAll (h : Confined base loose opened s) {buffers : List BufferId}
    (hnew : ∀ b ∈ buffers, base.buffers.length ≤ b) (hloose : ∀ b ∈ loose, b ∈ buffers ∨ b ∈ loose')
    (hloose' : ∀ b ∈ loose', b ∈ loose) (hopened : ∀ m ∈ opened, (∀ b ∈ (s.message m).slots, b ∈ buffers) ∨ m ∈ opened')
    (hopened' : ∀ m ∈ opened', m ∈ opened) : Confined base loose' opened' (s.releaseAll buffers) := by
  have hbuffer : ∀ b, (s.releaseAll buffers).buffer b = if b ∈ buffers then {} else s.buffer b := fun b =>
    buffer_releaseAll b buffers s
  have hmessages := messages_releaseAll buffers s
  have hmessage : ∀ m, (s.releaseAll buffers).message m = s.message m := fun m => by rw [message, message, hmessages]
  constructor
  · rw [length_buffers_releaseAll]
    exact h.buffers_le
  · exact hmessages ▸ h.messages_le
  · intro b hb
    rw [hbuffer, if_neg fun hmem => Nat.not_lt.2 (hnew b hmem) hb, h.old b hb]
  · intro m hm b hb
    exact h.slot_le m hm b (hmessage m ▸ hb)
  · exact fun b hb => h.loose_le b (hloose' b hb)
  · exact fun m hm => h.opened_le m (hopened' m hm)
  · intro b hb hne
    rw [hbuffer] at hne
    by_cases hmem : b ∈ buffers
    · exact absurd (if_pos hmem) hne
    rw [if_neg hmem] at hne
    simp only [hmessage]
    rcases h.held b hb hne with hl | ⟨m, hm, hslot⟩
    · exact .inl ((hloose b hl).resolve_left hmem)
    · exact .inr ⟨m, (hopened m hm).resolve_left fun hall => hmem (hall b hslot), hslot⟩

/-- A message that is released is not open any more. -/
theorem releaseMessage {m : MessageId} (h : Confined base loose (m :: opened) s) :
    Confined base loose opened (s.releaseMessage m) := by
  refine h.releaseAll (h.slot_le m (h.opened_le m List.mem_cons_self)) (fun _ hb => .inr hb) (fun _ hb => hb)
    (fun m' hm' => ?_) fun _ hm' => List.mem_cons_of_mem _ hm'
  rcases List.mem_cons.1 hm' with rfl | hm'
  · exact .inl fun _ hb => hb
  · exact .inr hm'

theorem releaseLoose (h : Confined base loose opened s) {buffers : List BufferId} (hsub : ∀ b ∈ loose, b ∈ buffers)
    (hnew : ∀ b ∈ buffers, base.buffers.length ≤ b) : Confined base [] opened (s.releaseAll buffers) :=
  h.releaseAll hnew (fun b hb => .inl (hsub b hb)) nofun (fun _ hm => .inr hm) fun _ hm => hm

/-! ## Rows of assignments -/

theorem assignAll {m : MessageId} (hm : m ∈ opened) : ∀ (values : List BufferId) (position : Nat) {s : Store},
    Confined base (values ++ loose) opened s → position + values.length ≤ (s.message m).slots.length →
    Confined base loose opened (s.assignAll m position (values.map some))
  | [], _, _, h, _ => h
  | b :: rest, position, s, h, hfit => by
    rw [List.length_cons] at hfit
    have hassigned : Confined base (rest ++ loose) opened (s.assign m position (some b)) := assign h hm (by omega)
    refine assignAll hm rest (position + 1) hassigned ?_
    rw [length_slots_assign]
    omega

theorem install {m : MessageId} (hm : m ∈ opened) : ∀ (contents : List Bytes) (position : Nat) {s s' : Store},
    Confined base loose opened s → position + contents.length ≤ (s.message m).slots.length →
    s.install m position contents = .ok s' → Confined base loose opened s'
  | [], _, _, _, h, _, hi => by
    cases hi
    exact h
  | content :: rest, position, s, s', h, hfit, hi => by
    rw [List.length_cons] at hfit
    unfold Store.install at hi
    cases hc : s.copyOf content with
    | error e => simp [hc, bind, Except.bind] at hi
    | ok copy =>
      obtain ⟨b, copied⟩ := copy
      simp only [hc, bind, Except.bind] at hi
      obtain ⟨-, -, hmessages, -⟩ := copyOf_buffers hc
      have hslots : (copied.message m).slots = (s.message m).slots := by rw [message, message, hmessages]
      have hassigned := assign (h.copyOf hc) hm (show position < (copied.message m).slots.length by rw [hslots]; omega)
      refine install hm rest (position + 1) hassigned ?_ hi
      rw [length_slots_assign, hslots]
      omega

/-- **A decoding into an open message** leaves everything that it makes in that message's slots. -/
theorem deserialize (h : Confined base loose opened s) {m : MessageId} (hm : m ∈ opened) {data : Bytes}
    {stop : Option Int} {limit : Int} (hd : s.deserialize m data stop limit = .ok s') : Confined base loose opened s' := by
  obtain ⟨last, decoded, -, hlast, hdecode, haccept⟩ := exists_decode_of_deserialize hd
  rcases Envelope.exists_decode (s.message m).slots.length limit hlast with
    hrefused | ⟨userId, contents, complete, hpayload, -, hcount, -⟩
  · obtain rfl := Except.ok.inj (hrefused.symm.trans hdecode)
    cases haccept
    exact h.label m .invalid (s.message m).userId
  · obtain rfl := Except.ok.inj (hpayload.symm.trans hdecode)
    have hlabelled := h.label m (s.message m).status userId
    have hreleased := hlabelled.releaseAll (hlabelled.slot_le m (h.opened_le m hm)) (fun _ hb => .inr hb) (fun _ hb => hb)
      (fun _ hm' => .inr hm') fun _ hm' => hm'
    obtain ⟨installed, hi, rfl⟩ := exists_install_of_accept haccept
    refine (install hm contents 0 hreleased ?_ hi).label m _ (installed.message m).userId
    rw [message, messages_releaseAll]
    show 0 + contents.length ≤ ((s.setMessage m _).message m).slots.length
    rw [slots_label m (s.message m).status userId]
    omega

/-- **A message that is made from loose buffers** holds what they held. -/
theorem construct {values : List BufferId} (h : Confined base values opened s) {kind : Kind}
    (hfilled : kind.filled ≤ kind.fields.length) {status userId : Int} {m : MessageId}
    (hc : s.construct kind status userId (values.map some) = .ok (m, s')) : Confined base [] (m :: opened) s' := by
  obtain ⟨verdict, user, -, hfits, hm, rfl⟩ := exists_of_construct hc
  obtain rfl : m = s.messages.length := hm.trans (congrArg List.length (newBuffers_spec kind.fields.length s).2.2.2.1)
  have hlabelled := (h.newMessage kind).label s.messages.length verdict user
  rw [List.length_map] at hfits
  refine assignAll List.mem_cons_self values 0 ((List.append_nil values).symm ▸ hlabelled) ?_
  rw [slots_label, message_newMessage, if_pos rfl, List.length_range']
  omega

end Confined

/-! ## When all is over -/

/-- A buffer that owned something then owns the same now. -/
theorem Confined.owns_of_base (h : Confined base loose opened s) {b : BufferId} {i : BlockId} (hb : base.Owns b i) :
    b < base.buffers.length ∧ s.Owns b i := by
  have hlt : b < base.buffers.length := Nat.lt_of_not_le fun hle => by
    rw [Owns, base.buffer_of_length_le hle] at hb
    cases hb
  refine ⟨hlt, ?_⟩
  rw [Owns, h.old b hlt]
  exact hb

/-- **What a later buffer owns is later storage**, so whatever a later message holds at any time came up since. -/
theorem Confined.owns_later (h : Confined base loose opened s) (hbase : base.Sound) (r : Reaches base s) {b : BufferId}
    {i : BlockId} (hb : base.buffers.length ≤ b) (hown : s.Owns b i) : base.blocks.length ≤ i := by
  refine Nat.le_of_not_lt fun hi => ?_
  obtain ⟨⟨b', hb'⟩, -⟩ := (Reaches.grows r hbase).kept i b hi hown
  obtain ⟨hlt, hown'⟩ := h.owns_of_base hb'
  exact absurd hlt (Nat.not_lt.2 ((Reaches.sound r hbase).owner_unique b b' i hown hown' ▸ hb))

/-- **Nothing that was made since an earlier store is held any more**, but for a result: the fields of all later messages
are empty and all later storage is zeroed.  What was there before has the contents and the owner that it had. -/
structure Cleared (base : Store) (result : Option BufferId) (s : Store) : Prop where
  fields : ∀ m, base.messages.length ≤ m → ∀ content ∈ (s.envelope m).fields, content = []
  storage : ∀ i, base.blocks.length ≤ i → (∀ x ∈ s.block i, x = 0) ∨ ∃ b ∈ result, s.Owns b i
  moved : ∀ b ∈ result, base.buffers.length ≤ b ∧ s.Loose b
  before : ∀ i, i < base.blocks.length → s.block i = base.block i ∧ ∀ b, s.Owns b i ↔ base.Owns b i

/-- **Once all messages are released**, only what is loose is still held. -/
theorem Confined.cleared {result : Option BufferId} (h : Confined base result.toList [] s) (hbase : base.Sound)
    (r : Reaches base s) (hloose : ∀ b ∈ result, s.Loose b) : base.Cleared result s := by
  have hresult : ∀ b, base.buffers.length ≤ b → s.buffer b ≠ {} → b ∈ result := fun b hb hne => by
    rcases h.held b hb hne with hmem | ⟨m, hm, -⟩
    · exact Option.mem_toList.1 hmem
    · cases hm
  have howns : ∀ i, i < base.blocks.length → ∀ b, s.Owns b i ↔ base.Owns b i := fun i hi b => by
    refine ⟨fun hb => ?_, fun hb => (h.owns_of_base hb).2⟩
    have hlt : b < base.buffers.length := Nat.lt_of_not_le fun hle => absurd hi (Nat.not_lt.2 (h.owns_later hbase r hle hb))
    rw [Owns, ← h.old b hlt]
    exact hb
  refine ⟨fun m hm content hc => ?_, fun i hi => ?_, fun b hb => ⟨h.loose_le b (Option.mem_toList.2 hb), hloose b hb⟩,
    fun i hi => ⟨?_, howns i hi⟩⟩
  · obtain ⟨b, hb, rfl⟩ := List.mem_map.1 hc
    refine contents_of_empty (Decidable.by_contra fun hne => ?_)
    exact (hloose b (hresult b (h.slot_le m hm b hb) hne)).2 m hb
  · by_cases hown : ∃ b, s.Owns b i
    · obtain ⟨b, hb⟩ := hown
      refine .inr ⟨b, hresult b (Nat.le_of_not_lt fun hlt => ?_) fun hempty => ?_, hb⟩
      · rw [Owns, h.old b hlt] at hb
        exact absurd (hbase.toOwned.lt_of_owns hb) (Nat.not_lt.2 hi)
      · rw [Owns, hempty] at hb
        cases hb
    · exact .inl ((Reaches.sound r hbase).orphan_zero i fun b hb => hown ⟨b, hb⟩)
  · by_cases hown : ∃ b, s.Owns b i
    · obtain ⟨b, hb⟩ := hown
      exact ((Reaches.grows r hbase).kept i b hi hb).2
    · have hunowned : ∀ b, ¬ base.Owns b i := fun b hb => hown ⟨b, (howns i hi b).2 hb⟩
      rw [block_of_unowned r hbase hi hunowned]
      exact (List.eq_replicate_iff.2 ⟨rfl, hbase.orphan_zero i hunowned⟩).symm

end Store
end PasswordGate

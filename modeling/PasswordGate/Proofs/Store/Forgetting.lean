import PasswordGate.Proofs.Store.Construction
import PasswordGate.Proofs.Store.Failure
/-!
# Forgetting — a decoding that gets to the payload leaves nothing of what was there before

Once a window has a header in order, what a message says afterwards depends on its kind and the window alone
(`deserialize_eq_blank`), whether the payload is whole or not.  The storage that its fields owned is zeroed first, and
storage without an owner never gets one again (`block_of_unowned`), so it is still zeroed when the decoding is over.
-/
namespace PasswordGate

namespace Envelope

/-- **A window with a header in order**: it has room for a status and a user id, and the status is in order. -/
structure Opened (data : Bytes) (stop : Option Int) : Prop where
  room : ∃ last : Nat, window data stop = .ok last ∧ headerSize ≤ last
  status : data.take Word.size = Word.bytes Status.ok.number

theorem Opened.exists_payload {data : Bytes} {stop : Option Int} (h : Opened data stop) (count : Nat) (limit : Int) :
    ∃ (last userId : Nat) (contents : List Bytes) (complete : Bool), window data stop = .ok last ∧
      userId ≤ Word.largest ∧ decode count data last limit = .ok (.payload userId contents complete) := by
  obtain ⟨last, hwindow, hroom⟩ := h.room
  obtain ⟨n, hn, hle⟩ := window_eq_ok hwindow
  have hlast : last ≤ data.length := Int.ofNat.inj hn ▸ hle
  rcases decode_refused_or_header count limit hlast with ⟨hrefused, -⟩ | ⟨userId, hheader, hdecode⟩
  · cases hrefused with
    | noStatus hstop => exact absurd hroom (by simp only [headerSize]; omega)
    | notInOrder _ hstatus => exact absurd h.status hstatus
    | noUserId _ hshort => exact absurd hroom (by simp only [headerSize]; omega)
  · obtain ⟨contents, complete, hread, -⟩ := Field.exists_readAll limit hlast count headerSize
    rw [hread] at hdecode
    exact ⟨last, userId, contents, complete, hwindow, hheader.userId_le, hdecode⟩

/-- **A decoding that gets to the payload forgets what the message said**: a blank message comes to the same. -/
theorem deserialize_eq_blank {e : Envelope} (hcount : e.fields.length = e.kind.fields.length) {data : Bytes}
    {stop : Option Int} (h : Opened data stop) (limit : Int) :
    e.deserialize data stop limit = (Envelope.blank e.kind).deserialize data stop limit := by
  obtain ⟨last, userId, contents, complete, hwindow, -, hdecode⟩ := h.exists_payload e.kind.fields.length limit
  have hblank : (Envelope.blank e.kind).fields.length = e.kind.fields.length := List.length_map _
  simp only [deserialize, hwindow, hcount, hblank, hdecode, bind, Except.bind, accept]
  rfl

end Envelope

namespace Store

variable {s s' s'' : Store}

/-- **The storage of a message's fields is zeroed** in a later store. -/
def Wiped (s s' : Store) (m : MessageId) : Prop :=
  ∀ b ∈ (s.message m).slots, ∀ i, s.Owns b i → s'.block i = Bytes.zeros (s.block i).length

/-- Once a message has been released, its storage stays zeroed. -/
theorem wiped_of_released (h : s.Sound) {m : MessageId} (r : Reaches (s.releaseMessage m) s') : s.Wiped s' m := by
  have hreleased := reaches_releaseMessage s m
  have hsound := Reaches.sound hreleased h
  intro b hb i hown
  have hi := h.toOwned.lt_of_owns hown
  have hno : ∀ b', ¬ (s.releaseMessage m).Owns b' i := fun b' hb' => by
    rw [Owns, releaseMessage, buffer_releaseAll] at hb'
    split at hb'
    · cases hb'
    · rename_i hnot
      exact hnot (h.owner_unique b b' i hown hb' ▸ hb)
  rw [block_of_unowned r hsound (Nat.lt_of_lt_of_le hi (Reaches.grows hreleased h).blocks_le) hno,
    (Reaches.grows hreleased h).length_block i hi]

/-- **A decoding that gets to the payload zeroes the storage of the message's fields** for good, however it ends. -/
theorem wiped_of_deserialize (h : s.Sound) {m : MessageId} {data : Bytes} {stop : Option Int} {limit : Int}
    (hopened : Envelope.Opened data stop) (hd : s.deserialize m data stop limit = .ok s') (r : Reaches s' s'') :
    s.Wiped s'' m := by
  obtain ⟨last, decoded, hwindow, -, hdecode, haccept⟩ := exists_decode_of_deserialize hd
  obtain ⟨last', userId, contents, complete, hwindow', huser, hpayload⟩ :=
    hopened.exists_payload (s.message m).slots.length limit
  obtain rfl : last' = last := Int.ofNat.inj (Except.ok.inj (hwindow'.symm.trans hwindow))
  obtain rfl := Except.ok.inj (hpayload.symm.trans hdecode)
  have hlabelled := Reaches.sound (reaches_setUser s m huser) h
  have hwiped := wiped_of_released hlabelled ((reaches_accept_payload h huser haccept).trans r)
  unfold Wiped at hwiped
  rw [slots_label] at hwiped
  exact hwiped

/-- **What a message says after such a decoding is what a blank one of its kind would say.** -/
theorem deserialize_opened (h : s.Sound) {m : MessageId} (hm : m < s.messages.length) {data : Bytes} {stop : Option Int}
    (hopened : Envelope.Opened data stop) (limit : Int) : ∃ s', s.deserialize m data stop limit = .ok s' ∧
      (Envelope.blank (s.message m).kind).deserialize data stop limit = .ok (s'.envelope m) := by
  have hblank := Envelope.deserialize_eq_blank (length_fields h.toSlotted m) hopened limit
  rcases deserialize_refines h hm data stop limit with ⟨e, -, he⟩ | ⟨s', hs', henvelope, -⟩
  · obtain ⟨last, userId, contents, complete, hwindow, -, hdecode⟩ :=
      hopened.exists_payload (s.envelope m).fields.length limit
    simp [Envelope.deserialize, hwindow, hdecode, bind, Except.bind, pure, Except.pure] at he
  · exact ⟨s', hs', hblank.symm.trans henvelope⟩

end Store

namespace Workspace

variable {w : Workspace}

/-- A decoding of a message as data: the payload, the end of its window, and the limit. -/
def decoding (name : String) (d : Bytes × Option Int × Int) : Step := .deserialize name (.data d.1) d.2.1 d.2.2

/-- A decoding changes what names stand for in no way, refused or not. -/
theorem messages_run_decoding (w : Workspace) (name : String) (d : Bytes × Option Int × Int) :
    (w.run (decoding name d)).2.messages = w.messages := by
  obtain ⟨data, stop, limit⟩ := d
  show (w.outcome (.deserialize name (.data data) stop limit)).2.messages = w.messages
  cases hname : w.messages.lookup name with
  | none =>
    rw [outcome_snd]
    show ((Act.find (·.message name) >>= fun _ => _ : Act Answer).run w).2.messages = w.messages
    rw [Running.run_bind_of_error (by rw [Act.run_find, message, hname])]
  | some m =>
    rw [outcome_deserialize hname]
    cases w.store.deserialize m data stop limit <;> rfl

theorem messages_runs_decoding (name : String) : ∀ (history : List (Bytes × Option Int × Int)) (w : Workspace),
    (w.runs (history.map (decoding name))).messages = w.messages
  | [], _ => rfl
  | d :: rest, w => (messages_runs_decoding name rest (w.run (decoding name d)).2).trans (messages_run_decoding w name d)

/-- **A fresh message of any kind**, in any workspace in order: its name stands for a new message, which is blank. -/
theorem run_construct_fresh (h : w.Sound) (name : String) (kind : Kind) :
    (w.run (.construct name kind Status.ok.number 0 [])).2.messages = rebind w.messages name w.store.messages.length ∧
      (w.run (.construct name kind Status.ok.number 0 [])).2.store.envelope w.store.messages.length =
        Envelope.blank kind := by
  obtain ⟨s, hs, hblank⟩ := Store.construct_nil h.store kind
  have hperform : (Act.perform (.construct name kind Status.ok.number 0 [])).run w =
      (.ok .nothing, { w with store := s, messages := rebind w.messages name w.store.messages.length }) := by
    show (Act.operands [] >>= fun buffers => Act.construct kind Status.ok.number 0 buffers >>= fun m => _ :
      Act Answer).run w = _
    simp only [Act.construct_eq]
    rw [Running.run_bind_of_ok (show (Act.operands []).run w = (.ok [], w) from rfl),
      Running.run_bind_of_ok (Act.run_onStore_of_ok hs)]
    rfl
  have houtcome := outcome_snd w (.construct name kind Status.ok.number 0 [])
  rw [hperform] at houtcome
  have hsound := (reaches_outcome h (.construct name kind Status.ok.number 0 [])).1
  rw [houtcome] at hsound
  have hrun : (w.run (.construct name kind Status.ok.number 0 [])).2 =
      ({ w with store := s, messages := rebind w.messages name w.store.messages.length } : Workspace).collect :=
    congrArg collect houtcome
  rw [hrun]
  exact ⟨rfl, (envelope_collect hsound List.mem_cons_self).trans hblank⟩

theorem runs_construct_fresh (name : String) (kind : Kind) :
    (Workspace.runs {} [.construct name kind Status.ok.number 0 []]).messages = [(name, 0)] ∧
      ((Workspace.runs {} [.construct name kind Status.ok.number 0 []]).store.message 0).kind = kind := by
  obtain ⟨hmessages, hblank⟩ := run_construct_fresh sound_empty name kind
  exact ⟨hmessages, congrArg Envelope.kind hblank⟩

/-- **A named message that is given a payload past its header** answers, says what a blank one would say, and has its
storage zeroed. -/
theorem run_deserialize_opened (h : w.Sound) {name : String} {m : MessageId} (hname : w.messages.lookup name = some m)
    {data : Bytes} {stop : Option Int} (hopened : Envelope.Opened data stop) (limit : Int) : ∃ after : Workspace,
    w.run (decoding name (data, stop, limit)) = (.ok (.status (after.store.envelope m).status), after) ∧
    (Envelope.blank (w.store.message m).kind).deserialize data stop limit = .ok (after.store.envelope m) ∧
    w.store.Wiped after.store m := by
  obtain ⟨s, hs, hblank⟩ := Store.deserialize_opened h.store (h.message_lt _ (mem_of_lookup hname)) hopened limit
  have hcollect := envelope_collect_of_deserialize h hname hs
  refine ⟨_, (run_deserialize hname hs).trans ?_, by rw [hcollect]; exact hblank,
    Store.wiped_of_deserialize h.store hopened hs (reaches_collect { w with store := s })⟩
  exact congrArg (fun e : Envelope => (Except.ok (Answer.status e.status), _)) hcollect.symm

/-- **Nothing carries over between decodings.**  Two named messages of one kind, each after any run of steps, that are
given the same payload with a header in order answer alike and say the same afterwards, whether or not the payload is
whole, and the storage that their fields owned is zeroed.  So after any row of decodings that ends in such a one, a
message says what a fresh one says that is given the last payload alone. -/
theorem decoding_forgets (steps steps' : List Step) (name name' : String) (m m' : MessageId) (data : Bytes)
    (stop : Option Int) (limit : Int)
    (hname : (Workspace.runs {} steps).messages.lookup name = some m)
    (hname' : (Workspace.runs {} steps').messages.lookup name' = some m')
    (hkind : ((Workspace.runs {} steps').store.message m').kind = ((Workspace.runs {} steps).store.message m).kind)
    (hopened : Envelope.Opened data stop) :
    (∃ after after' : Workspace, ∃ said : Envelope,
      (Workspace.runs {} steps).run (decoding name (data, stop, limit)) = (.ok (.status said.status), after) ∧
      (Workspace.runs {} steps').run (decoding name' (data, stop, limit)) = (.ok (.status said.status), after') ∧
      after.store.envelope m = said ∧ after'.store.envelope m' = said ∧
      (Workspace.runs {} steps).store.Wiped after.store m ∧ (Workspace.runs {} steps').store.Wiped after'.store m') ∧
    ∀ history : List (Bytes × Option Int × Int),
      (Workspace.runs {} (steps ++ (history ++ [(data, stop, limit)]).map (decoding name))).store.envelope m =
        (Workspace.runs {} [.construct name ((Workspace.runs {} steps).store.message m).kind Status.ok.number 0 [],
          decoding name (data, stop, limit)]).store.envelope 0 := by
  have hsound : ∀ steps : List Step, (Workspace.runs {} steps).Sound := fun steps => sound_runs steps sound_empty
  refine ⟨?_, fun history => ?_⟩
  · obtain ⟨after, hrun, hsaid, hwiped⟩ := run_deserialize_opened (hsound steps) hname hopened limit
    obtain ⟨after', hrun', hsaid', hwiped'⟩ := run_deserialize_opened (hsound steps') hname' hopened limit
    rw [hkind] at hsaid'
    have hsame : after'.store.envelope m' = after.store.envelope m := Except.ok.inj (hsaid'.symm.trans hsaid)
    exact ⟨after, after', _, hrun, hsame ▸ hrun', rfl, hsame, hwiped, hwiped'⟩
  · obtain ⟨hnames, hfresh⟩ := runs_construct_fresh name ((Workspace.runs {} steps).store.message m).kind
    have hbefore := messages_runs_decoding name history (Workspace.runs {} steps)
    have hkept := (Store.Reaches.grows (reaches_runs (history.map (decoding name)) (hsound steps))
      (hsound steps).store).kind_eq m ((hsound steps).message_lt _ (mem_of_lookup hname))
    rw [← runs_append] at hbefore hkept
    obtain ⟨after, hrun, hsaid, -⟩ := run_deserialize_opened (hsound _) (hbefore ▸ hname) hopened limit
    obtain ⟨after', hrun', hsaid', -⟩ :=
      run_deserialize_opened (hsound _) (show List.lookup name _ = some 0 by rw [hnames]; simp) hopened limit
    rw [hkept] at hsaid
    rw [hfresh] at hsaid'
    have hlast := runs_concat {} [.construct name ((Workspace.runs {} steps).store.message m).kind Status.ok.number 0 []]
      (decoding name (data, stop, limit))
    rw [List.singleton_append, hrun'] at hlast
    rw [List.map_append, ← List.append_assoc, List.map_singleton, runs_concat, hrun, hlast]
    exact Except.ok.inj (hsaid.symm.trans hsaid')

/-- The second field is cut short, so the decoding fails in the middle of the payload. -/
theorem decoding_forgets_verifyRequest :
    (∃ after after' : Workspace, ∃ said : Envelope,
      (Workspace.runs {} [.construct "m" .verifyRequest 0 7 [.data [1, 2], .data [3]]]).run
        (decoding "m" ([0, 0, 0, 0, 9, 0, 0, 0, 1, 0, 0, 0, 255, 5, 0], some 14, 64)) =
          (.ok (.status said.status), after) ∧
      (Workspace.runs {} [.construct "n" .verifyRequest 1 8 [.nothing, .data [4, 4]], .release (.buffer "n")]).run
        (decoding "n" ([0, 0, 0, 0, 9, 0, 0, 0, 1, 0, 0, 0, 255, 5, 0], some 14, 64)) =
          (.ok (.status said.status), after') ∧
      after.store.envelope 0 = said ∧ after'.store.envelope 0 = said ∧
      (Workspace.runs {} [.construct "m" .verifyRequest 0 7 [.data [1, 2], .data [3]]]).store.Wiped after.store 0 ∧
      (Workspace.runs {} [.construct "n" .verifyRequest 1 8 [.nothing, .data [4, 4]],
        .release (.buffer "n")]).store.Wiped after'.store 0) ∧
    (Workspace.runs {} ([.construct "m" .verifyRequest 0 7 [.data [1, 2], .data [3]]] ++
        [([0, 0], none, 64), ([0, 0, 0, 0, 9, 0, 0, 0, 1, 0, 0, 0, 255, 5, 0], some 14, 64)].map
          (decoding "m"))).store.envelope 0 =
      (Workspace.runs {} [.construct "m" .verifyRequest Status.ok.number 0 [],
        decoding "m" ([0, 0, 0, 0, 9, 0, 0, 0, 1, 0, 0, 0, 255, 5, 0], some 14, 64)]).store.envelope 0 :=
  have hforgets := decoding_forgets [.construct "m" .verifyRequest 0 7 [.data [1, 2], .data [3]]]
    [.construct "n" .verifyRequest 1 8 [.nothing, .data [4, 4]], .release (.buffer "n")] "m" "n" 0 0
    [0, 0, 0, 0, 9, 0, 0, 0, 1, 0, 0, 0, 255, 5, 0] (some 14) 64 (by decide) (by decide) (by decide)
    ⟨⟨14, rfl, by decide⟩, by decide⟩
  ⟨hforgets.1, hforgets.2 [([0, 0], none, 64)]⟩

end Workspace
end PasswordGate

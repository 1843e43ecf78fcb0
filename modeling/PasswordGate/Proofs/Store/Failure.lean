import PasswordGate.Proofs.Codec.Decoding
import PasswordGate.Proofs.Store.Workspace
/-!
# Failure — a decoding always answers, and what it leaves when it fails

Whatever data a named message of a workspace is given, the step answers with the status that the message has then, and
the message says what the window comes to (`deserialize_answers`).  Collecting afterwards changes no named message.
-/
namespace PasswordGate
namespace Store

/-- **A decoding inside the data succeeds in every store in order**, and the message follows the window. -/
theorem deserialize_decoding {s : Store} (h : s.Sound) {m : MessageId} (hm : m < s.messages.length) {data : Bytes}
    {stop : Nat} (limit : Int) (hstop : stop ≤ data.length) : ∃ s',
    s.deserialize m data (some stop) limit = .ok s' ∧
      (s.envelope m).Decoding data stop limit (s'.envelope m) := by
  rcases deserialize_refines h hm data (some stop) limit with ⟨e, -, herror⟩ | ⟨s', hs', henvelope, -⟩
  · obtain ⟨after, hafter, -⟩ := (s.envelope m).exists_decoding limit hstop
    rw [herror] at hafter
    cases hafter
  · exact ⟨s', hs', (Envelope.deserialize_iff_decoding hstop).1 henvelope⟩

theorem deserialize_stop (s : Store) (m : MessageId) (data : Bytes) (stop : Option Nat) (limit : Int) :
    s.deserialize m data (stop.map Int.ofNat) limit = s.deserialize m data (some (stop.getD data.length : Nat)) limit := by
  cases stop with
  | some stop => rfl
  | none =>
    simp only [deserialize, Option.map_none, Option.getD_none, Envelope.window_natCast (Nat.le_refl _)]
    rfl

end Store

namespace Workspace

variable {w : Workspace}

/-- **Collecting leaves what a named message says.** -/
theorem envelope_collect (h : w.Sound) {name : String} {m : MessageId} (hname : (name, m) ∈ w.messages) :
    w.collect.store.envelope m = w.store.envelope m := by
  have hmessages : w.collect.store.messages = w.store.messages := Store.messages_releaseAll _ _
  refine Store.envelope_of_eq (by rw [Store.message, hmessages, Store.message]) fun b hb => ?_
  have hreachable : b ∈ w.reachable :=
    List.mem_append_right _ (List.mem_flatMap.2 ⟨(name, m), hname, hb⟩)
  refine (Store.contents_releaseAll _ h.store.toOwned b).trans (if_neg fun hlost => ?_)
  have hgone := (List.mem_filter.1 hlost).2
  simp [hreachable] at hgone

/-- **A step that decodes data into a named message** is a decoding in the store, and answers with the message's status. -/
theorem outcome_deserialize {name : String} {m : MessageId} (hname : w.messages.lookup name = some m) (data : Bytes)
    (stop : Option Int) (limit : Int) : w.outcome (.deserialize name (.data data) stop limit) =
      match w.store.deserialize m data stop limit with
      | .ok s => (.ok (.status (s.message m).status), { w with store := s })
      | .error e => (.error (.codec e), w) := by
  have hfind : (Act.find (·.message name)).run w = (.ok m, w) := by
    rw [Act.run_find, message, hname]
  have hperform : (Act.perform (.deserialize name (.data data) stop limit)).run w =
      (Act.changeStore (·.deserialize m data stop limit) >>= fun _ => get >>= fun after =>
        pure (.status (after.store.message m).status) : Act Answer).run w := by
    show (Act.find (·.message name) >>= fun m => Act.payload (.data data) >>= fun data =>
      Act.deserialize m data stop limit >>= fun _ => _ : Act Answer).run w = _
    rw [Running.run_bind_of_ok hfind, Running.run_bind_of_ok (show (Act.payload (.data data)).run w = (.ok data, w) from rfl),
      Act.deserialize_eq]
  unfold outcome
  rw [hperform]
  cases hd : w.store.deserialize m data stop limit with
  | error e => rw [Running.run_bind_of_error (Act.run_changeStore_of_error hd)]
  | ok s =>
    rw [Running.run_bind_of_ok (Act.run_changeStore_of_ok hd)]
    rfl

theorem run_deserialize {name : String} {m : MessageId} (hname : w.messages.lookup name = some m) {data : Bytes}
    {stop : Option Int} {limit : Int} {s : Store} (hs : w.store.deserialize m data stop limit = .ok s) :
    w.run (.deserialize name (.data data) stop limit) =
      (.ok (.status (s.message m).status), ({ w with store := s } : Workspace).collect) := by
  rw [run, outcome_deserialize hname, hs]

theorem run_deserialize_of_error {name : String} {m : MessageId} (hname : w.messages.lookup name = some m) {data : Bytes}
    {stop : Option Int} {limit : Int} {e : CodecError} (he : w.store.deserialize m data stop limit = .error e) :
    w.run (.deserialize name (.data data) stop limit) = (.error (.codec e), w.collect) := by
  rw [run, outcome_deserialize hname, he]

/-- Collecting after a decoding leaves what the message was decoded to. -/
theorem envelope_collect_of_deserialize (h : w.Sound) {name : String} {m : MessageId}
    (hname : w.messages.lookup name = some m) {data : Bytes} {stop : Option Int} {limit : Int} {s : Store}
    (hs : w.store.deserialize m data stop limit = .ok s) :
    ({ w with store := s } : Workspace).collect.store.envelope m = s.envelope m :=
  envelope_collect (h.of_reaches (Store.reaches_deserialize h.store hs)) (mem_of_lookup hname)

/-- **A decoding always answers, and a failure leaves an exact state.**  After any run of steps a named message that is
given data, up to an end inside them, answers with the status it has then; what it says is what the window comes to.  So
if it is not in order, either the window was refused before its payload and nothing but the status has changed, or its
fields up to the first malformed one were read behind its user id and the others are empty. -/
theorem deserialize_answers (steps : List Step) (name : String) (m : MessageId) (data : Bytes) (stop : Option Nat)
    (limit : Int) (hname : (Workspace.runs {} steps).messages.lookup name = some m)
    (hstop : stop.getD data.length ≤ data.length) :
    ∃ after : Workspace, (Workspace.runs {} steps).run (.deserialize name (.data data) (stop.map Int.ofNat) limit) =
        (.ok (.status (after.store.message m).status), after) ∧
      ((Workspace.runs {} steps).store.envelope m).Decoding data (stop.getD data.length) limit
        (after.store.envelope m) := by
  have h : (Workspace.runs {} steps).Sound := sound_runs steps sound_empty
  have hmem := mem_of_lookup hname
  obtain ⟨s, hs, hdecoding⟩ := Store.deserialize_decoding h.store (h.message_lt _ hmem) limit hstop
  rw [← Store.deserialize_stop] at hs
  have hcollect : ({ Workspace.runs {} steps with store := s } : Workspace).collect.store.envelope m = s.envelope m :=
    envelope_collect (h.of_reaches (Store.reaches_deserialize h.store hs)) hmem
  refine ⟨_, (run_deserialize hname hs).trans ?_, by rwa [hcollect]⟩
  exact congrArg (fun e : Envelope => (Except.ok (Answer.status e.status), _)) hcollect.symm

theorem deserialize_answers_verifyRequest : ∃ after : Workspace,
    (Workspace.runs {} [.construct "m" .verifyRequest 0 7 [.data [1, 2], .data [3]]]).run (.deserialize "m"
        (.data [0, 0, 0, 0, 9, 0, 0, 0, 1, 0, 0, 0, 255, 5, 0, 0, 0, 1]) none 64) =
      (.ok (.status (after.store.message 0).status), after) ∧
    Envelope.Decoding { kind := .verifyRequest, userId := 7, fields := [[1, 2], [3]] }
      [0, 0, 0, 0, 9, 0, 0, 0, 1, 0, 0, 0, 255, 5, 0, 0, 0, 1] 18 64 (after.store.envelope 0) :=
  deserialize_answers [.construct "m" .verifyRequest 0 7 [.data [1, 2], .data [3]]] "m" 0
    [0, 0, 0, 0, 9, 0, 0, 0, 1, 0, 0, 0, 255, 5, 0, 0, 0, 1] none 64 (by decide) (by decide)

end Workspace
end PasswordGate

import PasswordGate.Proofs.Codec.Truncation
import PasswordGate.Proofs.Store.Forgetting
import PasswordGate.Proofs.Store.RoundTrip
import PasswordGate.Proofs.Store.Serialization
/-!
# Truncation — a message that was cut off on its way is never taken for a whole one

What a message of a workspace is written as is cut off somewhere and decoded into a fresh message of its kind, in any
workspace: the fresh message is not in order, and says exactly what was left (`truncation_detected`).
-/
namespace PasswordGate
namespace Workspace

variable {w : Workspace}

/-- **A message in order is written as its wire form.** -/
theorem run_serialize_in_order (steps : List Step) {name : String} {m : MessageId}
    (hname : (Workspace.runs {} steps).messages.lookup name = some m)
    (hok : ((Workspace.runs {} steps).store.envelope m).status = .ok) (blob : Option String) :
    ((Workspace.runs {} steps).run (.serialize name blob)).1 =
      .ok (.bytes ((Workspace.runs {} steps).store.envelope m).wire) := by
  have h : (Workspace.runs {} steps).Sound := sound_runs steps sound_empty
  obtain ⟨blobs, hrun⟩ := run_serialize (buffer_runs steps fun _ _ => rfl) hname (Store.serialize_eq_wire h.store hok) blob
  rw [hrun]

/-- **What a fresh message makes of data**, in any workspace in order, is what a blank one of its kind makes of them. -/
theorem run_deserialize_fresh (h : w.Sound) (name : String) (kind : Kind) {data : Bytes} {limit : Int} {said : Envelope}
    (hsaid : (Envelope.blank kind).deserialize data none limit = .ok said) : ∃ (m : MessageId) (after : Workspace),
      (w.run (.construct name kind Status.ok.number 0 [])).2.messages.lookup name = some m ∧
      (w.run (.construct name kind Status.ok.number 0 [])).2.run (.deserialize name (.data data) none limit) =
        (.ok (.status said.status), after) ∧ after.store.envelope m = said := by
  obtain ⟨hmessages, hblank⟩ := run_construct_fresh h name kind
  have hmade := sound_run h (.construct name kind Status.ok.number 0 [])
  generalize (w.run (.construct name kind Status.ok.number 0 [])).2 = made at hmessages hblank hmade ⊢
  have hname : made.messages.lookup name = some w.store.messages.length := by simp [hmessages, rebind]
  rcases Store.deserialize_refines hmade.store (hmade.message_lt _ (mem_of_lookup hname)) data none limit with
    ⟨e, -, he⟩ | ⟨s, hs, henvelope, -⟩
  · rw [hblank, hsaid] at he
    cases he
  · rw [hblank, hsaid] at henvelope
    have heq : s.envelope w.store.messages.length = said := (Except.ok.inj henvelope).symm
    refine ⟨_, _, hname, (run_deserialize hname hs).trans ?_,
      (envelope_collect_of_deserialize hmade hname hs).trans heq⟩
    exact congrArg (fun e : Envelope => (Except.ok (Answer.status e.status), _)) heq

/-- **Truncation is always detected.**  After any run of steps, a named message that is in order is written as some bytes.
Whatever fewer of these a fresh message of the same kind is given, in whatever workspace, it answers that it is not in
order, and holds exactly the fields of the message that end among those bytes; its other fields are empty.  So what a
message in order is written as is no proper prefix of what another one of its kind is written as. -/
theorem truncation_detected (steps : List Step) (name : String) (m : MessageId)
    (hname : (Workspace.runs {} steps).messages.lookup name = some m)
    (hok : ((Workspace.runs {} steps).store.envelope m).status = .ok) :
    let e := (Workspace.runs {} steps).store.envelope m
    ∃ wire : Bytes, ((Workspace.runs {} steps).run (.serialize name none)).1 = .ok (.bytes wire) ∧
      (∀ (kept : Nat) (before : List Step) (fresh : String), kept < wire.length →
        let made := Workspace.runs {} (before ++ [.construct fresh e.kind Status.ok.number 0 []])
        ∃ (m' : MessageId) (after : Workspace), made.messages.lookup fresh = some m' ∧
          made.run (.deserialize fresh (.data (wire.take kept)) none Field.maxLength) =
            (.ok (.status .invalid), after) ∧
          after.store.envelope m' = e.truncated kept) ∧
      ∀ (steps' : List Step) (name' : String) (m' : MessageId) (wire' : Bytes),
        (Workspace.runs {} steps').messages.lookup name' = some m' →
        ((Workspace.runs {} steps').store.envelope m').kind = e.kind →
        ((Workspace.runs {} steps').store.envelope m').status = .ok →
        ((Workspace.runs {} steps').run (.serialize name' none)).1 = .ok (.bytes wire') →
        wire <+: wire' → wire = wire' := by
  intro e
  have hsound : ∀ steps : List Step, (Workspace.runs {} steps).Sound := fun steps => sound_runs steps sound_empty
  have hfits : e.Fits := Store.fits_envelope (hsound steps).store m
  have hcount : e.fields.length = e.kind.fields.length := Store.length_fields (hsound steps).store.toSlotted m
  refine ⟨e.wire, run_serialize_in_order steps hname hok none, fun kept before fresh hkept => ?_,
    fun steps' name' m' wire' hname' hkind hok' hwire' hstart => ?_⟩
  · have hcut := Envelope.deserialize_truncated hok hfits hcount Field.maxLength
      (fun content hc => Int.ofNat_le.2 (hfits.length_le content hc)) hkept
    intro made
    obtain ⟨m', after, hfresh, hrun, hsaid⟩ := run_deserialize_fresh (hsound before) fresh e.kind hcut
    rw [← runs_concat] at hfresh hrun
    exact ⟨m', after, hfresh, hrun, hsaid⟩
  · rw [run_serialize_in_order steps' hname' hok' none] at hwire'
    obtain rfl : _ = wire' := Answer.bytes.inj (Except.ok.inj hwire')
    exact Envelope.wire_prefix_free hok hfits hcount hok' (Store.fits_envelope (hsound steps').store m')
      (Store.length_fields (hsound steps').store.toSlotted m') hkind.symm hstart

/-- The last field is empty, so a cut right before its length word leaves all that any field holds. -/
theorem truncation_detected_verifyRequest : ∃ wire : Bytes,
    ((Workspace.runs {} [.construct "m" .verifyRequest 0 7 [.data [1, 2], .data []]]).run (.serialize "m" none)).1 =
      .ok (.bytes wire) ∧
    ∀ kept < wire.length, ∃ (m' : MessageId) (after : Workspace),
      (Workspace.runs {} [.construct "n" .verifyRequest Status.ok.number 0 []]).messages.lookup "n" = some m' ∧
      (Workspace.runs {} [.construct "n" .verifyRequest Status.ok.number 0 []]).run
        (.deserialize "n" (.data (wire.take kept)) none Field.maxLength) = (.ok (.status .invalid), after) ∧
      after.store.envelope m' =
        Envelope.truncated { kind := .verifyRequest, userId := 7, fields := [[1, 2], []] } kept := by
  obtain ⟨wire, hwire, hcut, -⟩ :=
    truncation_detected [.construct "m" .verifyRequest 0 7 [.data [1, 2], .data []]] "m" 0 (by decide) (by decide)
  exact ⟨wire, hwire, fun kept hkept => hcut kept [] "n" hkept⟩

end Workspace
end PasswordGate

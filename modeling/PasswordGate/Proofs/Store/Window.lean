import PasswordGate.Proofs.Codec.Window
import PasswordGate.Proofs.Store.Failure
/-!
# Window — what the end and the limit of a decoding do

A decoding is given data, an end and a limit.  The end does what cutting the data off does (`window_truncates`): the same
answer and the same workspace, whatever stands behind it.  The limit does nothing but turn messages down (`limit_filters`):
what is in order under a limit is just what is in order without one and respects it, and it leaves the same workspace.
-/
namespace PasswordGate

theorem Bytes.slice_zero {data : Bytes} {stop : Nat} (hstop : stop ≤ data.length) :
    data.slice 0 (stop : Int) = data.take stop := by
  rw [show (0 : Int) = ((0 : Nat) : Int) from rfl, slice_natCast _ _ _ hstop, List.drop_zero, Nat.sub_zero]

namespace Store

variable {s s' : Store} {m : MessageId} {data : Bytes}

theorem deserialize_take (s : Store) (m : MessageId) {stop : Nat} (limit : Int) (hstop : stop ≤ data.length) :
    s.deserialize m (data.take stop) none limit = s.deserialize m data (some stop) limit := by
  have hwindow : Envelope.window (data.take stop) none = .ok ((data.take stop).length : Int) := rfl
  rw [deserialize, deserialize, hwindow, Envelope.window_natCast hstop]
  show (Envelope.decode _ (data.take stop) (data.take stop).length limit >>= s.accept m) =
    Envelope.decode _ data stop limit >>= s.accept m
  rw [Envelope.decode_take _ limit hstop]

/-- What stands behind the end has no influence. -/
theorem deserialize_behind (s : Store) (m : MessageId) {stop : Nat} (limit : Int) (hstop : stop ≤ data.length)
    (behind : Bytes) :
    s.deserialize m (data.take stop ++ behind) (some stop) limit = s.deserialize m data (some stop) limit := by
  have hlength : (data.take stop).length = stop := by rw [List.length_take, Nat.min_eq_left hstop]
  have hinside : stop ≤ (data.take stop ++ behind).length := by
    rw [List.length_append, hlength]
    exact Nat.le_add_right _ _
  rw [← deserialize_take s m limit hinside, List.take_append_of_le_length (Nat.le_of_eq hlength.symm), List.take_take,
    Nat.min_self, deserialize_take s m limit hstop]

/-- An end outside the data is refused before anything is read. -/
theorem deserialize_of_outside (s : Store) (m : MessageId) {stop : Int} (limit : Int)
    (hout : stop < 0 ∨ data.length < stop) :
    s.deserialize m data (some stop) limit = .error (.endOutside stop data.length) := by
  have hwindow : Envelope.window data (some stop) = .error (.endOutside stop data.length) := if_neg (by omega)
  rw [deserialize, hwindow]
  rfl

/-- **A decoding in order is the same under every limit that the message's fields respect.** -/
theorem deserialize_of_limit (h : s.Sound) (hm : m < s.messages.length) {stop : Option Int} {limit limit' : Int}
    (hd : s.deserialize m data stop limit = .ok s') (hok : (s'.envelope m).status = .ok)
    (hlimit : ∀ content ∈ (s'.envelope m).fields, (content.length : Int) ≤ limit') :
    s.deserialize m data stop limit' = .ok s' := by
  obtain ⟨last, decoded, hwindow, hlast, hdecode, haccept⟩ := exists_decode_of_deserialize hd
  have hcount : (s.envelope m).fields.length = (s.message m).slots.length := List.length_map _
  have hsaid : (s.envelope m).accept decoded = s'.envelope m := by
    have henvelope := deserialize_envelope h hm hd
    simp only [Envelope.deserialize, hwindow, hcount, hdecode, bind, Except.bind, pure, Except.pure] at henvelope
    exact Except.ok.inj henvelope
  obtain ⟨userId, contents, rfl⟩ := Envelope.exists_payload_of_accept (hsaid ▸ hok)
  have hcontents : contents.length = (s.envelope m).fields.length :=
    ((Envelope.decode_complete_iff hlast).1 hdecode).1.trans hcount.symm
  have hfields : (s'.envelope m).fields = contents := by
    rw [← hsaid, Envelope.accept_complete userId hcontents]
  have hdecode' := Envelope.decode_of_limit hlast hdecode (hfields ▸ hlimit)
  simp only [deserialize, hwindow, hdecode', bind, Except.bind]
  exact haccept

/-- The fields of a message that was decoded in order respect the limit, and fit their length words. -/
theorem fields_of_deserialize (h : s.Sound) (hm : m < s.messages.length) {stop : Option Int} {limit : Int}
    (hd : s.deserialize m data stop limit = .ok s') (hok : (s'.envelope m).status = .ok) :
    ∀ content ∈ (s'.envelope m).fields, (content.length : Int) ≤ limit ∧ (content.length : Int) ≤ Field.maxLength := by
  obtain ⟨hfits, hlimit, -⟩ := Envelope.wire_of_deserialize (deserialize_envelope h hm hd) hok
  exact fun content hc => ⟨hlimit content hc, Int.ofNat_le.2 (hfits.length_le content hc)⟩

end Store

namespace Workspace

variable {w after : Workspace} {name : String} {m : MessageId} {data : Bytes}

/-- **A step that decodes in order** is a decoding in the store that leaves the message in order, and then collecting. -/
theorem run_deserialize_ok_iff (hname : w.messages.lookup name = some m) {stop : Option Int} {limit : Int} :
    w.run (.deserialize name (.data data) stop limit) = (.ok (.status .ok), after) ↔
      ∃ s, w.store.deserialize m data stop limit = .ok s ∧ (s.envelope m).status = .ok ∧
        after = ({ w with store := s } : Workspace).collect := by
  cases hd : w.store.deserialize m data stop limit with
  | error e =>
    rw [run_deserialize_of_error hname hd]
    simp
  | ok s =>
    rw [run_deserialize hname hd]
    simp [Store.envelope, eq_comm]

/-- **The end of a decoding cuts the data off there.**  After any run of steps, a named message that is given data and an
end inside them answers, and leaves the workspace, as if it were given the data up to the end and nothing else; so what
stands behind the end has no influence.  With an end outside the data the step is refused and leaves everything as it
was. -/
theorem window_truncates (steps : List Step) (name : String) (m : MessageId) (data : Bytes) (stop limit : Int)
    (hname : (Workspace.runs {} steps).messages.lookup name = some m) :
    let w := Workspace.runs {} steps
    (0 ≤ stop → stop ≤ data.length → ∃ after : Workspace,
      w.run (.deserialize name (.data data) (some stop) limit) = (.ok (.status (after.store.message m).status), after) ∧
      w.run (.deserialize name (.data (data.slice 0 stop)) none limit) =
        (.ok (.status (after.store.message m).status), after) ∧
      ∀ behind : Bytes, w.run (.deserialize name (.data (data.slice 0 stop ++ behind)) (some stop) limit) =
        (.ok (.status (after.store.message m).status), after)) ∧
    (stop < 0 ∨ data.length < stop →
      w.run (.deserialize name (.data data) (some stop) limit) =
        (.error (.codec (.endOutside stop data.length)), w)) := by
  intro w
  have h : w.Sound := sound_runs steps sound_empty
  constructor
  · intro hpos hle
    obtain ⟨last, rfl⟩ := Int.eq_ofNat_of_zero_le hpos
    have hlast : last ≤ data.length := Int.ofNat_le.1 hle
    obtain ⟨s, hs, -⟩ := Store.deserialize_decoding h.store (h.message_lt _ (mem_of_lookup hname)) limit hlast
    have hstatus : ((({ w with store := s } : Workspace).collect).store.message m).status = (s.message m).status :=
      congrArg Envelope.status (envelope_collect_of_deserialize h hname hs)
    have hcut : w.store.deserialize m (data.take last) none limit = .ok s := by
      rw [Store.deserialize_take w.store m limit hlast, hs]
    refine ⟨({ w with store := s } : Workspace).collect, ?_, ?_, fun behind => ?_⟩
    · rw [run_deserialize hname hs, hstatus]
    · rw [Bytes.slice_zero hlast, run_deserialize hname hcut, hstatus]
    · have hbehind := (Store.deserialize_behind w.store m limit hlast behind).trans hs
      rw [Bytes.slice_zero hlast, run_deserialize hname hbehind, hstatus]
  · intro hout
    rw [run_deserialize_of_error hname (Store.deserialize_of_outside w.store m limit hout),
      collect_of_tidy (buffer_runs steps fun _ _ => rfl)]

/-- The end cuts the length word of the second field short; an end behind the data is refused. -/
theorem window_truncates_verifyRequest :
    (∃ after : Workspace,
      (Workspace.runs {} [.construct "m" .verifyRequest 0 7 [.data [1, 2], .data [3]]]).run (.deserialize "m"
          (.data [0, 0, 0, 0, 9, 0, 0, 0, 1, 0, 0, 0, 255, 5, 0, 0, 0, 1]) (some 15) 64) =
        (.ok (.status (after.store.message 0).status), after) ∧
      (Workspace.runs {} [.construct "m" .verifyRequest 0 7 [.data [1, 2], .data [3]]]).run (.deserialize "m"
          (.data [0, 0, 0, 0, 9, 0, 0, 0, 1, 0, 0, 0, 255, 5, 0]) none 64) =
        (.ok (.status (after.store.message 0).status), after) ∧
      ∀ behind : Bytes,
        (Workspace.runs {} [.construct "m" .verifyRequest 0 7 [.data [1, 2], .data [3]]]).run (.deserialize "m"
            (.data ([0, 0, 0, 0, 9, 0, 0, 0, 1, 0, 0, 0, 255, 5, 0] ++ behind)) (some 15) 64) =
          (.ok (.status (after.store.message 0).status), after)) ∧
    (Workspace.runs {} [.construct "m" .verifyRequest 0 7 [.data [1, 2], .data [3]]]).run (.deserialize "m"
        (.data [0, 0, 0, 0, 9, 0, 0, 0, 1, 0, 0, 0, 255, 5, 0, 0, 0, 1]) (some 19) 64) =
      (.error (.codec (.endOutside 19 18)),
        Workspace.runs {} [.construct "m" .verifyRequest 0 7 [.data [1, 2], .data [3]]]) :=
  ⟨(window_truncates [.construct "m" .verifyRequest 0 7 [.data [1, 2], .data [3]]] "m" 0
      [0, 0, 0, 0, 9, 0, 0, 0, 1, 0, 0, 0, 255, 5, 0, 0, 0, 1] 15 64 (by decide)).1 (by decide) (by decide),
    (window_truncates [.construct "m" .verifyRequest 0 7 [.data [1, 2], .data [3]]] "m" 0
      [0, 0, 0, 0, 9, 0, 0, 0, 1, 0, 0, 0, 255, 5, 0, 0, 0, 1] 19 64 (by decide)).2 (by decide)⟩

/-- **The limit of a decoding only filters.**  After any run of steps, a named message that is given data, up to any end, is in
order under a limit exactly when it is in order under the limit that lets every length through and each of its fields then
respects the limit; and the workspace is the same.  So what is in order under a limit is so under every higher one. -/
theorem limit_filters (steps : List Step) (name : String) (m : MessageId) (data : Bytes) (stop : Option Int) (limit : Int)
    (hname : (Workspace.runs {} steps).messages.lookup name = some m) :
    let w := Workspace.runs {} steps
    (∀ after : Workspace, w.run (.deserialize name (.data data) stop limit) = (.ok (.status .ok), after) ↔
      w.run (.deserialize name (.data data) stop Field.maxLength) = (.ok (.status .ok), after) ∧
        ∀ content ∈ (after.store.envelope m).fields, (content.length : Int) ≤ limit) ∧
    ∀ limit', limit ≤ limit' → ∀ after : Workspace,
      w.run (.deserialize name (.data data) stop limit) = (.ok (.status .ok), after) →
      w.run (.deserialize name (.data data) stop limit') = (.ok (.status .ok), after) := by
  intro w
  have h : w.Sound := sound_runs steps sound_empty
  have hm : m < w.store.messages.length := h.message_lt _ (mem_of_lookup hname)
  refine ⟨fun after => ?_, fun limit' hle after => ?_⟩
  · rw [run_deserialize_ok_iff hname, run_deserialize_ok_iff hname]
    constructor
    · rintro ⟨s, hs, hok, rfl⟩
      have hfields := Store.fields_of_deserialize h.store hm hs hok
      have hfree := Store.deserialize_of_limit h.store hm hs hok fun content hc => (hfields content hc).2
      refine ⟨⟨s, hfree, hok, rfl⟩, ?_⟩
      rw [envelope_collect_of_deserialize h hname hs]
      exact fun content hc => (hfields content hc).1
    · rintro ⟨⟨s, hs, hok, rfl⟩, hlimit⟩
      rw [envelope_collect_of_deserialize h hname hs] at hlimit
      exact ⟨s, Store.deserialize_of_limit h.store hm hs hok hlimit, hok, rfl⟩
  · rw [run_deserialize_ok_iff hname, run_deserialize_ok_iff hname]
    rintro ⟨s, hs, hok, rfl⟩
    have hfields := Store.fields_of_deserialize h.store hm hs hok
    exact ⟨s, Store.deserialize_of_limit h.store hm hs hok fun content hc => Int.le_trans (hfields content hc).1 hle, hok,
      rfl⟩

theorem limit_filters_verifyRequest :
    (∀ after : Workspace,
      (Workspace.runs {} [.construct "m" .verifyRequest 0 0 []]).run (.deserialize "m"
          (.data [0, 0, 0, 0, 9, 0, 0, 0, 1, 0, 0, 0, 255, 0, 0, 0, 0]) none 1) = (.ok (.status .ok), after) ↔
        (Workspace.runs {} [.construct "m" .verifyRequest 0 0 []]).run (.deserialize "m"
            (.data [0, 0, 0, 0, 9, 0, 0, 0, 1, 0, 0, 0, 255, 0, 0, 0, 0]) none Field.maxLength) =
          (.ok (.status .ok), after) ∧
          ∀ content ∈ (after.store.envelope 0).fields, (content.length : Int) ≤ 1) ∧
    ∀ limit', 1 ≤ limit' → ∀ after : Workspace,
      (Workspace.runs {} [.construct "m" .verifyRequest 0 0 []]).run (.deserialize "m"
        (.data [0, 0, 0, 0, 9, 0, 0, 0, 1, 0, 0, 0, 255, 0, 0, 0, 0]) none 1) = (.ok (.status .ok), after) →
      (Workspace.runs {} [.construct "m" .verifyRequest 0 0 []]).run (.deserialize "m"
        (.data [0, 0, 0, 0, 9, 0, 0, 0, 1, 0, 0, 0, 255, 0, 0, 0, 0]) none limit') = (.ok (.status .ok), after) :=
  limit_filters [.construct "m" .verifyRequest 0 0 []] "m" 0
    [0, 0, 0, 0, 9, 0, 0, 0, 1, 0, 0, 0, 255, 0, 0, 0, 0] none 1 (by decide)

end Workspace
end PasswordGate

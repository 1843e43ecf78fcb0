import PasswordGate.Proofs.Store.Workspace
/-!
# Round trip — messages of a workspace, their wire form and back

Both directions hold of the messages in the store, in every workspace that a run of steps leaves: what data decode to in
order is encoded to those very data (`serialize_of_deserialize`), and what was encoded is decoded again by any message of
the same kind, whatever it held and whatever follows (`deserialize_serialize_append`).
-/
namespace PasswordGate
namespace Store

variable {s s' : Store}

theorem serialize_eq_wire (h : s.Sound) {m : MessageId} (hok : (s.message m).status = .ok) :
    s.serialize m = .ok (s.envelope m).wire := Envelope.encode_eq_wire hok (fits_envelope h m)

/-- **Data that decode in order start with the form of what they decode to**, which ends inside the window. -/
theorem wire_of_deserialize (h : s.Sound) {m : MessageId} (hm : m < s.messages.length) {data : Bytes}
    {stop : Option Int} {limit : Int} (hd : s.deserialize m data stop limit = .ok s')
    (hok : (s'.message m).status = .ok) :
    ((s'.envelope m).encodedSize : Int) ≤ stop.getD data.length ∧
      data.take (s'.envelope m).encodedSize = (s'.envelope m).wire := by
  obtain ⟨-, -, ⟨rest, hdata⟩, last, hwindow, -, hle⟩ := Envelope.wire_of_deserialize (deserialize_envelope h hm hd) hok
  have hlast : stop.getD data.length = (last : Int) := by
    cases stop with
    | none => exact Except.ok.inj hwindow
    | some stop =>
      simp only [Envelope.window] at hwindow
      split at hwindow
      · exact Except.ok.inj hwindow
      · cases hwindow
  refine ⟨by rw [hlast]; exact Int.ofNat_le.2 hle, ?_⟩
  rw [hdata, ← Envelope.length_wire hok, List.take_left]

/-- **A wire form is decoded by every message of its kind**, into the same store whatever follows the form. -/
theorem deserialize_wire_append (h : s.Sound) {m : MessageId} (hm : m < s.messages.length) {e : Envelope} {limit : Int}
    (hok : e.status = .ok) (hfits : e.Fits) (hkind : (s.message m).kind = e.kind)
    (hcount : e.fields.length = e.kind.fields.length) (hlimit : ∀ content ∈ e.fields, (content.length : Int) ≤ limit) :
    ∃ s', s'.envelope m = e ∧ ∀ trailing, s.deserialize m (e.wire ++ trailing) none limit = .ok s' := by
  have hslots : (s.message m).slots.length = e.fields.length := by rw [h.slot_count, hkind, hcount]
  have haccept : ∀ trailing, s.deserialize m (e.wire ++ trailing) none limit =
      s.accept m (.payload e.userId e.fields true) := fun trailing => by
    simp only [deserialize, Envelope.window, bind, Except.bind, hslots,
      Envelope.decode_wire_append hok hfits hlimit trailing]
  have htarget : (s.envelope m).fields.length = e.fields.length := by rw [envelope, List.length_map, hslots]
  have hdecode := Envelope.deserialize_wire_append hok hfits hkind htarget hlimit []
  rcases deserialize_refines h hm (e.wire ++ []) none limit with ⟨cause, -, hcause⟩ | ⟨s', hs', henvelope, -⟩
  · rw [hdecode] at hcause
    cases hcause
  · rw [hdecode] at henvelope
    refine ⟨s', (Except.ok.inj henvelope).symm, fun trailing => ?_⟩
    rw [haccept trailing, ← haccept [], hs']

end Store

namespace Workspace

/-- **Decoding is canonical.**  Whatever message of whatever workspace the data are decoded into: if it is in order then,
its wire form ends inside the window and is what the data start with; and all data that decode to what this message says
start with the same bytes. -/
theorem serialize_of_deserialize (steps : List Step) (m : MessageId) (data : Bytes) (stop : Option Int) (limit : Int)
    (s : Store) (hm : m < (Workspace.runs {} steps).store.messages.length)
    (hd : (Workspace.runs {} steps).store.deserialize m data stop limit = .ok s) (hok : (s.message m).status = .ok) :
    ((s.envelope m).encodedSize : Int) ≤ stop.getD data.length ∧
    s.serialize m = .ok (data.take (s.envelope m).encodedSize) ∧
    ∀ (steps' : List Step) (m' : MessageId) (data' : Bytes) (stop' : Option Int) (limit' : Int) (s' : Store),
      m' < (Workspace.runs {} steps').store.messages.length →
      (Workspace.runs {} steps').store.deserialize m' data' stop' limit' = .ok s' → s'.envelope m' = s.envelope m →
      data'.take (s.envelope m).encodedSize = data.take (s.envelope m).encodedSize := by
  have hsound : ∀ steps : List Step, (Workspace.runs {} steps).store.Sound := fun steps =>
    (sound_runs steps sound_empty).store
  obtain ⟨hle, htake⟩ := Store.wire_of_deserialize (hsound steps) hm hd hok
  have hs : s.Sound := Store.Reaches.sound (Store.reaches_deserialize (hsound steps) hd) (hsound steps)
  refine ⟨hle, by rw [htake]; exact Store.serialize_eq_wire hs hok, ?_⟩
  intro steps' m' data' stop' limit' s' hm' hd' heq
  have hok' : (s'.message m').status = .ok := (congrArg Envelope.status heq).trans hok
  obtain ⟨-, htake'⟩ := Store.wire_of_deserialize (hsound steps') hm' hd' hok'
  rw [heq] at htake'
  rw [htake, htake']

theorem serialize_of_deserialize_enrollRequest : ∃ s,
    (Workspace.runs {} [.construct "m" .enrollRequest 0 7 [.data [1, 2]]]).store.deserialize 0
      [0, 0, 0, 0, 9, 0, 0, 0, 1, 0, 0, 0, 255, 5] (some 13) 64 = .ok s ∧
    s.serialize 0 = .ok [0, 0, 0, 0, 9, 0, 0, 0, 1, 0, 0, 0, 255] :=
  ⟨_, rfl, (serialize_of_deserialize [.construct "m" .enrollRequest 0 7 [.data [1, 2]]] 0
    [0, 0, 0, 0, 9, 0, 0, 0, 1, 0, 0, 0, 255, 5] (some 13) 64 _ (by decide) rfl (by decide)).2.1⟩

/-- **Encoding and decoding a message is a round trip.**  What a message in order says, with lengths and a user id that
fit, has one wire form; any message of its kind, in whatever state, that decodes this form says the same afterwards, and
what follows the form does not matter. -/
theorem deserialize_serialize_append (steps : List Step) (m : MessageId) (e : Envelope) (limit : Int)
    (hm : m < (Workspace.runs {} steps).store.messages.length)
    (hkind : ((Workspace.runs {} steps).store.message m).kind = e.kind) (hcount : e.fields.length = e.kind.fields.length)
    (hok : e.status = .ok) (huser : e.userId ≤ Word.largest)
    (hlengths : ∀ content ∈ e.fields, content.length ≤ Word.largest)
    (hlimit : ∀ content ∈ e.fields, (content.length : Int) ≤ limit) :
    ∃ wire s, (∀ source m', Store.envelope source m' = e → source.serialize m' = .ok wire) ∧ s.envelope m = e ∧
      ∀ trailing, (Workspace.runs {} steps).store.deserialize m (wire ++ trailing) none limit = .ok s := by
  have h : (Workspace.runs {} steps).store.Sound := (sound_runs steps sound_empty).store
  obtain ⟨s, henvelope, hdecode⟩ := Store.deserialize_wire_append h hm hok ⟨huser, hlengths⟩ hkind hcount hlimit
  refine ⟨e.wire, s, fun source m' hsource => ?_, henvelope, hdecode⟩
  rw [Store.serialize, hsource]
  exact Envelope.encode_eq_wire hok ⟨huser, hlengths⟩

theorem deserialize_serialize_append_enrollRequest : ∃ wire s,
    (∀ source m', Store.envelope source m' = { kind := .enrollRequest, userId := 9, fields := [[255]] } →
      source.serialize m' = .ok wire) ∧
    s.envelope 0 = { kind := .enrollRequest, userId := 9, fields := [[255]] } ∧ ∀ trailing,
      (Workspace.runs {} [.construct "m" .enrollRequest 1 7 [.data [1, 2]]]).store.deserialize 0 (wire ++ trailing) none 1 =
        .ok s :=
  deserialize_serialize_append [.construct "m" .enrollRequest 1 7 [.data [1, 2]]] 0
    { kind := .enrollRequest, userId := 9, fields := [[255]] } 1 (by decide) rfl rfl rfl (by decide) (by decide)
    (by decide)

end Workspace
end PasswordGate

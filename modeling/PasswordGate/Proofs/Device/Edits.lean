import PasswordGate.Proofs.Device.Calls
import PasswordGate.Proofs.Store.Construction
/-!
# Edits — what an authenticator makes of a request and a response

What an authenticator does is said without the store first (`Edit.effect`, `Authenticator.reply`): an edit changes what
the request and the response say, or it ends in an error.  `applyAll_spec` says that the edits that a call carries out in
the store come to the same.
-/
namespace PasswordGate

namespace Envelope

def fill (e : Envelope) (content : Bytes) : Envelope := { e with fields := e.fields.set 0 content }

def without (e : Envelope) (name : String) : Envelope :=
  match e.kind.position? name with
  | some position => { e with fields := e.fields.set position [] }
  | none => e

end Envelope

/-- **What an edit makes of what a request and a response say.** -/
def Edit.effect : Edit → Envelope × Envelope → Except DeviceError (Envelope × Envelope)
  | .userId value, (request, response) =>
    match Store.checkUserId value with
    | .ok user => .ok (request, { response with userId := user })
    | .error e => .error (.codec e)
  | .field content, (request, response) =>
    if content.length ≤ Word.largest then .ok (request, response.fill content)
    else .error (.codec (.lengthOutOfRange content.length))
  | .moved name, (request, response) =>
    match request.field? name with
    | some content => .ok (request.without name, response.fill content)
    | none => .ok (request, response)
  | .status value, (request, response) => .ok (request, { response with status := value })
  | .failure text, _ => .error (.authenticator text)

/-- What edits make of them in order, up to the first error. -/
def Edit.effects : List Edit → Envelope × Envelope → Except DeviceError (Envelope × Envelope)
  | [], pair => .ok pair
  | edit :: rest, pair =>
    match edit.effect pair with
    | .ok pair => effects rest pair
    | .error e => .error e

/-- **What an authenticator leaves in a blank response**, by what the request says. -/
def Authenticator.reply (auth : Authenticator) (operation : Operation) (seen : Envelope) : Except DeviceError Envelope :=
  (Edit.effects (auth operation seen) (seen, .blank operation.response)).map (·.2)

namespace Edit

theorem fits_fill {e : Envelope} (h : e.Fits) {content : Bytes} (hc : content.length ≤ Word.largest) :
    (e.fill content).Fits :=
  ⟨h.userId_le, fun c hmem => by
    rcases List.mem_or_eq_of_mem_set hmem with hold | rfl
    · exact h.length_le c hold
    · exact hc⟩

theorem fits_without {e : Envelope} (h : e.Fits) (name : String) : (e.without name).Fits := by
  unfold Envelope.without
  split
  · refine ⟨h.userId_le, fun c hmem => ?_⟩
    rcases List.mem_or_eq_of_mem_set hmem with hold | rfl
    · exact h.length_le c hold
    · exact Nat.zero_le _
  · exact h

/-- **An edit keeps messages within their words**, and the response's kind and number of fields. -/
theorem effect_keeps {edit : Edit} {pair pair' : Envelope × Envelope} (h : edit.effect pair = .ok pair')
    (hrequest : pair.1.Fits) (hresponse : pair.2.Fits) : pair'.1.Fits ∧ pair'.2.Fits ∧
      pair'.2.kind = pair.2.kind ∧ pair'.2.fields.length = pair.2.fields.length := by
  obtain ⟨request, response⟩ := pair
  cases edit with
  | userId value =>
    simp only [effect] at h
    split at h
    · rename_i hcheck
      cases h
      exact ⟨hrequest, ⟨Store.checkUserId_le hcheck, hresponse.length_le⟩, rfl, rfl⟩
    · cases h
  | field content =>
    simp only [effect] at h
    split at h
    · rename_i hle
      cases h
      exact ⟨hrequest, fits_fill hresponse hle, rfl, List.length_set⟩
    · cases h
  | moved name =>
    simp only [effect] at h
    split at h
    · rename_i content hfield
      cases h
      obtain ⟨position, -, hcontent⟩ := Option.bind_eq_some_iff.1 hfield
      exact ⟨fits_without hrequest name, fits_fill hresponse (hrequest.length_le content (List.mem_of_getElem? hcontent)),
        rfl, List.length_set⟩
    · cases h
      exact ⟨hrequest, hresponse, rfl, rfl⟩
  | status value =>
    cases h
    exact ⟨hrequest, ⟨hresponse.userId_le, hresponse.length_le⟩, rfl, rfl⟩
  | failure text => cases h

theorem effects_keep : ∀ {edits : List Edit} {pair pair' : Envelope × Envelope}, effects edits pair = .ok pair' →
    pair.1.Fits → pair.2.Fits → pair'.2.Fits ∧ pair'.2.kind = pair.2.kind ∧
      pair'.2.fields.length = pair.2.fields.length
  | [], _, _, h, _, hresponse => by
    cases h
    exact ⟨hresponse, rfl, rfl⟩
  | edit :: rest, pair, pair', h, hrequest, hresponse => by
    simp only [effects] at h
    split at h
    · rename_i next heffect
      obtain ⟨hrequest', hresponse', hkind, hlen⟩ := effect_keeps heffect hrequest hresponse
      obtain ⟨hfits, hkind', hlen'⟩ := effects_keep h hrequest' hresponse'
      exact ⟨hfits, hkind'.trans hkind, hlen'.trans hlen⟩
    · cases h

/-- **Edits do not end in a refusal of the device.** -/
theorem effects_ne_rejected {operation : Operation} {reason : Reason} : ∀ {edits : List Edit} {pair : Envelope × Envelope},
    effects edits pair ≠ .error (.rejected operation reason)
  | [], _, h => by cases h
  | edit :: rest, (request, response), h => by
    simp only [effects] at h
    split at h
    · exact effects_ne_rejected h
    · rename_i e heffect
      cases h
      cases edit <;> simp only [effect] at heffect
      all_goals first | cases heffect | (split at heffect <;> cases heffect)

end Edit

namespace Authenticator

variable {auth : Authenticator} {operation : Operation} {seen reply : Envelope}

/-- **A reply fits its words**, is of the response's kind, and has its one field. -/
theorem reply_spec (h : auth.reply operation seen = .ok reply) (hseen : seen.Fits) :
    reply.Fits ∧ reply.kind = operation.response ∧ reply.fields.length = 1 := by
  unfold Authenticator.reply at h
  cases he : Edit.effects (auth operation seen) (seen, .blank operation.response) with
  | error e =>
    rw [he] at h
    cases h
  | ok pair =>
    rw [he] at h
    cases h
    have hblank : (Envelope.blank operation.response).Fits := by
      cases operation <;> exact ⟨Nat.zero_le _, by decide⟩
    obtain ⟨hfits, hkind, hlen⟩ := Edit.effects_keep he hseen hblank
    refine ⟨hfits, hkind, hlen.trans ?_⟩
    cases operation <;> rfl

theorem reply_ne_rejected {rejected : Operation} {reason : Reason} :
    auth.reply operation seen ≠ .error (.rejected rejected reason) := by
  unfold Authenticator.reply
  cases he : Edit.effects (auth operation seen) (seen, .blank operation.response) with
  | ok pair => exact fun h => by cases h
  | error e =>
    intro h
    cases h
    exact Edit.effects_ne_rejected he

end Authenticator

namespace Store

variable {s : Store}

theorem field?_eq (s : Store) (m : MessageId) (name : String) :
    (s.envelope m).field? name = (s.field? m name).map s.contents := by
  simp only [Envelope.field?, field?, envelope, slot?]
  cases hp : (s.message m).kind.position? name with
  | none => rfl
  | some position => simp

/-- **A field of one message moves into the first field of another.** -/
theorem envelope_assign_field (h : s.Sound) {request response : MessageId} (hne : request ≠ response)
    (hfield : 0 < (s.envelope response).fields.length) {name : String} {b : BufferId} (hb : s.field? request name = some b) :
    (s.assign response 0 (some b)).envelope request = (s.envelope request).without name ∧
      (s.assign response 0 (some b)).envelope response = (s.envelope response).fill (s.contents b) := by
  obtain ⟨position, hposition, hslot⟩ := Option.bind_eq_some_iff.1 hb
  have hslots : (s.envelope response).fields.length = (s.message response).slots.length := List.length_map _
  obtain ⟨current, hcurrent⟩ : ∃ current, s.slot? response 0 = some current :=
    ⟨_, List.getElem?_eq_getElem (hslots ▸ hfield)⟩
  have hother : some b ≠ some current := fun he =>
    hne (h.slot_unique request response position 0 b hslot (Option.some.inj he ▸ hcurrent)).1
  have hnot : ∀ c ∈ (s.message response).slots, some b ≠ some c := fun c hc he => by
    obtain ⟨p, hp⟩ := List.mem_iff_getElem?.1 hc
    exact hne (h.slot_unique request response position p b hslot (Option.some.inj he ▸ hp)).1
  have hkind : (s.envelope request).kind.position? name = some position := hposition
  refine ⟨?_, ?_⟩
  · rw [envelope_assign h hcurrent hother, if_neg hne, fieldsWithout_of_slot h.toSlotted hslot, Envelope.without, hkind]
  · rw [envelope_assign h hcurrent hother, if_pos rfl, fieldsWithout_of_not_mem hnot]
    rfl

end Store

namespace Call

open Running
open Store (Reaches)

variable {d : Device} {request response : MessageId}

/-- A request and a response of a device: two messages in a store in order, the response with a field to fill. -/
structure Paired (d : Device) (request response : MessageId) : Prop where
  sound : d.store.Sound
  request_lt : request < d.store.messages.length
  response_lt : response < d.store.messages.length
  distinct : request ≠ response
  field : 0 < (d.store.envelope response).fields.length

/-- **An edit carried out in the store** has the effect that it has on what the messages say. -/
theorem apply_spec (h : Paired d request response) (edit : Edit) : ∃ s, Reaches d.store s ∧
    (apply request response edit).run d =
      ((edit.effect (d.store.envelope request, d.store.envelope response)).map fun _ => (), { d with store := s }) ∧
    ∀ pair, edit.effect (d.store.envelope request, d.store.envelope response) = .ok pair →
      (s.envelope request, s.envelope response) = pair := by
  cases edit with
  | userId value =>
    simp only [Edit.effect]
    cases hc : Store.checkUserId value with
    | error e =>
      have hset : d.store.setUserId response value = .error e := by simp only [Store.setUserId, hc, bind, Except.bind]
      refine ⟨d.store, .refl, run_changeStore_of_error d ?_, fun _ hp => by cases hp⟩
      exact hset
    | ok userId =>
      have hset : d.store.setUserId response value =
          .ok (d.store.setMessage response { d.store.message response with userId := userId }) := by
        simp only [Store.setUserId, hc, bind, Except.bind, pure, Except.pure]
      refine ⟨_, Store.reaches_setUserId hset, run_changeStore_of_ok d ?_, fun _ hp => ?_⟩
      · exact hset
      · cases hp
        rw [Store.envelope_setUserId h.response_lt, Store.envelope_setUserId h.response_lt, if_neg h.distinct, if_pos rfl]
  | field content =>
    simp only [Edit.effect]
    by_cases hle : content.length ≤ Word.largest
    · obtain ⟨copied, hcopy, hreach, henvelope⟩ := Store.copyOf_assign h.sound h.field hle
      rw [if_pos hle]
      refine ⟨_, hreach, run_changeStore_of_ok d ?_, fun _ hp => ?_⟩
      · simp only [hcopy, bind, Except.bind, pure, Except.pure]
      · cases hp
        rw [henvelope, henvelope, if_neg h.distinct, if_pos rfl]
        rfl
    · rw [if_neg hle]
      refine ⟨d.store, .refl, run_changeStore_of_error d ?_, fun _ hp => by cases hp⟩
      simp only [Store.copyOf_of_gt d.store (Nat.lt_of_not_le hle), bind, Except.bind]
  | moved name =>
    simp only [Edit.effect, Store.field?_eq]
    cases hb : d.store.field? request name with
    | none =>
      refine ⟨d.store, .refl, run_changeStore_of_ok d ?_, fun _ hp => Except.ok.inj hp⟩
      simp only [hb]
    | some b =>
      obtain ⟨hrequest, hresponse⟩ := Store.envelope_assign_field h.sound h.distinct h.field hb
      refine ⟨_, Store.reaches_assign h.sound.toSlotted response 0 (some b), run_changeStore_of_ok d ?_, fun _ hp => ?_⟩
      · simp only [hb]
      · cases hp
        rw [hrequest, hresponse]
  | status value =>
    refine ⟨_, Store.reaches_setStatus h.sound.toSlotted response value, run_changeStore_of_ok d rfl, fun _ hp => ?_⟩
    cases hp
    rw [Store.envelope_setStatus h.response_lt, Store.envelope_setStatus h.response_lt, if_neg h.distinct, if_pos rfl]
  | failure text => exact ⟨d.store, .refl, rfl, fun _ hp => by cases hp⟩

theorem Paired.of_reaches (h : Paired d request response) {s : Store} (r : Reaches d.store s) :
    Paired { d with store := s } request response where
  sound := Store.Reaches.sound r h.sound
  request_lt := Nat.lt_of_lt_of_le h.request_lt (Store.Reaches.grows r h.sound).messages_le
  response_lt := Nat.lt_of_lt_of_le h.response_lt (Store.Reaches.grows r h.sound).messages_le
  distinct := h.distinct
  field := by
    have hkind : (s.envelope response).kind = (d.store.envelope response).kind :=
      (Store.Reaches.grows r h.sound).kind_eq response h.response_lt
    rw [Store.length_fields (Store.Reaches.sound r h.sound).toSlotted, hkind, ← Store.length_fields h.sound.toSlotted]
    exact h.field

/-- **Edits carried out in the store**, one after the other, have the effects that they have on what the messages say. -/
theorem applyAll_spec : ∀ (edits : List Edit) {d : Device}, Paired d request response → ∃ s, Reaches d.store s ∧
    (applyAll request response edits).run d =
      ((Edit.effects edits (d.store.envelope request, d.store.envelope response)).map fun _ => (), { d with store := s }) ∧
    ∀ pair, Edit.effects edits (d.store.envelope request, d.store.envelope response) = .ok pair →
      (s.envelope request, s.envelope response) = pair
  | [], d, _ => ⟨d.store, .refl, rfl, fun _ hp => Except.ok.inj hp⟩
  | edit :: rest, d, h => by
    obtain ⟨s, hreach, hrun, heffect⟩ := apply_spec h edit
    unfold applyAll
    simp only [Edit.effects]
    cases he : edit.effect (d.store.envelope request, d.store.envelope response) with
    | error e =>
      rw [he] at hrun
      exact ⟨s, hreach, run_bind_of_error hrun, fun _ hp => by cases hp⟩
    | ok pair =>
      rw [he] at hrun
      obtain ⟨s', hreach', hrun', heffects⟩ := applyAll_spec rest (h.of_reaches hreach)
      rw [heffect pair he] at hrun' heffects
      exact ⟨s', hreach.trans hreach', (run_bind_of_ok hrun).trans hrun', heffects⟩

/-- **An authenticator that is consulted leaves its reply in the response**, or ends the call in its error. -/
theorem consult_spec (h : Paired d request response) (auth : Authenticator) {operation : Operation}
    (hblank : d.store.envelope response = .blank operation.response) : ∃ s, Reaches d.store s ∧
    (consult auth operation request response).run d =
      ((auth.reply operation (d.store.envelope request)).map fun _ => (),
        { d.asked operation request response with store := s }) ∧
    ∀ reply, auth.reply operation (d.store.envelope request) = .ok reply → s.envelope response = reply := by
  have hasked : Paired (d.asked operation request response) request response :=
    ⟨h.sound, h.request_lt, h.response_lt, h.distinct, h.field⟩
  obtain ⟨s, hreach, hrun, heffects⟩ := applyAll_spec (auth operation (d.store.envelope request)) hasked
  have hpair : (d.asked operation request response).store.envelope response = .blank operation.response := hblank
  refine ⟨s, hreach, ?_, fun reply hr => ?_⟩
  · rw [run_consult, hrun, hpair, Authenticator.reply]
    refine Prod.ext ?_ rfl
    show Except.map _ (Edit.effects (auth operation (d.store.envelope request))
      (d.store.envelope request, .blank operation.response)) = _
    cases Edit.effects (auth operation (d.store.envelope request))
      (d.store.envelope request, .blank operation.response) <;> rfl
  · rw [hpair] at heffects
    unfold Authenticator.reply at hr
    cases hE : Edit.effects (auth operation (d.store.envelope request))
        (d.store.envelope request, .blank operation.response) with
    | error e =>
      rw [hE] at hr
      cases hr
    | ok pair =>
      rw [hE] at hr
      cases hr
      exact congrArg Prod.snd (heffects pair hE)

end Call
end PasswordGate

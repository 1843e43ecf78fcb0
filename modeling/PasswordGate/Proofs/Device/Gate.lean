import PasswordGate.Proofs.Device.Invocations
/-!
# Gate — what stands between a visit and the authenticator

`Visit.Admits` says of a request what a device checks before it is handed over, and that it is the one that the visit
asks for: the arguments of a direct call, or the head of the data off the wire.  Whatever a visit shows is admitted
(`admits_of_shown`), a visit of an open device hands over at most what it shows, and a closed one hands over nothing.
-/
namespace PasswordGate

/-- **A visit asks for a request**: a direct call for one that says its arguments, a message for one whose wire form the
data start with and whose fields respect the field limit. -/
inductive Visit.Asks (settings : Settings) : Visit → Operation → Envelope → Prop
  | enroll {password : Bytes} {seen : Envelope} (hfields : seen.fields = [password]) :
      Asks settings (.enroll seen.userId (some password)) .enroll seen
  | verify {handle password : Bytes} {seen : Envelope} (hfields : seen.fields = [handle, password]) :
      Asks settings (.verify seen.userId (some handle) (some password)) .verify seen
  | message {operation : Operation} {data wire : Bytes} {seen : Envelope} (hwire : seen.encode = .ok wire)
      (hstart : wire <+: data) (hlimit : ∀ content ∈ seen.fields, content.length ≤ settings.maxFieldLength) :
      Asks settings (.message operation data) operation seen

/-- **A visit admits a request of an operation**: it is in order, and its password respects the limit. -/
structure Visit.Admits (settings : Settings) (v : Visit) (operation : Operation) (seen : Envelope) : Prop where
  asks : v.Asks settings operation seen
  kind : seen.kind = operation.request
  status : seen.status = .ok
  userId_le : seen.userId ≤ Word.largest
  password_le : ∃ password, seen.field? passwordField = some password ∧ password.length ≤ settings.maxPasswordLength

namespace Visit

variable {settings : Settings} {operation : Operation} {seen : Envelope}

/-- What a direct request shows says its arguments, and its password respects the limit. -/
theorem says_of_shown {userId : Int} {password : Bytes} {fields : List Bytes}
    (h : operation.shown settings userId password fields = some seen) : password.length ≤ settings.maxPasswordLength ∧
      seen.userId ≤ Word.largest ∧ userId = seen.userId ∧
      seen = { kind := operation.request, userId := seen.userId, fields := fields } := by
  unfold Operation.shown at h
  split at h
  · cases h
  rename_i hmax
  unfold Verdict.request at h
  split at h
  · cases h
  split at h
  · cases h
  rename_i user huser
  cases h
  exact ⟨Nat.le_of_not_lt hmax, Store.checkUserId_le huser, Store.eq_of_checkUserId huser, rfl⟩

theorem exists_password (hkind : seen.kind = operation.request)
    (hcount : seen.fields.length = operation.request.fields.length) : ∃ password, seen.field? passwordField = some password := by
  obtain ⟨kind, status, userId, fields⟩ := seen
  subst hkind
  cases operation with
  | enroll =>
    obtain ⟨password, rfl⟩ := List.length_eq_one_iff.1 hcount
    exact ⟨password, rfl⟩
  | verify =>
    match fields, hcount with
    | [_, password], _ => exact ⟨password, rfl⟩

/-- **Whatever a visit shows is admitted.** -/
theorem admits_of_shown {v : Visit} (h : v.shown settings = some (operation, seen)) : v.Admits settings operation seen := by
  cases v with
  | enroll userId password =>
    rcases password with _ | _ | ⟨first, rest⟩
    · cases h
    · cases h
    obtain ⟨request, hshown, heq⟩ := Option.map_eq_some_iff.1 h
    cases heq
    obtain ⟨hmax, huser, rfl, hsaid⟩ := says_of_shown hshown
    refine ⟨.enroll (by rw [hsaid]), by rw [hsaid], by rw [hsaid], huser, first :: rest, by rw [hsaid]; rfl, hmax⟩
  | verify userId handle password =>
    rcases handle with _ | handle
    · cases h
    rcases password with _ | password
    · cases h
    obtain ⟨request, hshown, heq⟩ := Option.map_eq_some_iff.1 h
    cases heq
    obtain ⟨hmax, huser, rfl, hsaid⟩ := says_of_shown hshown
    refine ⟨.verify (by rw [hsaid]), by rw [hsaid], by rw [hsaid], huser, password, by rw [hsaid]; rfl, hmax⟩
  | message operation' data =>
    obtain ⟨request, hshown, heq⟩ := Option.map_eq_some_iff.1 h
    cases heq
    obtain ⟨hdecode, hok, hmax⟩ := Operation.shownWire_eq_some_iff.1 hshown
    obtain ⟨hfits, hlimit, ⟨rest, hdata⟩, -⟩ := Envelope.wire_of_deserialize hdecode hok
    obtain ⟨hkind, hcount⟩ := Envelope.shape_of_deserialize hdecode
    obtain ⟨password, hpassword⟩ := exists_password hkind (hcount.trans (List.length_map _))
    refine ⟨.message (Envelope.encode_eq_wire hok hfits) ⟨rest, hdata.symm⟩ fun content hc => ?_, hkind, hok,
      hfits.userId_le, password, hpassword, ?_⟩
    · exact Int.ofNat_le.1 (hlimit content hc)
    · rwa [Authenticator.fieldOf, hpassword] at hmax
  | close => cases h

end Visit

namespace Device

variable {d : Device}

/-- **A visit hands over at most one request**, with a blank response, and only if the device is open and the visit admits
the request. -/
def Gated (settings : Settings) (d : Device) (v : Visit) (after : Device) : Prop :=
  ∃ handed : Option Invocation, after.invocations = d.invocations ++ handed.toList ∧
    ∀ i ∈ handed, d.closed = false ∧ v.Admits settings i.operation i.seen ∧ i.given = .blank i.operation.response

theorem gated_visit (h : d.store.Sound) (auth : Authenticator) (v : Visit) :
    d.Gated d.settings v (d.visit auth v).2 := by
  cases hc : d.closed with
  | true => exact ⟨none, by rw [visit_of_closed hc]; exact (List.append_nil _).symm, nofun⟩
  | false =>
    obtain ⟨⟨request, hinvocations⟩, -⟩ := visit_invocations h hc auth v
    cases hshown : v.shown d.settings with
    | none =>
      rw [hshown] at hinvocations
      exact ⟨none, hinvocations, nofun⟩
    | some shown =>
      obtain ⟨operation, seen⟩ := shown
      rw [hshown] at hinvocations
      refine ⟨some ⟨operation, request, seen, .blank operation.response⟩, hinvocations, fun i hi => ?_⟩
      cases hi
      exact ⟨hc, Visit.admits_of_shown hshown, rfl⟩

/-- **What a run hands over comes from one of its visits**, each of them made of the device as the ones before left it. -/
theorem exists_visit_of_invocation : ∀ (history : List (Authenticator × Visit)) {d : Device}, d.store.Sound →
    ∀ i ∈ (d.visits history).2.invocations, i ∈ d.invocations ∨ ∃ before auth v after,
      history = before ++ (auth, v) :: after ∧ (d.visits before).2.closed = false ∧
        v.Admits d.settings i.operation i.seen ∧ i.given = .blank i.operation.response
  | [], _, _, i, hi => .inl hi
  | (auth, v) :: rest, d, h, i, hi => by
    obtain ⟨hreach, hsettings⟩ := visit_keeps h auth v
    obtain ⟨handed, hinvocations, hgated⟩ := gated_visit h auth v
    rcases exists_visit_of_invocation rest (Store.Reaches.sound hreach h) i hi with hfirst | hlater
    · rw [hinvocations] at hfirst
      rcases List.mem_append.1 hfirst with hold | hnew
      · exact .inl hold
      · exact .inr ⟨[], auth, v, rest, rfl, hgated i (Option.mem_toList.1 hnew)⟩
    · obtain ⟨before, auth', v', after, rfl, hadmitted⟩ := hlater
      rw [hsettings] at hadmitted
      exact .inr ⟨(auth, v) :: before, auth', v', after, rfl, hadmitted⟩

/-- **The gate in front of the authenticator.**  Whatever a device has been asked for, a further visit hands over at most
one request, only while the device is open, and only one that the visit asks for and that is in order and within the
limits, together with a blank response.  So every request that a run hands over comes from such a visit of the run. -/
theorem invocations_gated (settings : Settings) (counters : Option Counters) (history : List (Authenticator × Visit))
    (auth : Authenticator) (v : Visit) :
    ((make settings counters).visits history).2.Gated settings v
      (((make settings counters).visits history).2.visit auth v).2 ∧
    ∀ i ∈ ((make settings counters).visits history).2.invocations, ∃ before auth v after,
      history = before ++ (auth, v) :: after ∧ ((make settings counters).visits before).2.closed = false ∧
        v.Admits settings i.operation i.seen ∧ i.given = .blank i.operation.response := by
  obtain ⟨hsound, hsettings⟩ := visits_keep history (d := make settings counters) Store.sound_empty
  refine ⟨?_, fun i hi => ?_⟩
  · have hgated := gated_visit hsound auth v
    rwa [hsettings] at hgated
  · rcases exists_visit_of_invocation history (d := make settings counters) Store.sound_empty i hi with hnone | hvisit
    · cases hnone
    · exact hvisit

end Device
end PasswordGate

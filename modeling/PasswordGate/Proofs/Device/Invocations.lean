import PasswordGate.Proofs.Device.Agreement
/-!
# Invocations — what a run of visits hands to its authenticators

What an open device hands over is settled by the visit and the settings alone (`Visit.shown`), so that the requests of a
whole run are read off its visits (`invocations_visits`).  Among them are enrollments of an empty password: a direct call
turns those down, a message off the wire does not (`enroll_empty_iff`).
-/
namespace PasswordGate

/-! ## What a visit shows -/

/-- What a direct request shows, unless its password is over the limit or the request is refused as a message. -/
def Operation.shown (operation : Operation) (settings : Settings) (userId : Int) (password : Bytes)
    (fields : List Bytes) : Option Envelope :=
  if settings.maxPasswordLength < password.length then none
  else (Verdict.request operation userId fields).toOption

/-- What a message off the wire shows, if it decodes in order and its password respects the limit. -/
def Operation.shownWire (operation : Operation) (settings : Settings) (data : Bytes) : Option Envelope :=
  (((Envelope.blank operation.request).deserialize data none settings.maxFieldLength).toOption).filter fun seen =>
    seen.status = .ok ∧ (Authenticator.fieldOf seen passwordField).length ≤ settings.maxPasswordLength

/-- **What a visit shows the authenticator of an open device**: the operation, and the request. -/
def Visit.shown (settings : Settings) : Visit → Option (Operation × Envelope)
  | .enroll _ none | .enroll _ (some []) => none
  | .enroll userId (some password) => (Operation.enroll.shown settings userId password [password]).map (.enroll, ·)
  | .verify userId (some handle) (some password) =>
    (Operation.verify.shown settings userId password [handle, password]).map (.verify, ·)
  | .verify _ _ _ => none
  | .message operation data => (operation.shownWire settings data).map (operation, ·)
  | .close => none

theorem Operation.shownWire_eq_some_iff {operation : Operation} {settings : Settings} {data : Bytes} {seen : Envelope} :
    operation.shownWire settings data = some seen ↔
      (Envelope.blank operation.request).deserialize data none settings.maxFieldLength = .ok seen ∧ seen.status = .ok ∧
        (Authenticator.fieldOf seen passwordField).length ≤ settings.maxPasswordLength := by
  unfold shownWire
  rw [Option.filter_eq_some_iff, decide_eq_true_iff]
  cases (Envelope.blank operation.request).deserialize data none settings.maxFieldLength <;> simp [Except.toOption]

namespace Verdict

variable {settings : Settings} {auth : Authenticator} {operation : Operation}

theorem seen_direct (userId : Int) (password : Bytes) (fields : List Bytes) :
    (direct settings auth operation userId password fields).seen = operation.shown settings userId password fields := by
  unfold direct Operation.shown requested
  split
  · rfl
  · cases request operation userId fields with
    | error e => rfl
    | ok seen =>
      show (submitted auth operation userId seen).seen = some seen
      unfold submitted
      split <;> rfl

theorem seen_wire (data : Bytes) :
    (wire settings auth operation data).seen = operation.shownWire settings data := by
  unfold wire Operation.shownWire
  cases (Envelope.blank operation.request).deserialize data none settings.maxFieldLength with
  | error e => rfl
  | ok seen =>
    cases hs : seen.status with
    | invalid => simp [Except.toOption, Option.filter, hs, refused]
    | ok =>
      by_cases hmax : settings.maxPasswordLength < (Authenticator.fieldOf seen passwordField).length
      · simp [Except.toOption, Option.filter, hs, hmax, refused]
      · have hreplied : (replied auth operation seen).seen = some seen := by
          unfold replied
          split <;> rfl
        simp [Except.toOption, Option.filter, hs, hmax, hreplied, Nat.le_of_not_lt hmax]

theorem seen_enroll (userId : Int) (password : Option Bytes) :
    (enroll settings auth userId password).seen.map (.enroll, ·) = (Visit.enroll userId password).shown settings := by
  rcases password with _ | _ | ⟨first, rest⟩
  · rfl
  · rfl
  · exact congrArg _ (seen_direct userId (first :: rest) [first :: rest])

theorem seen_verify (userId : Int) (handle password : Option Bytes) :
    (verify settings auth userId handle password).seen.map (.verify, ·) =
      (Visit.verify userId handle password).shown settings := by
  rcases handle with _ | handle
  · rfl
  rcases password with _ | password
  · rfl
  · exact congrArg _ (seen_direct userId password [handle, password])

end Verdict

namespace Device

variable {d : Device}

/-! ## One visit, and a run of them -/

/-- A visit that is settled by a verdict hands over what the verdict shows. -/
theorem invocations_of_follows {α : Type} {operation : Operation} {v : Verdict} {shows : Store → α → Bytes}
    {outcome : Except DeviceError α × Device} {shown : Option (Operation × Envelope)}
    (h : Follows (d.counted operation) operation v shows outcome) (hshown : v.seen.map (operation, ·) = shown) :
    ∃ request, outcome.2.invocations = d.invocations ++ shown.toList.map fun shown =>
      { operation := shown.1, request := request, seen := shown.2, given := .blank shown.1.response } := by
  obtain ⟨request, hinvocations⟩ := h.invocations
  refine ⟨request, hinvocations.trans ?_⟩
  rw [← hshown, Verdict.invocations]
  cases v.seen <;> rfl

/-- **One visit of an open device** hands over what it shows, each time with a blank response; only closing ends it. -/
theorem visit_invocations (h : d.store.Sound) (hopen : d.closed = false) (auth : Authenticator) (v : Visit) :
    (∃ request, (d.visit auth v).2.invocations = d.invocations ++ (v.shown d.settings).toList.map fun shown =>
      { operation := shown.1, request := request, seen := shown.2, given := .blank shown.1.response }) ∧
    (d.visit auth v).2.closed = decide (v = .close) := by
  cases v with
  | enroll userId password =>
    have hfollows := Call.enroll_follows h hopen auth userId password
    have hinvocations := invocations_of_follows hfollows (Verdict.seen_enroll userId password)
    rw [visit_enroll]
    exact ⟨hinvocations, hfollows.closed.trans hopen⟩
  | verify userId handle password =>
    have hfollows := Call.verify_follows h hopen auth userId handle password
    have hinvocations := invocations_of_follows hfollows (Verdict.seen_verify userId handle password)
    rw [visit_verify]
    exact ⟨hinvocations, hfollows.closed.trans hopen⟩
  | message operation data =>
    have hfollows := Call.handle_follows h hopen auth operation data
    have hinvocations := invocations_of_follows hfollows (congrArg (Option.map (operation, ·)) (Verdict.seen_wire data))
    rw [visit_message]
    exact ⟨hinvocations, hfollows.closed.trans hopen⟩
  | close =>
    rw [visit_close, hopen]
    exact ⟨⟨0, (List.append_nil _).symm⟩, rfl⟩

theorem visits_of_closed : ∀ (history : List (Authenticator × Visit)) {d : Device}, d.closed = true →
    (d.visits history).2 = d
  | [], _, _ => rfl
  | (auth, v) :: rest, d, h => by
    show ((d.visit auth v).2.visits rest).2 = d
    rw [visit_of_closed h]
    exact visits_of_closed rest h

/-- The visits that come before a device is closed. -/
def visitsTillClose (history : List (Authenticator × Visit)) : List Visit :=
  (history.map Prod.snd).takeWhile (· ≠ .close)

/-- **What a run hands over** is what its visits show until the device is closed, in their order. -/
theorem invocations_visits : ∀ (history : List (Authenticator × Visit)) {d : Device}, d.store.Sound →
    d.closed = false → (d.visits history).2.invocations.map (fun i => (i.operation, i.seen)) =
      d.invocations.map (fun i => (i.operation, i.seen)) ++
        (visitsTillClose history).filterMap (Visit.shown d.settings)
  | [], d, _, _ => (List.append_nil _).symm
  | (auth, v) :: rest, d, h, hopen => by
    obtain ⟨⟨request, hinvocations⟩, hclosed⟩ := visit_invocations h hopen auth v
    obtain ⟨hreach, hsettings⟩ := visit_keeps h auth v
    show ((d.visit auth v).2.visits rest).2.invocations.map _ = _
    by_cases hv : v = .close
    · rw [visits_of_closed rest (hclosed.trans (decide_eq_true hv)), hinvocations, hv]
      simp [visitsTillClose, Visit.shown]
    · rw [invocations_visits rest (Store.Reaches.sound hreach h) (hclosed.trans (decide_eq_false hv)), hinvocations,
        hsettings]
      cases hshown : v.shown d.settings <;> simp [visitsTillClose, hv, hshown]

end Device

/-! ## Enrollments of an empty password -/

namespace Visit

variable {settings : Settings}

/-- **A direct enrollment shows a password that is not empty.** -/
theorem shown_enroll_ne {userId : Int} {password : Option Bytes} {seen : Envelope}
    (h : (Visit.enroll userId password).shown settings = some (.enroll, seen)) :
    seen.field? passwordField ≠ some [] := by
  rcases password with _ | _ | ⟨first, rest⟩
  · cases h
  · cases h
  obtain ⟨request, hrequest, heq⟩ := Option.map_eq_some_iff.1 h
  cases heq
  unfold Operation.shown at hrequest
  split at hrequest
  · cases hrequest
  unfold Verdict.request at hrequest
  split at hrequest
  · cases hrequest
  split at hrequest
  · cases hrequest
  · cases hrequest
    exact fun hempty => by cases hempty

/-- **A message off the wire shows an enrollment of an empty password exactly when it starts with the form of one.** -/
theorem shown_message_empty_iff {operation : Operation} {data : Bytes} :
    (∃ seen, (Visit.message operation data).shown settings = some (.enroll, seen) ∧ seen.field? passwordField = some []) ↔
      operation = .enroll ∧ ∃ userId rest, userId ≤ Word.largest ∧
        data = (Operation.enroll.message userId [] []).wire ++ rest := by
  constructor
  · rintro ⟨seen, hshown, hempty⟩
    obtain ⟨request, hrequest, heq⟩ := Option.map_eq_some_iff.1 hshown
    cases heq
    obtain ⟨hdeserialize, hok, -⟩ := Operation.shownWire_eq_some_iff.1 hrequest
    obtain ⟨hfits, -, ⟨rest, hdata⟩, -⟩ := Envelope.wire_of_deserialize hdeserialize hok
    obtain ⟨hkind, hcount⟩ := Envelope.shape_of_deserialize hdeserialize
    obtain ⟨content, hcontent⟩ := List.length_eq_one_iff.1 (hcount.trans rfl)
    have hfields : seen.fields = [[]] := by
      unfold Envelope.field? at hempty
      rw [hkind, hcontent] at hempty
      rw [hcontent]
      exact congrArg (fun c => [c]) (Option.some.inj hempty)
    refine ⟨rfl, seen.userId, rest, hfits.userId_le, ?_⟩
    rw [hdata, Envelope.wire, hfields]
    rfl
  · rintro ⟨rfl, userId, rest, huser, rfl⟩
    have hfits : (Operation.enroll.message userId [] []).Fits :=
      Verdict.fits_message huser (Nat.zero_le _) (Nat.zero_le _)
    have hlimit : ∀ content ∈ (Operation.enroll.message userId [] []).fields,
        (content.length : Int) ≤ settings.maxFieldLength :=
      fun content hc => by
        rw [List.mem_singleton.1 hc]
        exact Int.natCast_nonneg _
    have hdeserialize : (Envelope.blank Operation.enroll.request).deserialize
        ((Operation.enroll.message userId [] []).wire ++ rest) none settings.maxFieldLength =
          .ok (Operation.enroll.message userId [] []) :=
      Envelope.deserialize_wire_append rfl hfits Verdict.blank_message.1 Verdict.blank_message.2 hlimit rest
    have hshown : Operation.enroll.shownWire settings ((Operation.enroll.message userId [] []).wire ++ rest) =
        some (Operation.enroll.message userId [] []) :=
      Operation.shownWire_eq_some_iff.2 ⟨hdeserialize, rfl, by rw [Verdict.password_message]; exact Nat.zero_le _⟩
    exact ⟨_, Option.map_eq_some_iff.2 ⟨_, hshown, rfl⟩, rfl⟩

end Visit

namespace Device

/-- A request that a run hands over, by the visit that shows it. -/
theorem mem_invocations_iff (settings : Settings) (counters : Option Counters)
    (history : List (Authenticator × Visit)) (operation : Operation) (P : Envelope → Prop) :
    (∃ i ∈ ((make settings counters).visits history).2.invocations, i.operation = operation ∧ P i.seen) ↔
      ∃ v ∈ visitsTillClose history, ∃ seen, v.shown settings = some (operation, seen) ∧ P seen := by
  have hrun := invocations_visits history (d := make settings counters) Store.sound_empty rfl
  rw [show (make settings counters).invocations = [] from rfl, List.map_nil, List.nil_append] at hrun
  constructor
  · rintro ⟨i, hi, rfl, hP⟩
    have hmem := List.mem_map_of_mem (f := fun i : Invocation => (i.operation, i.seen)) hi
    rw [hrun] at hmem
    obtain ⟨v, hv, hshown⟩ := List.mem_filterMap.1 hmem
    exact ⟨v, hv, i.seen, hshown, hP⟩
  · rintro ⟨v, hv, seen, hshown, hP⟩
    have hmem : (operation, seen) ∈ (visitsTillClose history).filterMap (Visit.shown settings) :=
      List.mem_filterMap.2 ⟨v, hv, hshown⟩
    rw [show settings = (make settings counters).settings from rfl, ← hrun] at hmem
    obtain ⟨i, hi, heq⟩ := List.mem_map.1 hmem
    cases heq
    exact ⟨i, hi, rfl, hP⟩

/-- **When an empty password is enrolled.**  Whatever a device is asked for, its authenticators are handed an enrollment
of an empty password exactly when, before it is closed, a message comes in that starts with the wire form of one. -/
theorem enroll_empty_iff (settings : Settings) (counters : Option Counters) (history : List (Authenticator × Visit)) :
    (∃ i ∈ ((make settings counters).visits history).2.invocations,
      i.operation = .enroll ∧ i.seen.field? passwordField = some []) ↔
    ∃ userId rest, userId ≤ Word.largest ∧
      .message .enroll ((Operation.enroll.message userId [] []).wire ++ rest) ∈ visitsTillClose history := by
  rw [mem_invocations_iff settings counters history .enroll fun seen => seen.field? passwordField = some []]
  constructor
  · rintro ⟨v, hv, seen, hshown, hempty⟩
    cases v with
    | enroll userId password => exact absurd hempty (Visit.shown_enroll_ne hshown)
    | verify userId handle password =>
      rcases handle with _ | handle
      · cases hshown
      rcases password with _ | password
      · cases hshown
      obtain ⟨request, -, heq⟩ := Option.map_eq_some_iff.1 hshown
      cases heq
    | message operation data =>
      obtain ⟨rfl, userId, rest, huser, rfl⟩ := Visit.shown_message_empty_iff.1 ⟨seen, hshown, hempty⟩
      exact ⟨userId, rest, huser, hv⟩
    | close => cases hshown
  · rintro ⟨userId, rest, huser, hv⟩
    exact ⟨_, hv, Visit.shown_message_empty_iff.2 ⟨rfl, userId, rest, huser, rfl⟩⟩

/-- A message with an empty password is enrolled. -/
theorem enrolls_empty_password : ∃ i ∈ ((make {} none).visits
    [(Authenticator.echoing, .message .enroll [0, 0, 0, 0, 7, 0, 0, 0, 0, 0, 0, 0])]).2.invocations,
    i.operation = .enroll ∧ i.seen.field? passwordField = some [] := by
  decide

end Device
end PasswordGate

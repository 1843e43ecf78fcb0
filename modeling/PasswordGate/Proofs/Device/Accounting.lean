import PasswordGate.Proofs.Counters
import PasswordGate.Proofs.Device.Invocations
/-!
# Accounting — what the counters of a device say about the calls that were made

`Device.attempts` lists the calls that were made while a device was open, each with what the caller got; why the device
turned a call down is read off that (`Visit.rejection`).  One call adds itself and at most one rejection to the counters
(`visit_counters`), so after any run the counters are the numbers of calls in that list (`counters_account`).
-/
namespace PasswordGate

def Reason.all : List Reason := [.emptyPassword, .passwordTooLong, .missingArgument, .authenticator, .malformed]

/-! ## Calls as the caller sees them -/

/-- The device's own error, if a call ended in it. -/
def rejectedFor {α : Type} : Except DeviceError α → Option Reason
  | .error (.rejected _ reason) => some reason
  | _ => none

/-- Why a message off the wire is turned down that is turned down at all. -/
def Operation.fault (operation : Operation) (settings : Settings) (data : Bytes) : Reason :=
  match (Envelope.blank operation.request).deserialize data none settings.maxFieldLength with
  | .error _ => .malformed
  | .ok seen =>
    if seen.status ≠ .ok then .malformed
    else if settings.maxPasswordLength < (Authenticator.fieldOf seen passwordField).length then .passwordTooLong
    else .authenticator

theorem Operation.fault_of_decoded (operation : Operation) {settings : Settings} {data : Bytes} {seen : Envelope}
    (h : (Envelope.blank operation.request).deserialize data none settings.maxFieldLength = .ok seen) :
    operation.fault settings data = if seen.status ≠ .ok then .malformed
      else if settings.maxPasswordLength < (Authenticator.fieldOf seen passwordField).length then .passwordTooLong
      else .authenticator := by rw [fault, h]

namespace Visit

def operation : Visit → Option Operation
  | .enroll _ _ => some .enroll
  | .verify _ _ _ => some .verify
  | .message operation _ => some operation
  | .close => none

/-- **The caller sees that the device turns a call down**: a direct call ends in the device's own error, and a message is
answered by the bare status word. -/
def TurnedDown (result : Except DeviceError Reply) : Visit → Prop
  | .enroll _ _ | .verify _ _ _ => ∃ operation reason, result = .error (.rejected operation reason)
  | .message _ _ => result = .ok (.message [1, 0, 0, 0])
  | .close => False

/-- **Why the device turned a call down**, if it did, by what the caller got. -/
def rejection (settings : Settings) (result : Except DeviceError Reply) : Visit → Option Reason
  | .enroll _ _ | .verify _ _ _ => rejectedFor result
  | .message operation data =>
    match result with
    | .ok (.message reply) => if reply = [1, 0, 0, 0] then some (operation.fault settings data) else none
    | _ => none
  | .close => none

theorem turnedDown_iff (settings : Settings) (result : Except DeviceError Reply) (v : Visit) :
    v.TurnedDown result ↔ (v.rejection settings result).isSome := by
  have hrejected : (∃ operation reason, result = .error (.rejected operation reason)) ↔ (rejectedFor result).isSome := by
    cases result with
    | ok reply => simp [rejectedFor]
    | error e => cases e <;> simp [rejectedFor]
  cases v with
  | enroll userId password => exact hrejected
  | verify userId handle password => exact hrejected
  | message operation data =>
    unfold TurnedDown rejection
    rcases result with e | (b | reply | _)
    · simp
    · simp
    · by_cases hreply : reply = [1, 0, 0, 0] <;> simp [hreply]
    · simp
  | close => simp [TurnedDown, rejection]

instance (result : Except DeviceError Reply) (v : Visit) : Decidable (v.TurnedDown result) :=
  decidable_of_iff _ (turnedDown_iff {} result v).symm

end Visit

/-! ## What a verdict turns down -/

namespace Verdict

variable {settings : Settings} {auth : Authenticator} {operation : Operation}

theorem rejection_withdrawn (userId : Int) (reply : Envelope) :
    (withdrawn operation userId reply).rejection = rejectedFor (withdrawn operation userId reply).result := by
  unfold withdrawn
  cases reply.status <;> rfl

theorem rejection_submitted (userId : Int) (seen : Envelope) :
    (submitted auth operation userId seen).rejection = rejectedFor (submitted auth operation userId seen).result := by
  unfold submitted
  cases hr : auth.reply operation seen with
  | error e =>
    cases e with
    | rejected other reason => exact absurd hr Authenticator.reply_ne_rejected
    | _ => rfl
  | ok reply => exact rejection_withdrawn userId reply

/-- **A direct request is turned down exactly when it ends in the device's own error.** -/
theorem rejection_direct (userId : Int) (password : Bytes) (fields : List Bytes) :
    (direct settings auth operation userId password fields).rejection =
      rejectedFor (direct settings auth operation userId password fields).result := by
  unfold direct requested
  split
  · rfl
  · cases request operation userId fields with
    | error e => rfl
    | ok seen => exact rejection_submitted userId seen

theorem rejection_enroll (userId : Int) (password : Option Bytes) :
    (enroll settings auth userId password).rejection = rejectedFor (enroll settings auth userId password).result := by
  rcases password with _ | _ | ⟨first, rest⟩
  · rfl
  · rfl
  · exact rejection_direct userId (first :: rest) [first :: rest]

theorem rejection_verify (userId : Int) (handle password : Option Bytes) :
    (verify settings auth userId handle password).rejection =
      rejectedFor (verify settings auth userId handle password).result := by
  rcases handle with _ | handle
  · rfl
  rcases password with _ | password
  · rfl
  · exact rejection_direct userId password [handle, password]

theorem rejection_refused {data : Bytes} {reason : Reason} (hfault : operation.fault settings data = reason)
    (level : Level) (text : String) : (refused reason level text).rejection =
      (Visit.message operation data).rejection settings ((refused reason level text).result.map .message) := by
  show some reason = if Word.bytes Status.invalid.number = [1, 0, 0, 0] then some (operation.fault settings data) else none
  rw [hfault]
  rfl

theorem rejection_responded {data : Bytes} (hfault : operation.fault settings data = .authenticator) (userId : Nat)
    {reply : Envelope} (hfits : reply.Fits) : (responded operation userId reply).rejection =
      (Visit.message operation data).rejection settings ((responded operation userId reply).result.map .message) := by
  unfold responded
  cases hs : reply.status with
  | invalid => exact rejection_refused hfault _ _
  | ok =>
    rw [Envelope.encode_eq_wire hs hfits]
    show none = if reply.wire = [1, 0, 0, 0] then some (operation.fault settings data) else none
    rw [if_neg (Envelope.wire_ne_refusal hs)]

/-- **A message off the wire is turned down exactly when it is answered by the bare status word.** -/
theorem rejection_wire (data : Bytes) : (wire settings auth operation data).rejection =
    (Visit.message operation data).rejection settings ((wire settings auth operation data).result.map .message) := by
  unfold wire
  cases hdecode : (Envelope.blank operation.request).deserialize data none settings.maxFieldLength with
  | error e => rfl
  | ok seen =>
    have hfault := operation.fault_of_decoded hdecode
    dsimp only
    cases hs : seen.status with
    | invalid =>
      rw [hs, if_pos (by decide)] at hfault
      exact rejection_refused hfault _ _
    | ok =>
      rw [hs, if_neg (by decide)] at hfault
      dsimp only
      by_cases hmax : settings.maxPasswordLength < (Authenticator.fieldOf seen passwordField).length
      · rw [if_pos hmax] at hfault ⊢
        exact rejection_refused hfault _ _
      · rw [if_neg hmax] at hfault ⊢
        unfold replied
        cases hr : auth.reply operation seen with
        | error e => rfl
        | ok reply =>
          obtain ⟨hfits, -⟩ := Envelope.wire_of_deserialize hdecode hs
          obtain ⟨hreply, -⟩ := Authenticator.reply_spec hr hfits
          exact rejection_responded hfault seen.userId hreply

end Verdict

/-! ## Counters as a collector reads them -/

theorem Operation.label_eq_iff {x y : Operation} : x.label = y.label ↔ x = y := by
  cases x <;> cases y <;> decide

theorem Reason.label_eq_iff {x y : Reason} : x.label = y.label ↔ x = y := by
  cases x <;> cases y <;> decide

namespace Counters

def requestsOf (c : Counters) (operation : Operation) : Nat :=
  Exposition.value c "keyguard_requests_total" [("operation", operation.label)]

def rejectionsOf (c : Counters) (operation : Operation) (reason : Reason) : Nat :=
  Exposition.value c "keyguard_rejections_total" [("operation", operation.label), ("reason", reason.label)]

/-- The rejections of an operation, whatever the reason. -/
def allRejections (c : Counters) (operation : Operation) : Nat :=
  Reason.all.foldr (fun reason total => c.rejectionsOf operation reason + total) 0

/-- A call that was made, and why it was turned down, if it was. -/
def record (c : Counters) (operation : Operation) (rejection : Option Reason) : Counters :=
  match rejection with
  | none => c.recordRequest operation.label
  | some reason => (c.recordRequest operation.label).recordRejection operation.label reason.label

variable (c : Counters) (operation : Operation) (rejection : Option Reason) (x : Operation)

theorem requestsOf_record : (c.record operation rejection).requestsOf x =
    c.requestsOf x + if x = operation then 1 else 0 := by
  have hrequests : (c.record operation rejection).requests = (c.recordRequest operation.label).requests := by
    cases rejection <;> rfl
  have hcount := requestCount_recordRequest c operation.label x.label
  simp only [beq_iff_eq, Operation.label_eq_iff] at hcount
  rw [requestsOf, requestsOf, Exposition.value_requests, Exposition.value_requests, ← hcount, requestCount, requestCount,
    hrequests]

theorem rejectionsOf_record (reason : Reason) : (c.record operation rejection).rejectionsOf x reason =
    c.rejectionsOf x reason + if x = operation ∧ rejection = some reason then 1 else 0 := by
  rw [rejectionsOf, rejectionsOf, Exposition.value_rejections, Exposition.value_rejections]
  cases rejection with
  | none =>
    rw [if_neg (fun h => by cases h.2)]
    rfl
  | some given =>
    have hcount := rejectionCount_recordRejection (c.recordRequest operation.label) operation.label given.label x.label
      reason.label
    simp only [beq_iff_eq, Prod.mk.injEq, Operation.label_eq_iff, Reason.label_eq_iff] at hcount
    have hgiven : some given = some reason ↔ reason = given := by
      rw [Option.some.injEq]
      exact eq_comm
    simp only [hgiven]
    exact hcount

/-- **A call adds at most one rejection**, whatever the reason. -/
theorem allRejections_record : (c.record operation rejection).allRejections x =
    c.allRejections x + if x = operation ∧ rejection.isSome then 1 else 0 := by
  have hsum : ∀ c : Counters, c.allRejections x = c.rejectionsOf x .emptyPassword + (c.rejectionsOf x .passwordTooLong +
      (c.rejectionsOf x .missingArgument + (c.rejectionsOf x .authenticator + (c.rejectionsOf x .malformed + 0)))) :=
    fun _ => rfl
  simp only [hsum, rejectionsOf_record]
  by_cases hx : x = operation
  · rcases rejection with _ | reason
    · simp
    · cases reason <;> simp [hx] <;> omega
  · simp [hx]

end Counters

/-! ## One call, and a run of them -/

/-- **A call that was made while a device was open**, and what the caller got. -/
structure Attempt where
  visit : Visit
  result : Except DeviceError Reply

namespace Attempt

/-- The call is one of an operation. -/
abbrev Of (a : Attempt) (operation : Operation) : Prop := a.visit.operation = some operation

/-- The call is one of an operation that the device turned down for a reason. -/
abbrev RejectedFor (settings : Settings) (operation : Operation) (reason : Reason) (a : Attempt) : Prop :=
  a.Of operation ∧ a.visit.rejection settings a.result = some reason

end Attempt

/-- **What a call adds to the counters**: a request of its operation, a rejection for the reason it was turned down for,
and so one rejection in all if the caller sees that it was, and else none. -/
structure Counters.Adds (c : Counters) (settings : Settings) (a : Attempt) (c' : Counters) : Prop where
  requests : ∀ x, c'.requestsOf x = c.requestsOf x + if a.Of x then 1 else 0
  rejections : ∀ x reason, c'.rejectionsOf x reason = c.rejectionsOf x reason + if a.RejectedFor settings x reason then 1 else 0
  all : ∀ x, c'.allRejections x = c.allRejections x + if a.Of x ∧ a.visit.TurnedDown a.result then 1 else 0

theorem Counters.adds_record (c : Counters) (settings : Settings) {a : Attempt} {operation : Operation}
    (ha : a.visit.operation = some operation) :
    c.Adds settings a (c.record operation (a.visit.rejection settings a.result)) := by
  have hof : ∀ x, a.Of x ↔ x = operation := fun x => by
    rw [Attempt.Of, ha, Option.some.injEq]
    exact eq_comm
  refine ⟨fun x => ?_, fun x reason => ?_, fun x => ?_⟩
  · simp only [requestsOf_record, hof]
  · simp only [rejectionsOf_record, Attempt.RejectedFor, hof]
  · simp only [allRejections_record, hof, Visit.turnedDown_iff settings]

/-- A call without an operation adds nothing. -/
theorem Counters.adds_nothing (c : Counters) (settings : Settings) {a : Attempt} (ha : a.visit.operation = none) :
    c.Adds settings a c := by
  have hof : ∀ x, ¬ a.Of x := fun x hx => by
    rw [Attempt.Of, ha] at hx
    cases hx
  exact ⟨fun x => by rw [if_neg (hof x)]; rfl, fun x reason => by rw [if_neg fun h => hof x h.1]; rfl,
    fun x => by rw [if_neg fun h => hof x h.1]; rfl⟩

/-- A call adds a request with every rejection. -/
theorem Counters.Adds.all_le {c c' : Counters} {settings : Settings} {a : Attempt} (h : c.Adds settings a c')
    (x : Operation) : c'.allRejections x + c.requestsOf x ≤ c'.requestsOf x + c.allRejections x := by
  rw [h.requests, h.all]
  by_cases hof : a.Of x
  · rw [if_pos hof]
    split <;> omega
  · rw [if_neg hof, if_neg fun both => hof both.1]
    omega

namespace Device

variable {d : Device} {c : Counters}

/-- **The calls of a run that are made while the device is open**, in their order. -/
def attempts (d : Device) : List (Authenticator × Visit) → List Attempt
  | [] => []
  | (auth, v) :: rest =>
    let later := (d.visit auth v).2.attempts rest
    if d.closed then later else { visit := v, result := (d.visit auth v).1 } :: later

theorem attempts_of_closed (h : d.closed = true) (auth : Authenticator) (v : Visit)
    (rest : List (Authenticator × Visit)) : d.attempts ((auth, v) :: rest) = d.attempts rest := by
  show (if d.closed then _ else _) = _
  rw [if_pos h, visit_of_closed h]

theorem attempts_of_open (h : d.closed = false) (auth : Authenticator) (v : Visit)
    (rest : List (Authenticator × Visit)) : d.attempts ((auth, v) :: rest) =
      { visit := v, result := (d.visit auth v).1 } :: (d.visit auth v).2.attempts rest := by
  show (if d.closed then _ else _) = _
  rw [if_neg (by rw [h]; decide)]

theorem counters_of_follows {α : Type} {operation : Operation} {v : Verdict} {shows : Store → α → Bytes}
    {outcome : Except DeviceError α × Device} (h : Follows (d.counted operation) operation v shows outcome)
    (hc : d.counters = some c) : outcome.2.counters = some (c.record operation v.rejection) := by
  rw [h.counters, counted, hc]
  show some (v.count operation _) = _
  unfold Verdict.count Counters.record
  cases v.rejection <;> rfl

theorem rejectedFor_of_follows {operation : Operation} {v : Verdict} {shows : Store → BufferId → Bytes}
    {outcome : Except DeviceError BufferId × Device} (h : Follows (d.counted operation) operation v shows outcome) :
    rejectedFor v.result = rejectedFor (outcome.1.map Reply.buffer) := by
  rw [← h.result]
  cases outcome.1 with
  | ok b => rfl
  | error e => cases e <;> rfl

/-- A call of an open device is recorded with the reason that the caller's result shows. -/
theorem visit_record (h : d.store.Sound) (hopen : d.closed = false) (hc : d.counters = some c) (auth : Authenticator)
    {v : Visit} {operation : Operation} (hv : v.operation = some operation) : (d.visit auth v).2.counters =
      some (c.record operation (v.rejection d.settings (d.visit auth v).1)) := by
  cases v with
  | enroll userId password =>
    cases hv
    have hfollows := Call.enroll_follows h hopen auth userId password
    rw [visit_enroll, counters_of_follows hfollows hc, Verdict.rejection_enroll, rejectedFor_of_follows hfollows]
    rfl
  | verify userId handle password =>
    cases hv
    have hfollows := Call.verify_follows h hopen auth userId handle password
    rw [visit_verify, counters_of_follows hfollows hc, Verdict.rejection_verify, rejectedFor_of_follows hfollows]
    rfl
  | message operation data =>
    cases hv
    have hfollows := Call.handle_follows h hopen auth operation data
    have hresult : (Verdict.wire d.settings auth operation data).result =
        ((Call.handle auth operation data).run d).1 := by
      rw [← hfollows.result]
      cases ((Call.handle auth operation data).run d).1 <;> rfl
    rw [visit_message, counters_of_follows hfollows hc, Verdict.rejection_wire, hresult]
  | close => cases hv

/-- **What one visit of an open device adds to the counters.** -/
theorem visit_adds (h : d.store.Sound) (hopen : d.closed = false) (hc : d.counters = some c) (auth : Authenticator)
    (v : Visit) : ∃ c', (d.visit auth v).2.counters = some c' ∧
      c.Adds d.settings { visit := v, result := (d.visit auth v).1 } c' := by
  cases hv : v.operation with
  | some operation => exact ⟨_, visit_record h hopen hc auth hv, c.adds_record d.settings hv⟩
  | none =>
    refine ⟨c, ?_, c.adds_nothing d.settings hv⟩
    cases v with
    | close =>
      rw [visit_close, hopen]
      exact hc
    | _ => cases hv

/-- **What a run of visits adds to the counters**: the number of calls that were made while the device was open. -/
theorem visits_add : ∀ (history : List (Authenticator × Visit)) {d : Device} {c : Counters}, d.store.Sound →
    d.counters = some c → ∃ c', (d.visits history).2.counters = some c' ∧
    (∀ x, c'.requestsOf x = c.requestsOf x + (d.attempts history).countP (·.Of x)) ∧
    (∀ x reason, c'.rejectionsOf x reason =
      c.rejectionsOf x reason + (d.attempts history).countP (·.RejectedFor d.settings x reason)) ∧
    ∀ x, c'.allRejections x + c.requestsOf x ≤ c'.requestsOf x + c.allRejections x
  | [], d, c, _, hc => ⟨c, hc, fun _ => rfl, fun _ _ => rfl, fun x => Nat.le_of_eq (Nat.add_comm _ _)⟩
  | (auth, v) :: rest, d, c, h, hc => by
    show ∃ c', ((d.visit auth v).2.visits rest).2.counters = some c' ∧ _
    cases hclosed : d.closed with
    | true =>
      rw [attempts_of_closed hclosed, visit_of_closed hclosed]
      exact visits_add rest h hc
    | false =>
      obtain ⟨c₁, hc₁, hadds⟩ := visit_adds h hclosed hc auth v
      obtain ⟨hreach, hsettings⟩ := visit_keeps h auth v
      obtain ⟨c', hc', hrequests, hrejections, hall⟩ := visits_add rest (Store.Reaches.sound hreach h) hc₁
      rw [hsettings] at hrejections
      rw [attempts_of_open hclosed]
      refine ⟨c', hc', fun x => ?_, fun x reason => ?_, fun x => ?_⟩
      · rw [hrequests, hadds.requests, List.countP_cons]
        simp only [decide_eq_true_eq]
        omega
      · rw [hrejections, hadds.rejections, List.countP_cons]
        simp only [decide_eq_true_eq]
        omega
      · have hfirst := hadds.all_le x
        have hlater := hall x
        omega

/-! ## The whole account -/

/-- A device is closed once it has been asked to close. -/
theorem closed_visits : ∀ (history : List (Authenticator × Visit)) {d : Device}, d.store.Sound → d.closed = false →
    (d.visits history).2.closed = decide (.close ∈ history.map Prod.snd)
  | [], _, _, hopen => hopen
  | (auth, v) :: rest, d, h, hopen => by
    obtain ⟨-, hclosed⟩ := visit_invocations h hopen auth v
    obtain ⟨hreach, -⟩ := visit_keeps h auth v
    show ((d.visit auth v).2.visits rest).2.closed = _
    by_cases hv : v = .close
    · have hafter := hclosed.trans (decide_eq_true hv)
      rw [visits_of_closed rest hafter, hafter]
      exact (decide_eq_true (hv ▸ List.mem_cons_self)).symm
    · rw [closed_visits rest (Store.Reaches.sound hreach h) (hclosed.trans (decide_eq_false hv))]
      refine decide_eq_decide.2 ⟨List.mem_cons_of_mem _, fun hmem => ?_⟩
      exact (List.mem_cons.1 hmem).resolve_left fun he => hv he.symm

/-- **The counters of a device account for every call.**  On a device with fresh counters, after any run of visits: the
requests of an operation are the calls of it that were made while the device was open, however they ended; the rejections
of an operation for a reason are those among them that the device turned down for it; and there are never more rejections
of an operation than requests.  Until the device is asked to close, each further call adds what `Counters.Adds` says;
from then on, a call ends in an error and leaves the device exactly as it was. -/
theorem counters_account (settings : Settings) (counters : Option Counters) (history : List (Authenticator × Visit))
    (hfresh : (make settings counters).counters = some {}) :
    ∃ c, ((make settings counters).visits history).2.counters = some c ∧
      (∀ x, c.requestsOf x = ((make settings counters).attempts history).countP (·.Of x)) ∧
      (∀ x reason, c.rejectionsOf x reason =
        ((make settings counters).attempts history).countP (·.RejectedFor settings x reason)) ∧
      (∀ x, c.allRejections x ≤ c.requestsOf x) ∧
      (.close ∉ history.map Prod.snd → ∀ auth v, ∃ c',
        (((make settings counters).visits history).2.visit auth v).2.counters = some c' ∧
        c.Adds settings { visit := v, result := (((make settings counters).visits history).2.visit auth v).1 } c') ∧
      (.close ∈ history.map Prod.snd → ∀ auth v, v ≠ .close → ((make settings counters).visits history).2.visit auth v =
        (.error .closed, ((make settings counters).visits history).2)) := by
  have hnothing : ∀ x, ({} : Counters).requestsOf x = 0 ∧ ({} : Counters).allRejections x = 0 ∧
      ∀ reason, ({} : Counters).rejectionsOf x reason = 0 := fun x => by
    have hrejections : ∀ reason, ({} : Counters).rejectionsOf x reason = 0 := fun reason => by
      rw [Counters.rejectionsOf, Exposition.value_rejections]
      rfl
    refine ⟨?_, ?_, hrejections⟩
    · rw [Counters.requestsOf, Exposition.value_requests]
      rfl
    · simp only [Counters.allRejections, hrejections]
      rfl
  obtain ⟨hsound, hsettings⟩ := visits_keep history (d := make settings counters) Store.sound_empty
  have hclosed := closed_visits history (d := make settings counters) Store.sound_empty rfl
  obtain ⟨c, hc, hrequests, hrejections, hall⟩ := visits_add history (d := make settings counters) Store.sound_empty hfresh
  refine ⟨c, hc, fun x => ?_, fun x reason => ?_, fun x => ?_, fun hnot auth v => ?_, fun hclose auth v hv => ?_⟩
  · rw [hrequests, (hnothing x).1, Nat.zero_add]
  · rw [hrejections, (hnothing x).2.2, Nat.zero_add]
    rfl
  · have hle := hall x
    rw [(hnothing x).1, (hnothing x).2.1] at hle
    exact hle
  · have hadds := visit_adds hsound (hclosed.trans (decide_eq_false hnot)) hc auth v
    rwa [hsettings] at hadds
  · exact visit_refused (hclosed.trans (decide_eq_true hclose)) auth hv

/-- A request with an empty password, a malformed message, and one more request after the device was closed. -/
theorem counters_account_turned_down : ∃ c, ((make { metricsEnabled := true } none).visits
      [(.echoing, .enroll 7 (some [])), (.echoing, .message .enroll [1, 2]), (.echoing, .close),
        (.echoing, .enroll 7 (some [1]))]).2.counters = some c ∧
    c.requestsOf .enroll = 2 ∧ c.rejectionsOf .enroll .emptyPassword = 1 ∧ c.rejectionsOf .enroll .malformed = 1 := by
  obtain ⟨c, hc, hrequests, hrejections, -⟩ := counters_account { metricsEnabled := true } none
    [(.echoing, .enroll 7 (some [])), (.echoing, .message .enroll [1, 2]), (.echoing, .close),
      (.echoing, .enroll 7 (some [1]))] rfl
  exact ⟨c, hc, hrequests .enroll, hrejections .enroll .emptyPassword, hrejections .enroll .malformed⟩

end Device

end PasswordGate

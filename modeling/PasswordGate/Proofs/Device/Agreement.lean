import PasswordGate.Proofs.Device.Visits
import PasswordGate.Proofs.Settings.Making
/-!
# Agreement — the direct call and the wire call of a request come to the same

A request can be put to a device directly, or as the message that says the same.  The two verdicts are compared first
(`verdicts_agree`): the round trip of the codec gives the wire call the request that the direct call builds, and since
no password limit lies over the field limit, both turn the same passwords down.  The calls follow their verdicts.
-/
namespace PasswordGate

namespace Operation

/-- The fields of a request, in wire order; an enrollment has no handle. -/
def fields (operation : Operation) (handle password : Bytes) : List Bytes :=
  match operation with
  | .enroll => [password]
  | .verify => [handle, password]

theorem forall_fields {P : Bytes → Prop} {operation : Operation} {handle password : Bytes} (hhandle : P handle)
    (hpassword : P password) : ∀ content ∈ operation.fields handle password, P content := by
  intro content hc
  cases operation with
  | enroll =>
    rw [List.mem_singleton.1 hc]
    exact hpassword
  | verify =>
    rcases List.mem_cons.1 hc with rfl | hc
    · exact hhandle
    · rw [List.mem_singleton.1 hc]
      exact hpassword

def visit (operation : Operation) (userId : Int) (handle password : Bytes) : Visit :=
  match operation with
  | .enroll => .enroll userId (some password)
  | .verify => .verify userId (some handle) (some password)

def message (operation : Operation) (userId : Nat) (handle password : Bytes) : Envelope :=
  { kind := operation.request, userId := userId, fields := operation.fields handle password }

end Operation

/-- **How the two calls of a request end**: both give the same result, one of them in a response that says it; both turn
the request down, one of them with the bare status word; or both end in the same error. -/
inductive Agrees (operation : Operation) : Except DeviceError Bytes → Except DeviceError Bytes → Prop
  | result {reply : Envelope} (hok : reply.status = .ok) (hfits : reply.Fits) (hkind : reply.kind = operation.response)
      (hcount : reply.fields.length = 1) : Agrees operation (.ok (reply.fields.getD 0 [])) (.ok reply.wire)
  | rejection (reason : Reason) :
      Agrees operation (.error (.rejected operation reason)) (.ok (Word.bytes Status.invalid.number))
  | failure {e : DeviceError} (he : ∀ reason, e ≠ .rejected operation reason) : Agrees operation (.error e) (.error e)

namespace Verdict

variable {settings : Settings} {operation : Operation} {userId : Nat} {handle password : Bytes}

theorem fits_message (huser : userId ≤ Word.largest) (hhandle : handle.length ≤ Word.largest)
    (hpassword : password.length ≤ Word.largest) : (operation.message userId handle password).Fits :=
  ⟨huser, Operation.forall_fields hhandle hpassword⟩

theorem blank_message : (Envelope.blank operation.request).kind = (operation.message userId handle password).kind ∧
    (Envelope.blank operation.request).fields.length = (operation.message userId handle password).fields.length := by
  cases operation <;> exact ⟨rfl, rfl⟩

theorem password_message :
    Authenticator.fieldOf (operation.message userId handle password) passwordField = password := by
  cases operation <;> rfl

theorem password_mem_message : password ∈ (operation.message userId handle password).fields := by
  cases operation <;> simp [Operation.message, Operation.fields]

theorem withdrawn_agrees {reply : Envelope} (hfits : reply.Fits) (hkind : reply.kind = operation.response)
    (hcount : reply.fields.length = 1) (user : Int) :
    (withdrawn operation user reply).rejection = (responded operation userId reply).rejection ∧
    Agrees operation (withdrawn operation user reply).result (responded operation userId reply).result := by
  unfold withdrawn responded
  cases hs : reply.status with
  | invalid => exact ⟨rfl, .rejection .authenticator⟩
  | ok =>
    rw [Envelope.encode_eq_wire hs hfits]
    exact ⟨rfl, .result hs hfits hkind hcount⟩

/-- **A reply is given alike in both calls.** -/
theorem submitted_agrees (auth : Authenticator) (operation : Operation) {seen : Envelope} (hseen : seen.Fits)
    (user : Int) :
    (submitted auth operation user seen).seen = (replied auth operation seen).seen ∧
    (submitted auth operation user seen).rejection = (replied auth operation seen).rejection ∧
    Agrees operation (submitted auth operation user seen).result (replied auth operation seen).result := by
  unfold submitted replied
  cases hr : auth.reply operation seen with
  | error e =>
    refine ⟨rfl, rfl, .failure fun reason he => ?_⟩
    rw [he] at hr
    exact Authenticator.reply_ne_rejected hr
  | ok reply =>
    obtain ⟨hfits, hkind, hcount⟩ := Authenticator.reply_spec hr hseen
    exact ⟨rfl, withdrawn_agrees hfits hkind hcount user⟩

theorem requested_message (auth : Authenticator) (huser : userId ≤ Word.largest) (hhandle : handle.length ≤ Word.largest)
    (hpassword : password.length ≤ Word.largest) :
    requested auth operation userId (operation.fields handle password) =
      submitted auth operation userId (operation.message userId handle password) := by
  have hcheck : Store.checkUserId userId = .ok userId := by
    rw [Store.checkUserId, if_pos ⟨Int.natCast_nonneg _, Int.ofNat_le.2 huser⟩]
    rfl
  unfold requested
  rw [Call.request_of_le (Operation.forall_fields hhandle hpassword), hcheck]
  rfl

/-- **A request whose fields respect the limit is decoded as what it says.** -/
theorem deserialize_message (hs : settings.Bounded) (huser : userId ≤ Word.largest)
    (hhandle : handle.length ≤ settings.maxFieldLength) (hpassword : password.length ≤ settings.maxFieldLength) :
    (Envelope.blank operation.request).deserialize (operation.message userId handle password).wire none
      settings.maxFieldLength = .ok (operation.message userId handle password) := by
  have hfits : (operation.message userId handle password).Fits :=
    fits_message huser (Nat.le_trans hhandle hs.field_le) (Nat.le_trans hpassword hs.field_le)
  rw [← List.append_nil (operation.message userId handle password).wire]
  exact Envelope.deserialize_wire_append rfl hfits blank_message.1 blank_message.2
    (Operation.forall_fields (Int.ofNat_le.2 hhandle) (Int.ofNat_le.2 hpassword)) []

/-- **The two verdicts on a request.**  The authenticator is shown the same, and the calls end alike; if the password
respects the field limit, they are also turned down for the same reason. -/
theorem verdicts_agree (hs : settings.Bounded) (auth : Authenticator) (operation : Operation) (huser : userId ≤ Word.largest)
    (hhandle : handle.length ≤ settings.maxFieldLength) (hpassword : password.length ≤ Word.largest) :
    (direct settings auth operation userId password (operation.fields handle password)).seen =
        (wire settings auth operation (operation.message userId handle password).wire).seen ∧
      (password.length ≤ settings.maxFieldLength →
        (direct settings auth operation userId password (operation.fields handle password)).rejection =
          (wire settings auth operation (operation.message userId handle password).wire).rejection) ∧
      Agrees operation (direct settings auth operation userId password (operation.fields handle password)).result
        (wire settings auth operation (operation.message userId handle password).wire).result := by
  have hhandle' := Nat.le_trans hhandle hs.field_le
  have hfits : (operation.message userId handle password).Fits := fits_message huser hhandle' hpassword
  by_cases hfield : password.length ≤ settings.maxFieldLength
  · -- The wire call sees the request itself, and checks the password as the direct call does.
    have hwire : wire settings auth operation (operation.message userId handle password).wire =
        if settings.maxPasswordLength < password.length then
          refused .passwordTooLong Level.warning (s!"Rejecting {operation.label} request for user {userId}: " ++
            s!"password of {password.length} bytes over limit")
        else replied auth operation (operation.message userId handle password) := by
      unfold wire
      rw [deserialize_message hs huser hhandle hfield]
      show (if _ < (Authenticator.fieldOf (operation.message userId handle password) passwordField).length then _ else _) = _
      rw [password_message]
      rfl
    rw [hwire, direct]
    by_cases hmax : settings.maxPasswordLength < password.length
    · rw [if_pos hmax, if_pos hmax]
      exact ⟨rfl, fun _ => rfl, .rejection .passwordTooLong⟩
    · rw [if_neg hmax, if_neg hmax, requested_message auth huser hhandle' hpassword]
      obtain ⟨hseen, hrejection, hresult⟩ := submitted_agrees auth operation hfits userId
      exact ⟨hseen, fun _ => hrejection, hresult⟩
  · -- The password is over both limits; the wire call does not even decode the request.
    have hover : settings.maxFieldLength < password.length := Nat.lt_of_not_le hfield
    obtain ⟨e, hdecode, hinvalid⟩ := Envelope.deserialize_wire_over_limit rfl hfits
      blank_message.1 blank_message.2 password_mem_message (Int.ofNat_lt.2 hover) []
    rw [List.append_nil] at hdecode
    rw [wire, hdecode, direct, if_pos (Nat.lt_of_le_of_lt hs.password_le hover)]
    dsimp only
    rw [hinvalid]
    exact ⟨rfl, fun hle => absurd hle hfield, .rejection .passwordTooLong⟩

end Verdict

namespace Agrees

variable {operation : Operation} {direct wire : Except DeviceError Bytes}

/-- The bare status word does not decode in order. -/
theorem deserialize_refusal {e : Envelope} (h : (Envelope.blank operation.response).deserialize
    (Word.bytes Status.invalid.number) none Field.maxLength = .ok e) : e.status = .invalid := by
  cases operation <;> (cases h; rfl)

theorem result_iff (h : Agrees operation direct wire) (content : Bytes) : direct = .ok content ↔ ∃ data e,
    wire = .ok data ∧ (Envelope.blank operation.response).deserialize data none Field.maxLength = .ok e ∧
      e.status = .ok ∧ e.fields = [content] := by
  cases h with
  | @result reply hok hfits hkind hcount =>
    obtain ⟨held, hheld⟩ := List.length_eq_one_iff.1 hcount
    have hshape : (Envelope.blank operation.response).fields.length = reply.fields.length := by
      rw [hcount]
      cases operation <;> rfl
    have hdecode := Envelope.deserialize_wire_append hok hfits hkind.symm hshape
      (fun c hc => Int.ofNat_le.2 (hfits.length_le c hc)) []
    rw [List.append_nil] at hdecode
    constructor
    · intro hcontent
      cases hcontent
      exact ⟨reply.wire, reply, rfl, hdecode, hok, by rw [hheld]; rfl⟩
    · rintro ⟨data, e, hdata, he, -, hfields⟩
      cases hdata
      obtain rfl : e = reply := Except.ok.inj (he.symm.trans hdecode)
      rw [hfields]
      rfl
  | rejection reason =>
    refine ⟨nofun, ?_⟩
    rintro ⟨data, e, hdata, he, hok, -⟩
    cases hdata
    rw [deserialize_refusal he] at hok
    cases hok
  | failure he =>
    refine ⟨nofun, ?_⟩
    rintro ⟨data, e, hdata, -⟩
    cases hdata

theorem rejection_iff (h : Agrees operation direct wire) :
    (∃ reason, direct = .error (.rejected operation reason)) ↔ wire = .ok [1, 0, 0, 0] := by
  cases h with
  | @result reply hok hfits hkind hcount =>
    exact ⟨nofun, fun hword => absurd (Except.ok.inj hword) (Envelope.wire_ne_refusal hok)⟩
  | rejection reason => exact ⟨fun _ => rfl, fun _ => ⟨reason, rfl⟩⟩
  | failure he =>
    constructor
    · rintro ⟨reason, hr⟩
      exact absurd (Except.error.inj hr) (he reason)
    · intro hword
      cases hword

theorem failure_iff (h : Agrees operation direct wire) {e : DeviceError}
    (he : ∀ reason, e ≠ .rejected operation reason) : direct = .error e ↔ wire = .error e := by
  cases h with
  | result => exact ⟨nofun, nofun⟩
  | rejection reason =>
    exact ⟨fun hr => absurd (Except.error.inj hr).symm (he reason), nofun⟩
  | failure => exact Iff.rfl

end Agrees

namespace Device

variable {d : Device} {settings : Settings} {operation : Operation}

/-- **A direct call and a wire call of one request come to the same**, both made of the same device. -/
structure Alike (d : Device) (operation : Operation) (direct wire : Except DeviceError Reply × Device) : Prop where
  result : ∀ content, (∃ b, direct.1 = .ok (.buffer b) ∧ direct.2.store.contents b = content) ↔
    ∃ data e, wire.1 = .ok (.message data) ∧
      (Envelope.blank operation.response).deserialize data none Field.maxLength = .ok e ∧
      e.status = .ok ∧ e.fields = [content]
  rejection : (∃ reason, direct.1 = .error (.rejected operation reason)) ↔ wire.1 = .ok (.message [1, 0, 0, 0])
  failure : ∀ e, (∀ reason, e ≠ .rejected operation reason) → (direct.1 = .error e ↔ wire.1 = .error e)
  asked : ∃ (seen : Option Envelope) (request request' : MessageId),
    direct.2.invocations = d.invocations ++ seen.toList.map (Invocation.mk operation request · (.blank operation.response)) ∧
    wire.2.invocations = d.invocations ++ seen.toList.map (Invocation.mk operation request' · (.blank operation.response))

theorem visit_follows_direct (h : d.store.Sound) (hopen : d.closed = false) (auth : Authenticator) (operation : Operation)
    (userId : Int) (handle : Bytes) {password : Bytes} (hpassword : password ≠ []) :
    ∃ outcome : Except DeviceError BufferId × Device,
      d.visit auth (operation.visit userId handle password) = (outcome.1.map .buffer, outcome.2) ∧
      Follows (d.counted operation) operation
        (Verdict.direct d.settings auth operation userId password (operation.fields handle password)) Store.contents outcome := by
  cases operation with
  | enroll =>
    have hfollows := Call.enroll_follows h hopen auth userId (some password)
    refine ⟨_, visit_enroll d auth userId (some password), ?_⟩
    cases password with
    | nil => exact absurd rfl hpassword
    | cons first rest => exact hfollows
  | verify =>
    exact ⟨_, visit_verify d auth userId (some handle) (some password),
      Call.verify_follows h hopen auth userId (some handle) (some password)⟩

theorem alike_of_follows {outcome : Except DeviceError BufferId × Device} {answer : Except DeviceError Bytes × Device}
    {v v' : Verdict} (hdirect : Follows (d.counted operation) operation v Store.contents outcome)
    (hwire : Follows (d.counted operation) operation v' (fun _ data => data) answer) (hseen : v.seen = v'.seen)
    (hresult : Agrees operation v.result v'.result) :
    d.Alike operation (outcome.1.map .buffer, outcome.2) (answer.1.map .message, answer.2) := by
  have hdirect' : ∀ e, outcome.1.map Reply.buffer = .error e ↔ v.result = .error e := fun e => by
    rw [← hdirect.result]
    cases outcome.1 <;> simp [Except.map]
  have hwire' : ∀ e, answer.1.map Reply.message = .error e ↔ v'.result = .error e := fun e => by
    rw [← hwire.result]
    cases answer.1 <;> simp [Except.map]
  have hmessage : ∀ data, answer.1.map Reply.message = .ok (.message data) ↔ v'.result = .ok data := fun data => by
    rw [← hwire.result]
    cases answer.1 <;> simp [Except.map]
  have hbuffer : ∀ content, (∃ b, outcome.1.map Reply.buffer = .ok (.buffer b) ∧ outcome.2.store.contents b = content) ↔
      v.result = .ok content := fun content => by
    rw [← hdirect.result]
    cases outcome.1 <;> simp [Except.map]
  refine ⟨fun content => ?_, ?_, fun e he => ?_, ?_⟩
  · simp only [hbuffer, hmessage]
    exact hresult.result_iff content
  · simp only [hdirect', hmessage]
    exact hresult.rejection_iff
  · rw [hdirect', hwire']
    exact hresult.failure_iff he
  · obtain ⟨request, hasked⟩ := hdirect.invocations
    obtain ⟨request', hasked'⟩ := hwire.invocations
    refine ⟨v.seen, request, request', hasked, ?_⟩
    rw [hseen]
    exact hasked'

/-- **A request comes to the same directly and off the wire.**  On an open device with settings that were made, whatever it
was asked for before and whatever its authenticator does: the two calls of a request with a password, and with a handle
within the field limit, give the same result, are turned down together, end in the same errors, and show the
authenticator the same; with a password within the field limit they leave the same counters. -/
theorem direct_agrees_with_wire (debugLogging metricsEnabled : Bool) (maxFieldLength maxPasswordLength : Int)
    (settings : Settings) (d : Device) (auth : Authenticator) (operation : Operation) (userId : Nat)
    (handle password data : Bytes)
    (hsettings : Settings.make debugLogging maxFieldLength maxPasswordLength metricsEnabled = .ok settings)
    (hreached : d.Reached settings) (hopen : d.closed = false) (hpassword : password ≠ [])
    (hhandle : handle.length ≤ settings.maxFieldLength)
    (hdata : (operation.message userId handle password).encode = .ok data) :
    d.Alike operation (d.visit auth (operation.visit userId handle password)) (d.visit auth (.message operation data)) ∧
    (password.length ≤ settings.maxFieldLength → (d.visit auth (operation.visit userId handle password)).2.counters =
      (d.visit auth (.message operation data)).2.counters) := by
  have hbounded := Settings.bounded_of_make hsettings
  obtain ⟨hsound, rfl⟩ := hreached.keeps
  obtain ⟨hfits, rfl⟩ := (Envelope.encode_eq_ok_iff rfl).1 hdata
  have huser : userId ≤ Word.largest := hfits.userId_le
  have hlength : password.length ≤ Word.largest := hfits.length_le password Verdict.password_mem_message
  obtain ⟨hseen, hrejection, hresult⟩ :=
    Verdict.verdicts_agree hbounded auth operation huser hhandle hlength
  obtain ⟨outcome, hvisit, hdirect⟩ := visit_follows_direct hsound hopen auth operation userId handle hpassword
  have hwire := Call.handle_follows hsound hopen auth operation (operation.message userId handle password).wire
  rw [hvisit, visit_message]
  refine ⟨alike_of_follows hdirect hwire hseen hresult, fun hle => ?_⟩
  rw [hdirect.counters, hwire.counters, Verdict.count_congr (hrejection hle)]

theorem direct_agrees_with_wire_echoing :
    (make { maxFieldLength := 16, maxPasswordLength := 8, metricsEnabled := true } none).Alike .verify
      ((make { maxFieldLength := 16, maxPasswordLength := 8, metricsEnabled := true } none).visit Authenticator.echoing
        (.verify 7 (some [9]) (some [1, 2])))
      ((make { maxFieldLength := 16, maxPasswordLength := 8, metricsEnabled := true } none).visit Authenticator.echoing
        (.message .verify [0, 0, 0, 0, 7, 0, 0, 0, 1, 0, 0, 0, 9, 2, 0, 0, 0, 1, 2])) :=
  (direct_agrees_with_wire false true 16 8 { maxFieldLength := 16, maxPasswordLength := 8, metricsEnabled := true } _
    Authenticator.echoing .verify 7 [9] [1, 2] _ rfl ⟨none, [], rfl⟩ rfl (by decide) (by decide) rfl).1

end Device
end PasswordGate

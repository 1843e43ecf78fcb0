import PasswordGate.Proofs.Device.Edits
/-!
# Verdict — what a request comes to, said without the store

A verdict is read off the settings, the authenticator and the arguments alone.  The two ways into the device have
verdicts of their own, `Verdict.direct` and `Verdict.wire`, written as the device's own checks go; `enroll_follows`,
`verify_follows` and `handle_follows` say that the calls follow them, from any store in order.
-/
namespace PasswordGate

/-- **What a request comes to**: the content of what it gives, why it was turned down if it was, what the authenticator
was shown if it was asked, and what was logged. -/
structure Verdict where
  result : Except DeviceError Bytes
  rejection : Option Reason := none
  seen : Option Envelope := none
  notes : List Note := []

namespace Verdict

def note (level : Level) (text : String) : Note := { level := level, logger := Device.logger, message := text }

def rejected (operation : Operation) (reason : Reason) (userId : Int) : Verdict where
  result := .error (.rejected operation reason)
  rejection := some reason
  notes := [note Level.warning s!"Rejected {operation.label} for user {userId}: {reason.label}"]

def refused (reason : Reason) (level : Level) (text : String) : Verdict where
  result := .ok (Word.bytes Status.invalid.number)
  rejection := some reason
  notes := [note level text]

/-- A request ends in an error that is not the device's own. -/
def failed (e : DeviceError) : Verdict where
  result := .error e

/-- What a direct request says, unless a buffer or the message is refused. -/
def request (operation : Operation) (userId : Int) (fields : List Bytes) : Except CodecError Envelope :=
  match fields.find? (Word.largest < ·.length) with
  | some content => .error (.lengthOutOfRange content.length)
  | none =>
    match Store.checkUserId userId with
    | .error e => .error e
    | .ok user => .ok { kind := operation.request, userId := user, fields := fields }

def withdrawn (operation : Operation) (userId : Int) (reply : Envelope) : Verdict :=
  match reply.status with
  | .invalid => rejected operation .authenticator userId
  | .ok =>
    { result := .ok (reply.fields.getD 0 []), notes := [note Level.debug (Call.doneText operation userId)] }

def submitted (auth : Authenticator) (operation : Operation) (userId : Int) (seen : Envelope) : Verdict :=
  match auth.reply operation seen with
  | .error e => { failed e with seen := some seen }
  | .ok reply => { withdrawn operation userId reply with seen := some seen }

def requested (auth : Authenticator) (operation : Operation) (userId : Int) (fields : List Bytes) : Verdict :=
  match request operation userId fields with
  | .error e => failed (.codec e)
  | .ok seen => submitted auth operation userId seen

/-- **What a direct request comes to** once its arguments are there. -/
def direct (settings : Settings) (auth : Authenticator) (operation : Operation) (userId : Int) (password : Bytes)
    (fields : List Bytes) : Verdict :=
  if settings.maxPasswordLength < password.length then rejected operation .passwordTooLong userId
  else requested auth operation userId fields

def enroll (settings : Settings) (auth : Authenticator) (userId : Int) : Option Bytes → Verdict
  | none | some [] => rejected .enroll .emptyPassword userId
  | some password => direct settings auth .enroll userId password [password]

def verify (settings : Settings) (auth : Authenticator) (userId : Int) : Option Bytes → Option Bytes → Verdict
  | some handle, some password => direct settings auth .verify userId password [handle, password]
  | _, _ => rejected .verify .missingArgument userId

def responded (operation : Operation) (userId : Nat) (reply : Envelope) : Verdict :=
  match reply.status with
  | .invalid => refused .authenticator Level.info s!"Authenticator rejected {operation.label} for user {userId}"
  | .ok => { result := reply.encode.mapError .codec }

def replied (auth : Authenticator) (operation : Operation) (seen : Envelope) : Verdict :=
  match auth.reply operation seen with
  | .error e => { failed e with seen := some seen }
  | .ok reply => { responded operation seen.userId reply with seen := some seen }

/-- **What a request off the wire comes to.** -/
def wire (settings : Settings) (auth : Authenticator) (operation : Operation) (data : Bytes) : Verdict :=
  match (Envelope.blank operation.request).deserialize data none settings.maxFieldLength with
  | .error e => failed (.codec e)
  | .ok seen =>
    match seen.status with
    | .invalid =>
      refused .malformed Level.warning s!"Rejecting malformed {operation.label} request ({data.length} bytes)"
    | .ok =>
      let password := Authenticator.fieldOf seen passwordField
      if settings.maxPasswordLength < password.length then
        refused .passwordTooLong Level.warning (s!"Rejecting {operation.label} request for user {seen.userId}: " ++
          s!"password of {password.length} bytes over limit")
      else replied auth operation seen

def count (v : Verdict) (operation : Operation) (c : Counters) : Counters :=
  match v.rejection with
  | some reason => c.recordRejection operation.label reason.label
  | none => c

theorem count_congr {v v' : Verdict} {operation : Operation} (h : v.rejection = v'.rejection) :
    v.count operation = v'.count operation := by
  funext c
  rw [count, count, h]

def invocations (v : Verdict) (operation : Operation) (request : MessageId) : List Invocation :=
  v.seen.toList.map fun seen =>
    { operation := operation, request := request, seen := seen, given := .blank operation.response }

end Verdict

open Store (Reaches)

/-- **A call follows a verdict**: its result shows what the verdict gives, and the device has changed by what the verdict
says, besides the store. -/
structure Follows {α : Type} (d : Device) (operation : Operation) (v : Verdict) (shows : Store → α → Bytes)
    (outcome : Except DeviceError α × Device) : Prop where
  reaches : Reaches d.store outcome.2.store
  result : outcome.1.map (shows outcome.2.store) = v.result
  counters : outcome.2.counters = d.counters.map (v.count operation)
  notes : outcome.2.notes = d.notes ++ v.notes
  invocations : ∃ request, outcome.2.invocations = d.invocations ++ v.invocations operation request
  settings : outcome.2.settings = d.settings
  closed : outcome.2.closed = d.closed

namespace Follows

variable {α : Type} {d : Device} {operation : Operation} {v : Verdict} {shows : Store → α → Bytes}
variable {outcome : Except DeviceError α × Device}

/-- What came before in the store alone does not count. -/
theorem of_reaches {s : Store} (r : Reaches d.store s) (h : Follows { d with store := s } operation v shows outcome) :
    Follows d operation v shows outcome :=
  ⟨r.trans h.reaches, h.result, h.counters, h.notes, h.invocations, h.settings, h.closed⟩

theorem of_asked {s : Store} {request response : MessageId} {seen : Envelope} (r : Reaches d.store s)
    (hnone : v.seen = none) (hseen : d.store.envelope request = seen)
    (hblank : d.store.envelope response = .blank operation.response)
    (h : Follows { d.asked operation request response with store := s } operation v shows outcome) :
    Follows d operation { v with seen := some seen } shows outcome := by
  refine ⟨r.trans h.reaches, h.result, h.counters, h.notes, ⟨request, ?_⟩, h.settings, h.closed⟩
  obtain ⟨other, hinvocations⟩ := h.invocations
  rw [hinvocations, Verdict.invocations, hnone, Verdict.invocations]
  simp [Device.asked, hblank, hseen]

end Follows

namespace Call

open Running

variable {α : Type} {d : Device} {operation : Operation} {v : Verdict} {shows : Store → α → Bytes}
variable {request response : MessageId}

theorem reject_follows (d : Device) (operation : Operation) (reason : Reason) (userId : Int) (shows : Store → α → Bytes) :
    Follows d operation (Verdict.rejected operation reason userId) shows ((reject operation reason userId : Call α).run d) :=
  ⟨.refl, rfl, rfl, rfl, ⟨0, (List.append_nil _).symm⟩, rfl, rfl⟩

theorem throw_follows (d : Device) (operation : Operation) (e : DeviceError) (shows : Store → α → Bytes) :
    Follows d operation (Verdict.failed e) shows ((throw e : Call α).run d) :=
  ⟨.refl, rfl, (congrFun Option.map_id _).symm, (List.append_nil _).symm, ⟨0, (List.append_nil _).symm⟩, rfl, rfl⟩

/-- Releasing the messages changes nothing that a result shows, as long as it is not in one of their slots. -/
theorem releasing_follows {body : Call α} (h : Follows d operation v shows (body.run d))
    (hkeep : ∀ a, (body.run d).1 = .ok a →
      shows (((body.run d).2.store.releaseMessage response).releaseMessage request) a = shows (body.run d).2.store a) :
    Follows d operation v shows ((releasing request response body).run d) := by
  rw [run_releasing]
  refine ⟨(h.reaches.trans (Store.reaches_releaseMessage _ _)).trans (Store.reaches_releaseMessage _ _), ?_, h.counters,
    h.notes, h.invocations, h.settings, h.closed⟩
  rw [← h.result]
  cases hr : (body.run d).1 with
  | error e => rfl
  | ok a => exact congrArg Except.ok (hkeep a hr)

/-- **A refusal off the wire is the status word alone.** -/
theorem refuse_follows (h : d.store.Sound) (hm : response < d.store.messages.length) (operation : Operation)
    (reason : Reason) (level : Level) (text : String) :
    Follows d operation (Verdict.refused reason level text) (fun _ data => data)
      ((note level text >>= fun _ => refuse operation reason response).run d) := by
  have hstatus : (d.store.setStatus response .invalid).serialize response = .ok (Word.bytes Status.invalid.number) := by
    rw [Store.serialize, Store.envelope_setStatus hm, if_pos rfl]
    rfl
  rw [run_bind_of_ok (run_note d level text)]
  unfold refuse
  rw [run_bind_of_ok (run_countRejection _ operation reason)]
  rw [run_bind_of_ok (run_changeStore_ok _ (·.setStatus response .invalid))]
  show Follows d operation _ _ ((ofCodec ((d.store.setStatus response .invalid).serialize response)).run _)
  rw [hstatus]
  exact ⟨Store.reaches_setStatus h.toSlotted response .invalid, rfl, rfl, rfl, ⟨0, (List.append_nil _).symm⟩, rfl, rfl⟩

/-- A buffer that is in no slot shows the same after the messages have been released. -/
theorem releasing_follows_of_loose {body : Call BufferId} (h : d.store.Sound)
    (hbody : Follows d operation v Store.contents (body.run d) ∧
      ∀ b, (body.run d).1 = .ok b → (body.run d).2.store.Loose b) :
    Follows d operation v Store.contents ((releasing request response body).run d) := by
  refine releasing_follows hbody.1 fun b hb => ?_
  have hloose := hbody.2 b hb
  have hsound := Store.Reaches.sound hbody.1.reaches h
  have hreleased := Store.Reaches.sound (Store.reaches_releaseMessage _ response) hsound
  have hstill := hloose.of_messages_eq (Store.messages_releaseAll ((body.run d).2.store.message response).slots _)
    (Store.Reaches.grows (Store.reaches_releaseMessage _ response) hsound).buffers_le
  rw [Store.contents_releaseMessage hreleased.toOwned request hstill,
    Store.contents_releaseMessage hsound.toOwned response hloose]

/-- **A request in the store and a fresh response** are a pair. -/
theorem paired_newMessage (h : d.store.Sound) (hrequest : request < d.store.messages.length) (operation : Operation) :
    Paired { d with store := (d.store.newMessage operation.response).2 } request d.store.messages.length ∧
    (d.store.newMessage operation.response).2.envelope request = d.store.envelope request ∧
    (d.store.newMessage operation.response).2.envelope d.store.messages.length = .blank operation.response := by
  obtain ⟨-, hreach, hlt, hblank, -, -, hothers⟩ := Store.newMessage_spec h operation.response
  refine ⟨⟨Store.Reaches.sound hreach h, Nat.lt_trans hrequest hlt, hlt, Nat.ne_of_lt hrequest, ?_⟩,
    hothers request hrequest, hblank⟩
  rw [hblank]
  cases operation <;> decide

/-- **What is moved out of a response is in a buffer of its own**, which no message holds. -/
theorem take_response (h : d.store.Sound) (hfield : 0 < (d.store.envelope response).fields.length) :
    (d.store.take ((d.store.slot? response 0).getD 0)).2.contents d.store.buffers.length =
        (d.store.envelope response).fields.getD 0 [] ∧
      (d.store.take ((d.store.slot? response 0).getD 0)).2.Loose d.store.buffers.length := by
  have hslots : (d.store.envelope response).fields.length = (d.store.message response).slots.length := List.length_map _
  obtain ⟨b, hb⟩ : ∃ b, d.store.slot? response 0 = some b := ⟨_, List.getElem?_eq_getElem (hslots ▸ hfield)⟩
  refine ⟨?_, ?_, fun m => ?_⟩
  · have hheld : (d.store.envelope response).fields[0]? = some (d.store.contents b) := by
      rw [Store.envelope, List.getElem?_map]
      exact congrArg (Option.map d.store.contents) hb
    rw [Store.contents_take, if_pos rfl, hb, List.getD_eq_getElem?_getD, hheld]
    rfl
  · rw [Store.length_buffers_take]
    exact Nat.lt_succ_self _
  · rw [Store.message_take]
    exact fun hmem => absurd (h.slot_lt m _ hmem) (Nat.lt_irrefl _)

theorem seen_withdrawn (operation : Operation) (userId : Int) (reply : Envelope) :
    (Verdict.withdrawn operation userId reply).seen = none := by
  unfold Verdict.withdrawn
  split <;> rfl

/-- **The result of a direct request follows the reply**, in a buffer that no message holds. -/
theorem withdraw_follows (h : d.store.Sound) (operation : Operation) (userId : Int)
    (hfield : 0 < (d.store.envelope response).fields.length) :
    Follows d operation (Verdict.withdrawn operation userId (d.store.envelope response)) Store.contents
      ((withdraw operation userId response).run d) ∧
    ∀ b, ((withdraw operation userId response).run d).1 = .ok b →
      ((withdraw operation userId response).run d).2.store.Loose b := by
  have hstatus : (d.store.envelope response).status = (d.store.message response).status := rfl
  unfold withdraw Verdict.withdrawn
  rw [run_bind_of_ok (run_get d), hstatus]
  cases hs : (d.store.message response).status with
  | invalid =>
    rw [if_pos (by decide), run_bind_of_error (run_reject d operation .authenticator userId)]
    exact ⟨reject_follows _ _ _ _ _, fun b hb => by cases hb⟩
  | ok =>
    obtain ⟨hcontents, hloose⟩ := take_response h hfield
    rw [if_neg (by decide)]
    refine ⟨⟨Store.reaches_take _ _, congrArg Except.ok hcontents, ?_, rfl, ⟨0, (List.append_nil _).symm⟩, rfl, rfl⟩,
      fun b hb => ?_⟩
    · exact (congrFun Option.map_id _).symm
    · cases hb
      exact hloose

theorem filled_request (operation : Operation) : operation.request.filled = operation.request.fields.length := by
  cases operation <;> rfl

/-- **A direct request follows its verdict** once its arguments are in buffers that no message holds. -/
theorem submit_follows (h : d.store.Sound) (auth : Authenticator) {userId : Int} {user : Nat} {values : List BufferId}
    (huser : Store.checkUserId userId = .ok user) (hcount : values.length = operation.request.fields.length)
    (hnodup : values.Nodup) (hloose : ∀ b ∈ values, d.store.Loose b) :
    Follows d operation (Verdict.submitted auth operation userId
      { kind := operation.request, userId := user, fields := values.map d.store.contents }) Store.contents
      ((submit auth operation userId values).run d) := by
  obtain ⟨s₁, hconstruct, hreach₁, hlt₁, hseen, -⟩ :=
    Store.construct_spec h huser (filled_request operation ▸ Nat.le_of_eq hcount) hcount hnodup hloose
  have hsound₁ := Store.Reaches.sound hreach₁ h
  have hreach₂ : Reaches s₁ (s₁.newMessage operation.response).2 := Store.reaches_newMessage hsound₁.toSlotted _
  have hpair := paired_newMessage (d := { d with store := s₁ }) hsound₁ hlt₁ operation
  obtain ⟨hpaired, hsame, hblank⟩ := hpair
  have hasked := hsame.trans hseen
  obtain ⟨s₃, hreach₃, hrun₃, hreply⟩ := consult_spec hpaired auth hblank
  rw [hasked] at hrun₃ hreply
  unfold submit
  rw [run_bind_of_ok (run_construct_of_ok d hconstruct), run_bind_of_ok (run_blankMessage _ operation.response)]
  refine Follows.of_reaches (hreach₁.trans hreach₂) (releasing_follows_of_loose hpaired.sound ?_)
  unfold Verdict.submitted
  cases hr : auth.reply operation { kind := operation.request, userId := user, fields := values.map d.store.contents } with
  | error e =>
    rw [hr] at hrun₃
    rw [run_bind_of_error hrun₃]
    exact ⟨.of_asked hreach₃ rfl hasked hblank (throw_follows _ _ e _), fun _ hb => by cases hb⟩
  | ok reply =>
    rw [hr] at hrun₃
    rw [run_bind_of_ok hrun₃]
    have hsettled := hpaired.of_reaches hreach₃
    obtain ⟨hfollows, hout⟩ := withdraw_follows (d := { Device.asked _ operation _ _ with store := s₃ }) hsettled.sound
      operation userId hsettled.field
    rw [show Store.envelope _ _ = reply from hreply reply hr] at hfollows
    exact ⟨.of_asked hreach₃ (seen_withdrawn operation userId reply) hasked hblank hfollows, hout⟩

theorem request_of_le {userId : Int} {fields : List Bytes} (h : ∀ content ∈ fields, content.length ≤ Word.largest) :
    Verdict.request operation userId fields = (Store.checkUserId userId).map fun user =>
      { kind := operation.request, userId := user, fields := fields } := by
  have hnone : fields.find? (Word.largest < ·.length) = none := by
    rw [List.find?_eq_none]
    exact fun content hc => by simpa using h content hc
  unfold Verdict.request
  rw [hnone]
  cases Store.checkUserId userId <;> rfl

/-- A direct request follows its verdict from its buffers on, whether or not its user id is refused. -/
theorem requested_follows (h : d.store.Sound) (auth : Authenticator) (userId : Int) {values : List BufferId}
    {fields : List Bytes} (hcount : values.length = operation.request.fields.length) (hnodup : values.Nodup)
    (hloose : ∀ b ∈ values, d.store.Loose b) (hfields : values.map d.store.contents = fields) :
    Follows d operation (Verdict.requested auth operation userId fields) Store.contents
      ((submit auth operation userId values).run d) := by
  have hle : ∀ content ∈ fields, content.length ≤ Word.largest := fun content hc => by
    rw [← hfields] at hc
    obtain ⟨b, -, rfl⟩ := List.mem_map.1 hc
    exact Store.length_contents_le h.toOwned b
  unfold Verdict.requested
  rw [request_of_le hle]
  cases huser : Store.checkUserId userId with
  | error e =>
    have hconstruct : d.store.construct operation.request Status.ok.number userId (values.map some) = .error e :=
      Store.construct_of_error (filled_request operation ▸ Nat.le_of_eq ((List.length_map _).trans hcount)) huser
    unfold submit
    rw [run_bind_of_error (run_construct_of_error d hconstruct)]
    exact .of_reaches (Store.reaches_releaseAll values d.store) (throw_follows _ operation _ _)
  | ok user =>
    have hsubmit : Follows d operation _ _ _ := submit_follows h auth huser hcount hnodup hloose
    rw [hfields] at hsubmit
    exact hsubmit

theorem run_checkPassword (d : Device) (operation : Operation) (userId : Int) (password : Bytes) :
    (checkPassword operation userId password).run d =
      if d.settings.maxPasswordLength < password.length then (reject operation .passwordTooLong userId : Call Unit).run d
      else (.ok (), d) := by
  unfold checkPassword
  rw [run_bind_of_ok (run_get d)]
  split <;> rfl

theorem request_of_lt {userId : Int} {content : Bytes} {before after : List Bytes}
    (h : ∀ c ∈ before, c.length ≤ Word.largest) (hlt : Word.largest < content.length) :
    Verdict.request operation userId (before ++ content :: after) = .error (.lengthOutOfRange content.length) := by
  have hnone : before.find? (Word.largest < ·.length) = none := by
    rw [List.find?_eq_none]
    exact fun c hc => by simpa using h c hc
  have hfind : (before ++ content :: after).find? (Word.largest < ·.length) = some content := by
    rw [List.find?_append, hnone, List.find?_cons_of_pos (by simpa using hlt)]
    rfl
  unfold Verdict.request
  rw [hfind]

/-- **A direct request follows its verdict** from the length check on, if its buffers do. -/
theorem direct_follows {auth : Authenticator} {userId : Int} {password : Bytes} {fields : List Bytes} {rest : Call BufferId}
    (h : Follows d operation (Verdict.requested auth operation userId fields) Store.contents (rest.run d)) :
    Follows d operation (Verdict.direct d.settings auth operation userId password fields) Store.contents
      ((checkPassword operation userId password >>= fun _ => rest).run d) := by
  have hcheck := run_checkPassword d operation userId password
  unfold Verdict.direct
  by_cases hmax : d.settings.maxPasswordLength < password.length
  · rw [if_pos hmax] at hcheck ⊢
    rw [run_bind_of_error (hcheck.trans (run_reject d operation .passwordTooLong userId))]
    exact reject_follows d operation .passwordTooLong userId _
  · rw [if_neg hmax] at hcheck ⊢
    rw [run_bind_of_ok hcheck]
    exact h

/-- **A field of a direct request is copied first**: one that is too long ends the call, else it is in a loose buffer. -/
theorem copying_follows (h : d.store.Sound) (auth : Authenticator) (userId : Int) (before : List Bytes) (content : Bytes)
    (after : List Bytes) {rest : BufferId → Call BufferId} (hbefore : ∀ c ∈ before, c.length ≤ Word.largest)
    (hrest : ∀ s, Reaches d.store s → s.Loose d.store.buffers.length → s.contents d.store.buffers.length = content →
      (∀ b, d.store.Loose b → s.Loose b ∧ s.contents b = d.store.contents b ∧ b ≠ d.store.buffers.length) →
      Follows { d with store := s } operation (Verdict.requested auth operation userId (before ++ content :: after))
        Store.contents ((rest d.store.buffers.length).run { d with store := s })) :
    Follows d operation (Verdict.requested auth operation userId (before ++ content :: after)) Store.contents
      ((onStore (·.copyOf content) >>= rest).run d) := by
  by_cases hle : content.length ≤ Word.largest
  · obtain ⟨s, hcopy, hreach, hloose, hcontents, hothers⟩ := Store.copyOf_loose h hle
    rw [run_bind_of_ok (run_onStore_of_ok d hcopy)]
    exact .of_reaches hreach (hrest s hreach hloose hcontents hothers)
  · have hlt := Nat.lt_of_not_le hle
    unfold Verdict.requested
    rw [run_bind_of_error (run_onStore_of_error d (Store.copyOf_of_gt d.store hlt)), request_of_lt hbefore hlt]
    exact throw_follows _ _ _ _

/-- **An enrollment follows its verdict.** -/
theorem enroll_follows (h : d.store.Sound) (hopen : d.closed = false) (auth : Authenticator) (userId : Int)
    (password : Option Bytes) : Follows (d.counted .enroll) .enroll (Verdict.enroll d.settings auth userId password)
      Store.contents ((enroll auth userId password).run d) := by
  unfold enroll Verdict.enroll
  rw [run_bind_of_ok (run_ensureOpen_of_open hopen), run_bind_of_ok (run_countRequest d .enroll)]
  rcases password with _ | _ | ⟨first, others⟩
  · exact reject_follows _ _ _ _ _
  · exact reject_follows _ _ _ _ _
  · dsimp only
    generalize first :: others = password
    refine direct_follows (copying_follows (d := d.counted .enroll) h auth userId [] password [] (fun c hc => by cases hc) ?_)
    intro s hreach hloose hcontents _
    refine requested_follows (Store.Reaches.sound hreach h) auth userId rfl (List.nodup_cons.2 ⟨by simp, .nil⟩) ?_ ?_
    · simpa using hloose
    · simpa using hcontents

/-- **A verification follows its verdict.** -/
theorem verify_follows (h : d.store.Sound) (hopen : d.closed = false) (auth : Authenticator) (userId : Int)
    (handle password : Option Bytes) : Follows (d.counted .verify) .verify
      (Verdict.verify d.settings auth userId handle password) Store.contents
      ((verify auth userId handle password).run d) := by
  unfold verify Verdict.verify
  rw [run_bind_of_ok (run_ensureOpen_of_open hopen), run_bind_of_ok (run_countRequest d .verify)]
  rcases handle with _ | handle
  · exact reject_follows _ _ _ _ _
  rcases password with _ | password
  · exact reject_follows _ _ _ _ _
  dsimp only
  refine direct_follows (copying_follows (d := d.counted .verify) h auth userId [] handle [password] (fun c hc => by cases hc) ?_)
  intro s hreach hloose hcontents _
  have hsound := Store.Reaches.sound hreach h
  have hle : ∀ c ∈ [handle], c.length ≤ Word.largest := fun c hc => by
    rw [List.mem_singleton.1 hc, ← hcontents]
    exact Store.length_contents_le hsound.toOwned _
  refine copying_follows (d := { d.counted .verify with store := s }) hsound auth userId [handle] password [] hle ?_
  intro s' hreach' hloose' hcontents' hothers
  obtain ⟨hstill, hsame, hne⟩ := hothers _ hloose
  refine requested_follows (Store.Reaches.sound hreach' hsound) auth userId rfl ?_ ?_ ?_
  · exact List.nodup_cons.2 ⟨by simpa using hne, List.nodup_cons.2 ⟨by simp, .nil⟩⟩
  · intro b hb
    rcases List.mem_cons.1 hb with rfl | hb
    · exact hstill
    · rw [List.mem_singleton.1 hb]
      exact hloose'
  · exact congrArg₂ (fun first second => [first, second]) (hsame.trans hcontents) hcontents'

/-! ## Requests off the wire -/

theorem seen_responded (operation : Operation) (userId : Nat) (reply : Envelope) :
    (Verdict.responded operation userId reply).seen = none := by
  unfold Verdict.responded
  split <;> rfl

/-- **The reply to a request off the wire follows the authenticator's.** -/
theorem respond_follows (d : Device) (operation : Operation) (userId : Nat) (response : MessageId) :
    Follows d operation (Verdict.responded operation userId (d.store.envelope response)) (fun _ data => data)
      ((respond operation userId response).run d) := by
  have hstatus : (d.store.envelope response).status = (d.store.message response).status := rfl
  unfold respond Verdict.responded
  rw [run_bind_of_ok (run_get d), hstatus]
  cases hs : (d.store.message response).status with
  | invalid =>
    have hword : d.store.serialize response = .ok (Word.bytes Status.invalid.number) := by
      rw [Store.serialize, Envelope.encode, hstatus, hs]
      rfl
    dsimp only
    rw [if_pos (by rw [hs]; decide), hword]
    exact ⟨.refl, rfl, rfl, rfl, ⟨0, (List.append_nil _).symm⟩, rfl, rfl⟩
  | ok =>
    dsimp only
    rw [if_neg (by rw [hs]; decide), run_ofCodec]
    refine ⟨.refl, ?_, (congrFun Option.map_id _).symm, (List.append_nil _).symm, ⟨0, (List.append_nil _).symm⟩, rfl, rfl⟩
    rw [Store.serialize]
    cases (d.store.envelope response).encode <;> rfl

theorem replied_follows (h : Paired d request response) (auth : Authenticator)
    (hresponse : d.store.envelope response = .blank operation.response) :
    Follows d operation (Verdict.replied auth operation (d.store.envelope request)) (fun _ data => data)
      ((consult auth operation request response >>= fun _ =>
        respond operation (d.store.envelope request).userId response).run d) := by
  obtain ⟨s, hreach, hrun, hreply⟩ := consult_spec h auth hresponse
  unfold Verdict.replied
  cases hr : auth.reply operation (d.store.envelope request) with
  | error e =>
    rw [hr] at hrun
    rw [run_bind_of_error hrun]
    exact .of_asked hreach rfl rfl hresponse (throw_follows _ _ e _)
  | ok reply =>
    rw [hr] at hrun
    rw [run_bind_of_ok hrun]
    refine .of_asked hreach (seen_responded operation _ reply) rfl hresponse ?_
    rw [← hreply reply hr]
    exact respond_follows { d.asked operation request response with store := s } operation _ response

/-- **The body of a wire call follows its verdict**, from a blank request and a blank response. -/
theorem answer_follows (h : Paired d request response) (auth : Authenticator) (data : Bytes)
    (hrequest : d.store.envelope request = .blank operation.request)
    (hresponse : d.store.envelope response = .blank operation.response) :
    Follows d operation (Verdict.wire d.settings auth operation data) (fun _ data => data)
      ((answer auth operation data request response).run d) := by
  have hrefines := Store.deserialize_refines h.sound h.request_lt data none d.settings.maxFieldLength
  rw [hrequest] at hrefines
  unfold answer Verdict.wire
  rw [run_bind_of_ok (run_get d)]
  rcases hrefines with ⟨e, hrun, hblank⟩ | ⟨s, hrun, hblank, hothers⟩
  · rw [run_bind_of_error (run_changeStore_of_error d hrun), hblank]
    exact throw_follows _ _ _ _
  · have hreach := Store.reaches_deserialize h.sound hrun
    have hpaired := h.of_reaches hreach
    have hfresh : s.envelope response = .blank operation.response := by rw [hothers response h.distinct.symm, hresponse]
    rw [run_bind_of_ok (run_changeStore_of_ok d hrun), hblank]
    rw [run_bind_of_ok (run_get _)]
    refine .of_reaches hreach ?_
    dsimp only
    cases hs : (s.envelope request).status with
    | invalid =>
      dsimp only
      rw [if_pos (by decide)]
      exact refuse_follows hpaired.sound hpaired.response_lt operation .malformed Level.warning _
    | ok =>
      dsimp only
      rw [if_neg (show ¬ Status.ok ≠ Status.ok by decide)]
      split
      · exact refuse_follows hpaired.sound hpaired.response_lt operation .passwordTooLong Level.warning _
      · exact replied_follows hpaired auth hfresh

/-- **A request off the wire follows its verdict.** -/
theorem handle_follows (h : d.store.Sound) (hopen : d.closed = false) (auth : Authenticator) (operation : Operation)
    (data : Bytes) : Follows (d.counted operation) operation (Verdict.wire d.settings auth operation data)
      (fun _ data => data) ((handle auth operation data).run d) := by
  obtain ⟨-, hreach, hlt, hrequest, -, -, -⟩ := Store.newMessage_spec h operation.request
  have hsound := Store.Reaches.sound hreach h
  have hreach' := Store.reaches_newMessage hsound.toSlotted operation.response
  obtain ⟨hpaired, hsame, hresponse⟩ := paired_newMessage
    (d := { d.counted operation with store := (d.store.newMessage operation.request).2 }) hsound hlt operation
  unfold handle
  rw [run_bind_of_ok (run_ensureOpen_of_open hopen), run_bind_of_ok (run_countRequest d operation),
    run_bind_of_ok (run_blankMessage _ operation.request), run_bind_of_ok (run_blankMessage _ operation.response)]
  exact .of_reaches (hreach.trans hreach')
    (releasing_follows (answer_follows hpaired auth data (hsame.trans hrequest) hresponse) fun _ _ => rfl)

end Call
end PasswordGate

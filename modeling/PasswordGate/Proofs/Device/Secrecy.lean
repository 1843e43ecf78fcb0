import PasswordGate.Proofs.Codec.Layout
import PasswordGate.Proofs.Device.Replies
/-!
# Secrecy — what a run of visits shows of the secrets in it

Two visits are the same but for their secrets (`Visit.SameButSecrets`) when passwords and handles, and the fields of a
message, are equally long on both sides; a message that does not decode in order may be any other such.  What one request
shows, in what it throws, counts and logs, goes by those lengths and by the status that the authenticator leaves
(`Verdict.ShowAlike`).  So two devices that show the same are still such after a visit each (`Twin.visit`), and two runs
show the same throughout (`runs_show_no_secret`).
-/
namespace PasswordGate

/-- What a call ended in, if it did not give a result. -/
def thrown {α : Type} : Except DeviceError α → Option DeviceError
  | .ok _ => none
  | .error e => some e

theorem thrown_map {α β : Type} (f : α → β) (result : Except DeviceError α) : thrown (result.map f) = thrown result := by
  cases result <;> rfl

/-! ## Visits and authenticators -/

namespace Visit

/-- **Visits that are the same but for their secrets**: passwords and handles of the same lengths, messages of one layout;
or malformed messages of the same length. -/
inductive SameButSecrets (settings : Settings) : Visit → Visit → Prop
  | enroll (userId : Int) {password password' : Option Bytes}
      (hpassword : password.map List.length = password'.map List.length) :
      SameButSecrets settings (.enroll userId password) (.enroll userId password')
  | verify (userId : Int) {handle handle' password password' : Option Bytes}
      (hhandle : handle.map List.length = handle'.map List.length)
      (hpassword : password.map List.length = password'.map List.length) :
      SameButSecrets settings (.verify userId handle password) (.verify userId handle' password')
  | message (operation : Operation) {data data' : Bytes} (hlayout : Envelope.SameLayout data data') :
      SameButSecrets settings (.message operation data) (.message operation data')
  | malformed (operation : Operation) {data data' : Bytes} (hlength : data.length = data'.length)
      (hmalformed : ∀ seen, ¬ operation.Decodes settings data seen)
      (hmalformed' : ∀ seen, ¬ operation.Decodes settings data' seen) :
      SameButSecrets settings (.message operation data) (.message operation data')
  | close : SameButSecrets settings .close .close

theorem SameButSecrets.close_iff {settings : Settings} {v v' : Visit} (h : v.SameButSecrets settings v') :
    v = .close ↔ v' = .close := by
  cases h <;> simp

/-- **Two authenticators reply alike** to a visit each: on what it shows them, they leave the same status, or fail in the
same way. -/
def RepliesAlike (settings : Settings) (turn turn' : Authenticator × Visit) : Prop :=
  ∀ operation seen seen', turn.2.shown settings = some (operation, seen) → turn'.2.shown settings = some (operation, seen') →
    (turn.1.reply operation seen).map (·.status) = (turn'.1.reply operation seen').map (·.status)

end Visit

/-! ## What one request shows -/

namespace Verdict

/-- **Verdicts that show the same**: they end alike, are turned down for the same reason, and log the same. -/
structure ShowAlike (v v' : Verdict) : Prop where
  ending : thrown v.result = thrown v'.result
  rejection : v.rejection = v'.rejection
  notes : v.notes = v'.notes

variable {settings : Settings} {auth auth' : Authenticator} {operation : Operation} {userId : Int}
variable {seen seen' reply reply' : Envelope}

theorem withdrawn_showAlike (operation : Operation) (userId : Int) (hstatus : reply.status = reply'.status) :
    (withdrawn operation userId reply).ShowAlike (withdrawn operation userId reply') := by
  unfold withdrawn
  rw [hstatus]
  cases reply'.status <;> exact ⟨rfl, rfl, rfl⟩

theorem submitted_showAlike
    (hreplies : (auth.reply operation seen).map (·.status) = (auth'.reply operation seen').map (·.status)) :
    (submitted auth operation userId seen).ShowAlike (submitted auth' operation userId seen') := by
  unfold submitted
  obtain ⟨e, hreply, hreply'⟩ | ⟨reply, reply', hreply, hreply', hstatus⟩ := Operation.replies_cases hreplies
  · rw [hreply, hreply']
    exact ⟨rfl, rfl, rfl⟩
  · have hshow := withdrawn_showAlike operation userId hstatus
    rw [hreply, hreply']
    exact ⟨hshow.ending, hshow.rejection, hshow.notes⟩

/-- **A direct request is refused by its user id and the lengths of its fields.** -/
theorem request_cases (operation : Operation) (userId : Int) {fields fields' : List Bytes}
    (hfields : fields.map List.length = fields'.map List.length) :
    (∃ e, request operation userId fields = .error e ∧ request operation userId fields' = .error e) ∨
      ∃ seen seen', request operation userId fields = .ok seen ∧ request operation userId fields' = .ok seen' := by
  have hlong : (fields.find? (Word.largest < ·.length)).map List.length =
      (fields'.find? (Word.largest < ·.length)).map List.length := by
    have hfind : ∀ l : List Bytes, (l.find? (Word.largest < ·.length)).map List.length =
        (l.map List.length).find? (Word.largest < ·) := fun l => by
      rw [List.find?_map]
      rfl
    rw [hfind, hfind, hfields]
  unfold request
  obtain ⟨hnone, hnone'⟩ | ⟨content, content', hsome, hsome', hlength⟩ := Bytes.lengths_cases hlong
  · rw [hnone, hnone']
    dsimp only
    cases Store.checkUserId userId with
    | error e => exact .inl ⟨e, rfl, rfl⟩
    | ok user => exact .inr ⟨_, _, rfl, rfl⟩
  · rw [hsome, hsome']
    dsimp only
    rw [hlength]
    exact .inl ⟨_, rfl, rfl⟩

/-- **Direct requests of the same lengths show the same.** -/
theorem direct_showAlike {password password' : Bytes} {fields fields' : List Bytes}
    (hpassword : password.length = password'.length) (hfields : fields.map List.length = fields'.map List.length)
    (hreplies : ∀ seen seen', operation.shown settings userId password fields = some seen →
      operation.shown settings userId password' fields' = some seen' →
      (auth.reply operation seen).map (·.status) = (auth'.reply operation seen').map (·.status)) :
    (direct settings auth operation userId password fields).ShowAlike
      (direct settings auth' operation userId password' fields') := by
  unfold Operation.shown at hreplies
  unfold direct
  rw [hpassword] at hreplies ⊢
  by_cases hmax : settings.maxPasswordLength < password'.length
  · rw [if_pos hmax, if_pos hmax]
    exact ⟨rfl, rfl, rfl⟩
  rw [if_neg hmax, if_neg hmax] at hreplies ⊢
  unfold requested
  obtain ⟨e, hrequest, hrequest'⟩ | ⟨seen, seen', hrequest, hrequest'⟩ :=
    request_cases operation userId hfields
  · rw [hrequest, hrequest']
    exact ⟨rfl, rfl, rfl⟩
  · have hsame := hreplies seen seen' (by rw [hrequest]; rfl) (by rw [hrequest']; rfl)
    rw [hrequest, hrequest']
    exact submitted_showAlike hsame

theorem enroll_showAlike {password password' : Option Bytes}
    (hpassword : password.map List.length = password'.map List.length)
    (hreplies : Visit.RepliesAlike settings (auth, .enroll userId password) (auth', .enroll userId password')) :
    (enroll settings auth userId password).ShowAlike (enroll settings auth' userId password') := by
  obtain ⟨rfl, rfl⟩ | ⟨content, content', rfl, rfl, hlength⟩ := Bytes.lengths_cases hpassword
  · exact ⟨rfl, rfl, rfl⟩
  cases content with
  | nil =>
    have hempty : content' = [] := List.length_eq_zero_iff.1 hlength.symm
    rw [hempty]
    exact ⟨rfl, rfl, rfl⟩
  | cons first rest =>
    cases content' with
    | nil => cases hlength
    | cons first' rest' =>
      refine direct_showAlike hlength (congrArg (fun n => [n]) hlength) ?_
      intro seen seen' hseen hseen'
      apply hreplies .enroll seen seen'
      · exact congrArg (Option.map (Operation.enroll, ·)) hseen
      · exact congrArg (Option.map (Operation.enroll, ·)) hseen'

theorem verify_showAlike {handle handle' password password' : Option Bytes}
    (hhandle : handle.map List.length = handle'.map List.length)
    (hpassword : password.map List.length = password'.map List.length)
    (hreplies : Visit.RepliesAlike settings (auth, .verify userId handle password)
      (auth', .verify userId handle' password')) :
    (verify settings auth userId handle password).ShowAlike (verify settings auth' userId handle' password') := by
  obtain ⟨rfl, rfl⟩ | ⟨first, first', rfl, rfl, hfirst⟩ := Bytes.lengths_cases hhandle
  · exact ⟨rfl, rfl, rfl⟩
  obtain ⟨rfl, rfl⟩ | ⟨second, second', rfl, rfl, hsecond⟩ := Bytes.lengths_cases hpassword
  · exact ⟨rfl, rfl, rfl⟩
  refine direct_showAlike hsecond (congrArg₂ (fun m n => [m, n]) hfirst hsecond) ?_
  intro seen seen' hseen hseen'
  apply hreplies .verify seen seen'
  · exact congrArg (Option.map (Operation.verify, ·)) hseen
  · exact congrArg (Option.map (Operation.verify, ·)) hseen'

/-! ## Messages off the wire -/

/-- What was decoded fits its words, and so does the response: writing it does not fail. -/
theorem replied_showAlike (hseen : seen.Fits) (hseen' : seen'.Fits) (huser : seen.userId = seen'.userId)
    (hreplies : (auth.reply operation seen).map (·.status) = (auth'.reply operation seen').map (·.status)) :
    (replied auth operation seen).ShowAlike (replied auth' operation seen') := by
  unfold replied
  obtain ⟨e, hreply, hreply'⟩ | ⟨reply, reply', hreply, hreply', hstatus⟩ := Operation.replies_cases hreplies
  · rw [hreply, hreply']
    exact ⟨rfl, rfl, rfl⟩
  obtain ⟨hfits, -⟩ := Authenticator.reply_spec hreply hseen
  obtain ⟨hfits', -⟩ := Authenticator.reply_spec hreply' hseen'
  rw [hreply, hreply']
  unfold responded
  dsimp only
  rw [hstatus, huser]
  cases hs : reply'.status with
  | invalid => exact ⟨rfl, rfl, rfl⟩
  | ok =>
    rw [Envelope.encode_eq_wire (hstatus.trans hs) hfits, Envelope.encode_eq_wire hs hfits']
    exact ⟨rfl, rfl, rfl⟩

/-- **Messages of one layout show the same.** -/
theorem wire_showAlike {data data' : Bytes} (hlayout : Envelope.SameLayout data data')
    (hreplies : Visit.RepliesAlike settings (auth, .message operation data) (auth', .message operation data')) :
    (wire settings auth operation data).ShowAlike (wire settings auth' operation data') := by
  obtain ⟨seen, seen', hdecode, hdecode', hshape⟩ :=
    Envelope.deserialize_sameLayout (.blank operation.request) settings.maxFieldLength hlayout
  have hlength : (Authenticator.fieldOf seen passwordField).length = (Authenticator.fieldOf seen' passwordField).length := by
    unfold Authenticator.fieldOf
    obtain ⟨hnone, hnone'⟩ | ⟨content, content', hsome, hsome', hlength⟩ :=
      Bytes.lengths_cases (hshape.length_field? passwordField)
    · rw [hnone, hnone']
    · rw [hsome, hsome']
      exact hlength
  unfold wire
  rw [hdecode, hdecode']
  dsimp only
  rw [hshape.status, hshape.userId, hlength, hlayout.length_eq]
  cases hs : seen'.status with
  | invalid => exact ⟨rfl, rfl, rfl⟩
  | ok =>
    dsimp only
    by_cases hmax : settings.maxPasswordLength < (Authenticator.fieldOf seen' passwordField).length
    · rw [if_pos hmax, if_pos hmax]
      exact ⟨rfl, rfl, rfl⟩
    have hok := hshape.status.trans hs
    have hfits := Nat.le_of_not_lt hmax
    have hshown := Operation.shownWire_eq_some_iff.2 ⟨hdecode, hok, hlength ▸ hfits⟩
    have hshown' := Operation.shownWire_eq_some_iff.2 ⟨hdecode', hs, hfits⟩
    obtain ⟨hwords, -⟩ := Envelope.wire_of_deserialize hdecode hok
    obtain ⟨hwords', -⟩ := Envelope.wire_of_deserialize hdecode' hs
    rw [if_neg hmax, if_neg hmax]
    refine replied_showAlike hwords hwords' hshape.userId (hreplies operation seen seen' ?_ ?_)
    · exact congrArg (Option.map (operation, ·)) hshown
    · exact congrArg (Option.map (operation, ·)) hshown'

/-- **Malformed messages of the same length show the same**; no authenticator sees them. -/
theorem wire_showAlike_of_malformed (auth auth' : Authenticator) {data data' : Bytes} (hlength : data.length = data'.length)
    (hmalformed : ∀ seen, ¬ operation.Decodes settings data seen)
    (hmalformed' : ∀ seen, ¬ operation.Decodes settings data' seen) :
    (wire settings auth operation data).ShowAlike (wire settings auth' operation data') := by
  obtain ⟨seen, hdecode, hinvalid⟩ := Operation.malformed_iff.1 hmalformed
  obtain ⟨seen', hdecode', hinvalid'⟩ := Operation.malformed_iff.1 hmalformed'
  unfold wire
  rw [hdecode, hdecode']
  dsimp only
  rw [hinvalid, hinvalid', hlength]
  exact ⟨rfl, rfl, rfl⟩

end Verdict

/-! ## Two devices -/

namespace Device

/-- **Devices that show the same**: their settings, whether they are closed, what they have logged and what they have
counted.  Their stores may hold anything, in order. -/
structure Twin (d d' : Device) : Prop where
  sound : d.store.Sound
  sound' : d'.store.Sound
  settings : d.settings = d'.settings
  closed : d.closed = d'.closed
  notes : d.notes = d'.notes
  counters : d.counters = d'.counters

namespace Twin

variable {d d' : Device} {auth auth' : Authenticator} {v v' : Visit}

/-- Calls that follow verdicts which show the same end alike, and leave devices that show the same. -/
theorem of_follows {α : Type} {operation : Operation} {verdict verdict' : Verdict} {shows : Store → α → Bytes}
    {outcome outcome' : Except DeviceError α × Device} (h : d.Twin d')
    (hfollows : Follows (d.counted operation) operation verdict shows outcome)
    (hfollows' : Follows (d'.counted operation) operation verdict' shows outcome') (hshow : verdict.ShowAlike verdict') :
    thrown outcome.1 = thrown outcome'.1 ∧ outcome.2.Twin outcome'.2 := by
  have hcounted : (d.counted operation).counters = (d'.counted operation).counters := by
    unfold counted
    rw [h.counters]
  refine ⟨?_, ?_, ?_, ?_, ?_, ?_, ?_⟩
  · have hending := hshow.ending
    rwa [← hfollows.result, ← hfollows'.result, thrown_map, thrown_map] at hending
  · exact Store.Reaches.sound hfollows.reaches h.sound
  · exact Store.Reaches.sound hfollows'.reaches h.sound'
  · rw [hfollows.settings, hfollows'.settings]
    exact h.settings
  · rw [hfollows.closed, hfollows'.closed]
    exact h.closed
  · rw [hfollows.notes, hfollows'.notes, hshow.notes]
    exact congrArg (· ++ verdict'.notes) h.notes
  · rw [hfollows.counters, hfollows'.counters, hcounted, Verdict.count_congr hshow.rejection]

/-- Two messages whose verdicts show the same. -/
theorem message_alike {operation : Operation} {data data' : Bytes} (h : d.Twin d') (hopen : d.closed = false)
    (hshow : (Verdict.wire d.settings auth operation data).ShowAlike (Verdict.wire d.settings auth' operation data')) :
    thrown (d.visit auth (.message operation data)).1 = thrown (d'.visit auth' (.message operation data')).1 ∧
      (d.visit auth (.message operation data)).2.Twin (d'.visit auth' (.message operation data')).2 := by
  have hfollows := Call.handle_follows h.sound hopen auth operation data
  have hfollows' := Call.handle_follows h.sound' (h.closed ▸ hopen) auth' operation data'
  rw [visit_message, visit_message, thrown_map, thrown_map]
  rw [← h.settings] at hfollows'
  exact h.of_follows hfollows hfollows' hshow

theorem visit_open (h : d.Twin d') (hopen : d.closed = false) (hvisit : v.SameButSecrets d.settings v')
    (hreplies : Visit.RepliesAlike d.settings (auth, v) (auth', v')) :
    thrown (d.visit auth v).1 = thrown (d'.visit auth' v').1 ∧ (d.visit auth v).2.Twin (d'.visit auth' v').2 := by
  have hopen' : d'.closed = false := h.closed ▸ hopen
  have hsettings := h.settings
  cases hvisit with
  | @enroll userId password password' hpassword =>
    have hshow := Verdict.enroll_showAlike hpassword hreplies
    have hfollows := Call.enroll_follows h.sound hopen auth userId password
    have hfollows' := Call.enroll_follows h.sound' hopen' auth' userId password'
    rw [visit_enroll, visit_enroll, thrown_map, thrown_map]
    exact h.of_follows hfollows hfollows' (hsettings ▸ hshow)
  | @verify userId handle handle' password password' hhandle hpassword =>
    have hshow := Verdict.verify_showAlike hhandle hpassword hreplies
    have hfollows := Call.verify_follows h.sound hopen auth userId handle password
    have hfollows' := Call.verify_follows h.sound' hopen' auth' userId handle' password'
    rw [visit_verify, visit_verify, thrown_map, thrown_map]
    exact h.of_follows hfollows hfollows' (hsettings ▸ hshow)
  | message operation hlayout => exact h.message_alike hopen (Verdict.wire_showAlike hlayout hreplies)
  | malformed operation hlength hmalformed hmalformed' =>
    exact h.message_alike hopen (Verdict.wire_showAlike_of_malformed auth auth' hlength hmalformed hmalformed')
  | close =>
    rw [visit_close, visit_close, hopen, hopen']
    exact ⟨rfl, h.sound, h.sound', hsettings, rfl, congrArg (· ++ _) h.notes, h.counters⟩

/-- A closed device turns both visits down, or is closed by both. -/
theorem visit_closed (h : d.Twin d') (hclosed : d.closed = true) (hvisit : v = .close ↔ v' = .close) :
    thrown (d.visit auth v).1 = thrown (d'.visit auth' v').1 ∧ (d.visit auth v).2.Twin (d'.visit auth' v').2 := by
  have hclosed' : d'.closed = true := h.closed ▸ hclosed
  rw [visit_of_closed hclosed, visit_of_closed hclosed']
  refine ⟨?_, h⟩
  by_cases hv : v = .close
  · rw [hv, hvisit.1 hv, visit_close, visit_close]
  · rw [visit_refused hclosed auth hv, visit_refused hclosed' auth' (fun hv' => hv (hvisit.2 hv'))]

/-- **One visit**: devices that show the same still do after visits that are the same but for their secrets, which end
alike. -/
theorem visit (h : d.Twin d') (hvisit : v.SameButSecrets d.settings v')
    (hreplies : d.closed = false → Visit.RepliesAlike d.settings (auth, v) (auth', v')) :
    thrown (d.visit auth v).1 = thrown (d'.visit auth' v').1 ∧ (d.visit auth v).2.Twin (d'.visit auth' v').2 := by
  cases hclosed : d.closed with
  | false => exact h.visit_open hclosed hvisit (hreplies hclosed)
  | true => exact h.visit_closed hclosed hvisit.close_iff

end Twin

/-! ## Two runs -/

/-- **Runs that are the same but for their secrets**, on a device that is closed by then or not: so are their visits, turn
by turn, and as long as the device is open the authenticators reply alike. -/
inductive RunsAlike (settings : Settings) : Bool → List (Authenticator × Visit) → List (Authenticator × Visit) → Prop
  | nil (closed : Bool) : RunsAlike settings closed [] []
  | cons {closed : Bool} {auth auth' : Authenticator} {v v' : Visit} {rest rest' : List (Authenticator × Visit)}
      (hvisit : v.SameButSecrets settings v')
      (hreplies : closed = false → Visit.RepliesAlike settings (auth, v) (auth', v'))
      (hrest : RunsAlike settings (closed || v = .close) rest rest') :
      RunsAlike settings closed ((auth, v) :: rest) ((auth', v') :: rest')

/-- Only closing closes a device. -/
theorem closed_visit {d : Device} (h : d.store.Sound) (auth : Authenticator) (v : Visit) :
    (d.visit auth v).2.closed = (d.closed || v = .close) := by
  cases hclosed : d.closed with
  | true =>
    rw [visit_of_closed hclosed, Bool.true_or]
    exact hclosed
  | false =>
    obtain ⟨-, hafter⟩ := visit_invocations h hclosed auth v
    rw [Bool.false_or]
    exact hafter

/-- **A run of visits**: what one visit keeps, the run keeps. -/
theorem Twin.visits {settings : Settings} {closed : Bool} {history history' : List (Authenticator × Visit)}
    (hruns : RunsAlike settings closed history history') : ∀ {d d' : Device}, d.Twin d' → d.settings = settings →
      d.closed = closed → (d.visits history).1.map thrown = (d'.visits history').1.map thrown ∧
        (d.visits history).2.Twin (d'.visits history').2 := by
  induction hruns with
  | nil closed =>
    intro d d' h _ _
    exact ⟨rfl, h⟩
  | @cons closed auth auth' v v' rest rest' hvisit hreplies _ ih =>
    intro d d' h hsettings hclosed
    subst hsettings hclosed
    obtain ⟨hthrown, hafter⟩ := h.visit hvisit hreplies
    obtain ⟨-, hkept⟩ := visit_keeps h.sound auth v
    obtain ⟨hlater, hlast⟩ := ih hafter hkept (closed_visit h.sound auth v)
    exact ⟨congrArg₂ List.cons hthrown hlater, hlast⟩

/-- **What a device logs, throws and counts tells nothing of the secrets it is given.**  Let a device be made, or opened by
its name, and be visited in two ways that are the same but for their secrets: passwords and handles of the same lengths,
messages of one layout, malformed messages of the same length, and authenticators that leave the same status or fail in
the same way whenever they are asked.  Then both runs log the same, end each visit in the same error or none, and leave the
same counters. -/
theorem runs_show_no_secret (settings : Settings) (counters : Option Counters) (name : String) (d : Device)
    (history history' : List (Authenticator × Visit))
    (hopened : d = make settings counters ∨ openNamed name settings counters = .ok d)
    (hruns : RunsAlike settings false history history') :
    (d.visits history).2.notes = (d.visits history').2.notes ∧
      (d.visits history).1.map thrown = (d.visits history').1.map thrown ∧
      (d.visits history).2.counters = (d.visits history').2.counters := by
  have hfresh : d.store = {} ∧ d.settings = settings ∧ d.closed = false := by
    rcases hopened with rfl | hopened
    · exact ⟨rfl, rfl, rfl⟩
    · unfold openNamed at hopened
      by_cases hname : name = deviceName
      · rw [if_pos hname] at hopened
        cases hopened
        exact ⟨rfl, rfl, rfl⟩
      · rw [if_neg hname] at hopened
        cases hopened
  obtain ⟨hstore, hsettings, hopen⟩ := hfresh
  have hsound : d.store.Sound := hstore ▸ Store.sound_empty
  have htwin : d.Twin d := ⟨hsound, hsound, rfl, rfl, rfl, rfl⟩
  obtain ⟨hthrown, hlast⟩ := Twin.visits hruns htwin hsettings hopen
  exact ⟨hlast.notes, hthrown, hlast.counters⟩

/-- Another password, another handle and password off the wire with other results, other malformed bytes, and an
authenticator that would fail, but is not asked any more. -/
theorem runs_show_no_secret_turned :
    ((make { metricsEnabled := true } none).visits
      [(.scripted [.field [9]], .enroll 7 (some [1, 2])),
        (.scripted [.field [5], .status .invalid], .message .verify ((Operation.verify.message 7 [9] [1, 2]).wire ++ [0])),
        (.echoing, .message .enroll [1, 2]), (.echoing, .close), (.echoing, .enroll 7 (some [1]))]).2.notes =
    ((make { metricsEnabled := true } none).visits
      [(.scripted [.field [8], .userId 3], .enroll 7 (some [3, 4])),
        (.scripted [.status .invalid], .message .verify ((Operation.verify.message 7 [8] [3, 4]).wire ++ [0])),
        (.echoing, .message .enroll [7, 7]), (.echoing, .close),
        (.scripted [.failure "late"], .enroll 7 (some [2]))]).2.notes := by
  have hshape : (Operation.verify.message 7 [9] [1, 2]).SameShape (Operation.verify.message 7 [8] [3, 4]) :=
    ⟨rfl, rfl, rfl, rfl⟩
  have hlayout := hshape.sameLayout ⟨by decide, by decide⟩ [0]
  have hmalformed : ∀ seen, ¬ Operation.enroll.Decodes { metricsEnabled := true } [1, 2] seen :=
    Operation.malformed_iff.2 ⟨_, rfl, rfl⟩
  have hmalformed' : ∀ seen, ¬ Operation.enroll.Decodes { metricsEnabled := true } [7, 7] seen :=
    Operation.malformed_iff.2 ⟨_, rfl, rfl⟩
  refine (runs_show_no_secret { metricsEnabled := true } none deviceName _ _ _ (.inl rfl) ?_).1
  refine .cons (.enroll 7 rfl) ?_ (.cons (.message .verify hlayout) ?_
    (.cons (.malformed .enroll rfl hmalformed hmalformed') ?_ (.cons .close ?_ (.cons (.enroll 7 rfl) ?_ (.nil _)))))
  · intro _ operation seen seen' _ _
    rfl
  · intro _ operation seen seen' _ _
    rfl
  · intro _ operation seen seen' hseen _
    cases hseen
  · intro _ operation seen seen' hseen _
    cases hseen
  · intro hopen
    cases hopen

end Device
end PasswordGate

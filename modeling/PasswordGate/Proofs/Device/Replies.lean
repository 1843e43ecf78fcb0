import PasswordGate.Proofs.Device.Invocations
/-!
# Replies — how a message off the wire is answered

An open device declines a message for one of three reasons (`Operation.Declines`), and then answers with the bare status
word: the response is not written, whatever the authenticator had put into it.  Else the answer is the wire form of the
response as the authenticator left it (`Operation.Answers`).  Which of the two it is can be told by the answer itself
(`Answers.eq_refusal_iff`).
-/
namespace PasswordGate

namespace Operation

/-- **A message off the wire decodes in order** as a request, under the field limit. -/
def Decodes (operation : Operation) (settings : Settings) (data : Bytes) (seen : Envelope) : Prop :=
  (Envelope.blank operation.request).deserialize data none settings.maxFieldLength = .ok seen ∧ seen.status = .ok

/-- **A message off the wire is declined**: it does not decode in order, its password is over the limit, or the
authenticator leaves the response out of order. -/
inductive Declines (operation : Operation) (settings : Settings) (auth : Authenticator) (data : Bytes) : Prop
  | malformed (hmalformed : ∀ seen, ¬ operation.Decodes settings data seen)
  | passwordTooLong {seen : Envelope} (hseen : operation.Decodes settings data seen)
      (hlong : settings.maxPasswordLength < (Authenticator.fieldOf seen passwordField).length)
  | authenticator {seen reply : Envelope} (hseen : operation.Decodes settings data seen)
      (hfits : (Authenticator.fieldOf seen passwordField).length ≤ settings.maxPasswordLength)
      (hreply : auth.reply operation seen = .ok reply) (hinvalid : reply.status = .invalid)

/-- **A message off the wire has an answer**: the bare status word if it is declined, else the wire form of the response,
which is in order and as the authenticator left it. -/
inductive Answers (operation : Operation) (settings : Settings) (auth : Authenticator) (data : Bytes) : Bytes → Prop
  | declined (h : operation.Declines settings auth data) : Answers operation settings auth data [1, 0, 0, 0]
  | granted {seen reply : Envelope} {out : Bytes} (hseen : operation.Decodes settings data seen)
      (hfits : (Authenticator.fieldOf seen passwordField).length ≤ settings.maxPasswordLength)
      (hreply : auth.reply operation seen = .ok reply) (hok : reply.status = .ok) (hout : reply.encode = .ok out) :
      Answers operation settings auth data out

variable {operation : Operation} {settings : Settings} {auth auth' : Authenticator} {data out : Bytes}

theorem Decodes.unique {seen other : Envelope} (h : operation.Decodes settings data seen)
    (h' : operation.Decodes settings data other) : seen = other :=
  Except.ok.inj (h.1.symm.trans h'.1)

/-- Data that do not decode in order decode to a message that is not. -/
theorem malformed_iff : (∀ seen, ¬ operation.Decodes settings data seen) ↔
    ∃ seen, (Envelope.blank operation.request).deserialize data none settings.maxFieldLength = .ok seen ∧
      seen.status = .invalid := by
  obtain ⟨seen, hseen⟩ := Envelope.exists_deserialize (.blank operation.request) data settings.maxFieldLength
  constructor
  · intro h
    refine ⟨seen, hseen, ?_⟩
    cases hs : seen.status with
    | invalid => rfl
    | ok => exact absurd ⟨hseen, hs⟩ (h seen)
  · rintro ⟨other, hother, hinvalid⟩ seen ⟨hdecode, hok⟩
    rw [hother] at hdecode
    cases hdecode
    rw [hinvalid] at hok
    cases hok

/-- **An answer is the bare status word exactly if the message is declined**: a response in order is longer. -/
theorem Answers.eq_refusal_iff (h : operation.Answers settings auth data out) :
    out = [1, 0, 0, 0] ↔ operation.Declines settings auth data := by
  cases h with
  | declined h => exact iff_of_true rfl h
  | @granted seen reply out hseen hfits hreply hok hout =>
    apply iff_of_false
    · intro hword
      obtain ⟨-, hwire⟩ := (Envelope.encode_eq_ok_iff hok).1 hout
      exact Envelope.wire_ne_refusal hok (hwire ▸ hword)
    · intro hdeclined
      cases hdeclined with
      | malformed hmalformed => exact hmalformed seen hseen
      | passwordTooLong hother hlong =>
        rw [hother.unique hseen] at hlong
        exact absurd hfits (Nat.not_le.2 hlong)
      | authenticator hother _ hgiven hinvalid =>
        rw [hother.unique hseen, hreply] at hgiven
        cases hgiven
        rw [hok] at hinvalid
        cases hinvalid

/-- **Replies of one status**: both are the same failure, or both are there. -/
theorem replies_cases {given given' : Except DeviceError Envelope} (hsame : given.map (·.status) = given'.map (·.status)) :
    (∃ e, given = .error e ∧ given' = .error e) ∨
      ∃ reply reply', given = .ok reply ∧ given' = .ok reply' ∧ reply.status = reply'.status := by
  cases given with
  | error e =>
    cases given' with
    | error e' => exact .inl ⟨e, rfl, congrArg Except.error (Except.error.inj hsame).symm⟩
    | ok reply' => cases hsame
  | ok reply =>
    cases given' with
    | error e' => cases hsame
    | ok reply' => exact .inr ⟨reply, reply', rfl, rfl, Except.ok.inj hsame⟩

/-- A reply of the same status is there whenever the other is. -/
theorem exists_ok_of_status {given given' : Except DeviceError Envelope} {reply : Envelope}
    (hsame : given'.map (·.status) = given.map (·.status)) (hreply : given = .ok reply) :
    ∃ reply', given' = .ok reply' ∧ reply'.status = reply.status := by
  obtain ⟨e, -, herror⟩ | ⟨reply', other, hreply', hother, hstatus⟩ := replies_cases hsame
  · rw [hreply] at herror
    cases herror
  · rw [hreply] at hother
    cases hother
    exact ⟨reply', hreply', hstatus⟩

/-- Whether a message is declined depends on nothing that the authenticator leaves but the status. -/
theorem Declines.of_status (h : operation.Declines settings auth data)
    (hstatus : ∀ seen, (auth'.reply operation seen).map (·.status) = (auth.reply operation seen).map (·.status)) :
    operation.Declines settings auth' data := by
  cases h with
  | malformed hmalformed => exact .malformed hmalformed
  | passwordTooLong hseen hlong => exact .passwordTooLong hseen hlong
  | @authenticator seen reply hseen hfits hreply hinvalid =>
    obtain ⟨reply', hreply', hsame⟩ := exists_ok_of_status (hstatus seen) hreply
    exact .authenticator hseen hfits hreply' (hsame.trans hinvalid)

end Operation

namespace Verdict

variable {operation : Operation} {settings : Settings} {auth : Authenticator} {data : Bytes}

/-- **A message off the wire is answered**, unless the authenticator fails on the request that it is shown. -/
theorem exists_answer
    (hreturns : ∀ seen, operation.shownWire settings data = some seen → ∃ reply, auth.reply operation seen = .ok reply) :
    ∃ out, (wire settings auth operation data).result = .ok out ∧ operation.Answers settings auth data out := by
  obtain ⟨seen, hdecode⟩ := Envelope.exists_deserialize (.blank operation.request) data settings.maxFieldLength
  unfold wire
  rw [hdecode]
  dsimp only
  cases hs : seen.status with
  | invalid =>
    have hmalformed := Operation.malformed_iff.2 ⟨seen, hdecode, hs⟩
    exact ⟨[1, 0, 0, 0], rfl, .declined (.malformed hmalformed)⟩
  | ok =>
    dsimp only
    by_cases hmax : settings.maxPasswordLength < (Authenticator.fieldOf seen passwordField).length
    · rw [if_pos hmax]
      exact ⟨[1, 0, 0, 0], rfl, .declined (.passwordTooLong ⟨hdecode, hs⟩ hmax)⟩
    rw [if_neg hmax]
    have hfits := Nat.le_of_not_lt hmax
    obtain ⟨reply, hreply⟩ := hreturns seen (Operation.shownWire_eq_some_iff.2 ⟨hdecode, hs, hfits⟩)
    unfold replied responded
    rw [hreply]
    dsimp only
    cases hstatus : reply.status with
    | invalid => exact ⟨[1, 0, 0, 0], rfl, .declined (.authenticator ⟨hdecode, hs⟩ hfits hreply hstatus)⟩
    | ok =>
      -- What was decoded fits its words, so the response does, and it can be written.
      obtain ⟨hseen, -⟩ := Envelope.wire_of_deserialize hdecode hs
      obtain ⟨hresponse, -⟩ := Authenticator.reply_spec hreply hseen
      have hencode := Envelope.encode_eq_wire hstatus hresponse
      refine ⟨reply.wire, ?_, .granted ⟨hdecode, hs⟩ hfits hreply hstatus hencode⟩
      dsimp only
      rw [hencode]
      rfl

end Verdict

namespace Device

variable {d : Device}

/-- What a visit by a message gives is what its verdict says. -/
theorem fst_visit_message (h : d.store.Sound) (hopen : d.closed = false) (auth : Authenticator) (operation : Operation)
    (data : Bytes) : (d.visit auth (.message operation data)).1 =
      (Verdict.wire d.settings auth operation data).result.map .message := by
  have hfollows := Call.handle_follows h hopen auth operation data
  rw [visit_message, ← hfollows.result]
  cases ((Call.handle auth operation data).run d).1 <;> rfl

/-- **Replies tell nothing on failure, and the response on success.**  On an open device, whatever it was asked for before,
any message off the wire is answered, unless the authenticator fails on the request that it is shown.  The answer is the
bare status word, or the wire form of the response in order, as the authenticator left it.  It is the status word exactly
if the message does not decode in order under the field limit, its password is over the limit, or the authenticator leaves
the response out of order; and it is then the same for every authenticator that leaves the same status, whatever else it
leaves in the response. -/
theorem message_answered (settings : Settings) (d : Device) (auth : Authenticator) (operation : Operation) (data : Bytes)
    (hreached : d.Reached settings) (hopen : d.closed = false)
    (hreturns : ∀ seen, operation.shownWire settings data = some seen → ∃ reply, auth.reply operation seen = .ok reply) :
    ∃ out, (d.visit auth (.message operation data)).1 = .ok (.message out) ∧
      (out = [1, 0, 0, 0] ∨ ∃ seen reply, operation.Decodes settings data seen ∧
        auth.reply operation seen = .ok reply ∧ reply.status = .ok ∧ reply.encode = .ok out) ∧
      (out = [1, 0, 0, 0] ↔ operation.Declines settings auth data) ∧
      ∀ auth' : Authenticator,
        (∀ seen, (auth'.reply operation seen).map (·.status) = (auth.reply operation seen).map (·.status)) →
        out = [1, 0, 0, 0] → (d.visit auth' (.message operation data)).1 = .ok (.message out) := by
  obtain ⟨hsound, rfl⟩ := hreached.keeps
  obtain ⟨out, hresult, hanswers⟩ := Verdict.exists_answer hreturns
  have hiff := hanswers.eq_refusal_iff
  refine ⟨out, ?_, ?_, hiff, fun auth' hstatus hword => ?_⟩
  · rw [fst_visit_message hsound hopen, hresult]
    rfl
  · cases hanswers with
    | declined => exact .inl rfl
    | granted hseen _ hreply hok hout => exact .inr ⟨_, _, hseen, hreply, hok, hout⟩
  · have hdeclines' := (hiff.1 hword).of_status hstatus
    have hreturns' : ∀ seen, operation.shownWire d.settings data = some seen → ∃ reply,
        auth'.reply operation seen = .ok reply := by
      intro seen hseen
      obtain ⟨reply, hreply⟩ := hreturns seen hseen
      obtain ⟨reply', hreply', -⟩ := Operation.exists_ok_of_status (hstatus seen) hreply
      exact ⟨reply', hreply'⟩
    obtain ⟨out', hresult', hanswers'⟩ := Verdict.exists_answer hreturns'
    have hword' := hanswers'.eq_refusal_iff.2 hdeclines'
    rw [fst_visit_message hsound hopen, hresult', hword', hword]
    rfl

/-- A handle is written into the response before it is marked. -/
theorem message_answered_marked : ((make {} none).visit (Authenticator.scripted [.userId 7, .field [9, 9], .status .invalid])
    (.message .enroll [0, 0, 0, 0, 7, 0, 0, 0, 1, 0, 0, 0, 5])).1 = .ok (.message [1, 0, 0, 0]) := by
  obtain ⟨out, hout, -, hiff, -⟩ := message_answered {} (make {} none)
    (Authenticator.scripted [.userId 7, .field [9, 9], .status .invalid]) .enroll
    [0, 0, 0, 0, 7, 0, 0, 0, 1, 0, 0, 0, 5] ⟨none, [], rfl⟩ rfl fun seen _ => ⟨_, rfl⟩
  have hseen : Operation.enroll.Decodes {} [0, 0, 0, 0, 7, 0, 0, 0, 1, 0, 0, 0, 5] (Operation.enroll.message 7 [] [5]) :=
    ⟨rfl, rfl⟩
  have hword := hiff.2 (.authenticator hseen (by decide) rfl rfl)
  rw [hout, hword]

end Device
end PasswordGate

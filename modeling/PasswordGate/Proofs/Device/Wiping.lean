import PasswordGate.Proofs.Device.Agreement
import PasswordGate.Proofs.Store.Confinement
/-!
# Wiping — what a call has made is zeroed when it is over

A call makes buffers, a request and a response; `Within` says which of them still hold something.  A piece of a call
`Ensures` one condition on the store if it gives a value, and another one if it ends in an error, and rows of pieces are
put together by `Ensures.bind`.  Every piece of a direct call and of a wire call has its rule, so does every edit that an
authenticator can make; the last one, `ensures_releasing`, empties both messages either way.
-/
namespace PasswordGate

open Store (Reaches Confined)

namespace Call

open Running

variable {α β : Type} {operation : Operation} {pre escape : Store → Prop} {mid : α → Store → Prop} {post : β → Store → Prop}

/-- **How a call has ended**, said of its store: with a value or in an error. -/
def Ends (post : β → Store → Prop) (escape : Store → Prop) : Except DeviceError β × Device → Prop
  | (.ok b, d) => post b d.store
  | (.error _, d) => escape d.store

def Ensures (pre : Store → Prop) (x : Call β) (post : β → Store → Prop) (escape : Store → Prop) : Prop :=
  ∀ d : Device, pre d.store → Ends post escape (x.run d)

/-- A piece that may be run in any store with a condition, and leaves one with it. -/
abbrev Keeps (pre : Store → Prop) (x : Call β) : Prop := Ensures pre x (fun _ => pre) pre

theorem Ensures.bind {x : Call α} {f : α → Call β} (hx : Ensures pre x mid escape)
    (hf : ∀ a, Ensures (mid a) (f a) post escape) : Ensures pre (x >>= f) post escape := by
  intro d hpre
  have hends := hx d hpre
  rw [run_bind]
  cases hr : x.run d with
  | mk r after =>
    rw [hr] at hends
    cases r with
    | error e => exact hends
    | ok a => exact hf a after hends

theorem Ensures.imp {post' : β → Store → Prop} {escape' : Store → Prop} {x : Call β} (hx : Ensures pre x post escape)
    (hpost : ∀ b s, post b s → post' b s) (hescape : ∀ s, escape s → escape' s) : Ensures pre x post' escape' := by
  intro d hpre
  have hends := hx d hpre
  cases hr : x.run d with
  | mk r after =>
    rw [hr] at hends
    cases r with
    | error e => exact hescape _ hends
    | ok b => exact hpost b _ hends

theorem ensures_look {f : Device → Call β} (hf : ∀ d, Ensures pre (f d) post escape) :
    Ensures pre (get >>= f) post escape := fun d hpre => by
  rw [run_bind_of_ok (run_get d)]
  exact hf d d hpre

/-- A piece that leaves the store as it was keeps what is said of it. -/
theorem keeps_of_store {x : Call β} (h : ∀ d, (x.run d).2.store = d.store) : Keeps pre x := fun d hpre => by
  have hstore := h d
  cases hr : x.run d with
  | mk r after =>
    have hafter : pre after.store := by
      rw [hr] at hstore
      exact hstore.symm ▸ hpre
    cases r <;> exact hafter

theorem keeps_ofCodec (result : Except CodecError β) : Keeps pre (ofCodec result) :=
  keeps_of_store fun d => by rw [run_ofCodec]

/-- A request that is turned down ends the call. -/
theorem ensures_reject {reason : Reason} {userId : Int} (h : ∀ s, pre s → escape s) :
    Ensures pre (reject operation reason userId) (fun _ : β => fun _ => False) escape := fun d hpre => h d.store hpre

theorem ensures_onStore {change : Store → Except CodecError (β × Store)} (hescape : ∀ s, pre s → escape s)
    (hpost : ∀ s b s', pre s → change s = .ok (b, s') → post b s') : Ensures pre (onStore change) post escape := by
  intro d hpre
  cases hc : change d.store with
  | error e =>
    rw [run_onStore_of_error d hc]
    exact hescape _ hpre
  | ok result =>
    obtain ⟨b, s⟩ := result
    rw [run_onStore_of_ok d hc]
    exact hpost _ b s hpre hc

theorem keeps_changeStore {change : Store → Except CodecError Store} (h : ∀ s s', pre s → change s = .ok s' → pre s') :
    Keeps pre (changeStore change) := by
  intro d hpre
  cases hc : change d.store with
  | error e =>
    rw [run_changeStore_of_error d hc]
    exact hpre
  | ok s =>
    rw [run_changeStore_of_ok d hc]
    exact h _ s hpre hc

/-! ## What a call has made -/

/-- **All that has been made since an earlier store is confined**, and the store is in order. -/
structure Within (base : Store) (loose : List BufferId) (opened : List MessageId) (s : Store) : Prop
    extends Confined base loose opened s where
  sound : s.Sound
  reaches : Reaches base s

/-- **A request is served**: it and the response are the only open messages, and the response has a field to fill. -/
structure Serving (base : Store) (request response : MessageId) (s : Store) : Prop
    extends Within base [] [response, request] s where
  field : 0 < (s.message response).slots.length

/-- What a body leaves: its result in a buffer that no message holds, if it has one, and the rest in open messages. -/
structure Leaves (base : Store) (opened : List MessageId) (result : Option BufferId) (s : Store) : Prop
    extends Within base result.toList opened s where
  loose : ∀ b ∈ result, s.Loose b

/-- **A call that has ended** leaves no message open and nothing loose but its result. -/
abbrev Settles (base : Store) (result : β → Option BufferId) : Except DeviceError β × Device → Prop :=
  Ends (fun b => Leaves base [] (result b)) (Leaves base [] none)

variable {base s s' : Store} {loose loose' : List BufferId} {opened opened' : List MessageId}
variable {request response : MessageId}

theorem Within.of_reaches (h : Within base loose opened s) (r : Reaches s s') (hc : Confined base loose' opened' s') :
    Within base loose' opened' s' := ⟨hc, Store.Reaches.sound r h.sound, h.reaches.trans r⟩

theorem within_refl (h : base.Sound) : Within base [] [] base := ⟨.refl base, h, .refl⟩

theorem Serving.of_reaches (h : Serving base request response s) (r : Reaches s s')
    (hc : Confined base [] [response, request] s') : Serving base request response s' := by
  have hwithin := h.toWithin.of_reaches r hc
  have hlt : response < s.messages.length := Nat.lt_of_not_le fun hle => by
    have hfield := h.field
    rw [s.message_of_length_le hle] at hfield
    exact absurd hfield (Nat.lt_irrefl 0)
  refine ⟨hwithin, ?_⟩
  rw [hwithin.sound.slot_count, (Store.Reaches.grows r h.sound).kind_eq response hlt, ← h.sound.slot_count]
  exact h.field

theorem Serving.leaves (h : Serving base request response s) : Leaves base [response, request] none s :=
  ⟨h.toWithin, nofun⟩

/-! ## Edits -/

/-- **Whatever an edit makes ends up in the response.** -/
theorem keeps_apply (request response : MessageId) (edit : Edit) :
    Keeps (Serving base request response) (apply request response edit) := by
  have hopened : response ∈ [response, request] := List.mem_cons_self
  cases edit with
  | userId value =>
    refine keeps_changeStore fun s s' h hc => h.of_reaches (Store.reaches_setUserId hc) ?_
    cases huser : Store.checkUserId value with
    | error e => simp [Store.setUserId, huser, bind, Except.bind] at hc
    | ok user =>
      simp only [Store.setUserId, huser, bind, Except.bind, pure, Except.pure, Except.ok.injEq] at hc
      exact hc ▸ h.label response (s.message response).status user
  | field content =>
    refine keeps_changeStore fun s s' h hc => ?_
    cases hcopy : s.copyOf content with
    | error e => simp [hcopy, bind, Except.bind] at hc
    | ok copy =>
      obtain ⟨b, copied⟩ := copy
      simp only [hcopy, bind, Except.bind, pure, Except.pure, Except.ok.injEq] at hc
      subst hc
      obtain ⟨-, -, hmessages, -⟩ := Store.copyOf_buffers hcopy
      obtain ⟨hreach, -⟩ := Store.reaches_copyOf hcopy
      have hassign := Store.reaches_assign (Store.Reaches.sound hreach h.sound).toSlotted response 0 (some b)
      refine h.of_reaches (hreach.trans hassign) ((h.toConfined.copyOf hcopy).assign hopened ?_)
      rw [Store.message, hmessages]
      exact h.field
  | moved name =>
    refine keeps_changeStore fun s s' h hc => ?_
    cases hb : s.field? request name with
    | none =>
      rw [hb] at hc
      cases hc
      exact h
    | some b =>
      rw [hb] at hc
      cases hc
      obtain ⟨position, -, hslot⟩ := Option.bind_eq_some_iff.1 hb
      have hnew := h.slot_le request (h.opened_le request (List.mem_cons_of_mem _ List.mem_cons_self)) b
        (List.mem_of_getElem? hslot)
      have hloose : Confined base [b] [response, request] s :=
        h.toConfined.mono (fun _ hx => absurd hx List.not_mem_nil) fun x hx => (List.mem_singleton.1 hx).symm ▸ hnew
      exact h.of_reaches (Store.reaches_assign h.sound.toSlotted response 0 (some b)) (hloose.assign hopened h.field)
  | status value =>
    refine keeps_changeStore fun s s' h hc => ?_
    cases hc
    exact h.of_reaches (Store.reaches_setStatus h.sound.toSlotted response value)
      (h.label response value (s.message response).userId)
  | failure text => exact keeps_of_store fun d => rfl

theorem keeps_applyAll (request response : MessageId) : ∀ edits : List Edit,
    Keeps (Serving base request response) (applyAll request response edits)
  | [] => keeps_of_store fun _ => rfl
  | edit :: rest => (keeps_apply request response edit).bind fun _ => keeps_applyAll request response rest

/-- **An authenticator leaves nothing outside the request and the response**, whatever it does. -/
theorem keeps_consult (auth : Authenticator) (operation : Operation) (request response : MessageId) :
    Keeps (Serving base request response) (consult auth operation request response) := fun d h => by
  rw [run_consult]
  exact keeps_applyAll request response _ (d.asked operation request response) h

/-! ## The body of a call -/

theorem keeps_setStatus (request response : MessageId) (status : Status) :
    Keeps (Serving base request response) (changeStore fun s => .ok (s.setStatus response status)) :=
  keeps_changeStore fun s s' h hc => by
    cases hc
    exact h.of_reaches (Store.reaches_setStatus h.sound.toSlotted response status)
      (h.label response status (s.message response).userId)

theorem keeps_refuse (operation : Operation) (reason : Reason) (request response : MessageId) :
    Keeps (Serving base request response) (refuse operation reason response) :=
  (keeps_of_store fun _ => rfl).bind fun _ => (keeps_setStatus request response .invalid).bind fun _ =>
    ensures_look fun _ => keeps_ofCodec _

theorem keeps_respond (operation : Operation) (userId : Nat) (request response : MessageId) :
    Keeps (Serving base request response) (respond operation userId response) := by
  refine ensures_look fun d => ?_
  dsimp only
  split
  · exact Ensures.bind (keeps_of_store fun _ => rfl) fun _ =>
      Ensures.bind (keeps_of_store fun _ => rfl) fun _ => keeps_ofCodec _
  · exact keeps_ofCodec _

theorem keeps_answer (auth : Authenticator) (operation : Operation) (data : Bytes) (request response : MessageId) :
    Keeps (Serving base request response) (answer auth operation data request response) := by
  refine ensures_look fun d => Ensures.bind (keeps_changeStore fun s s' h hc => ?_) fun _ => ensures_look fun d' => ?_
  · exact h.of_reaches (Store.reaches_deserialize h.sound hc)
      (h.deserialize (List.mem_cons_of_mem _ List.mem_cons_self) hc)
  · dsimp only
    split
    · exact Ensures.bind (keeps_of_store fun _ => rfl) fun _ => keeps_refuse operation .malformed request response
    split
    · exact Ensures.bind (keeps_of_store fun _ => rfl) fun _ => keeps_refuse operation .passwordTooLong request response
    · exact (keeps_consult auth operation request response).bind fun _ => keeps_respond operation _ request response

/-- **A result that is moved out** is in a new buffer, which no message holds. -/
theorem ensures_withdraw (operation : Operation) (userId : Int) (request response : MessageId) :
    Ensures (Serving base request response) (withdraw operation userId response)
      (fun b => Leaves base [response, request] (some b)) (Leaves base [response, request] none) := by
  refine ensures_look fun d => ?_
  split
  · exact (ensures_reject fun s h => h.leaves).bind fun _ => nofun
  · have hnote : Ensures (Serving base request response) (note Level.debug (doneText operation userId))
        (fun _ => Serving base request response) (Leaves base [response, request] none) := fun _ h => h
    refine hnote.bind fun _ => ensures_onStore (fun s h => h.leaves) fun s b s' h hc => ?_
    have hfield := h.field
    have hslot : s.slot? response 0 = some (s.message response).slots[0] := List.getElem?_eq_getElem hfield
    have hnew := h.slot_le response (h.opened_le response List.mem_cons_self) _ (List.getElem_mem hfield)
    rw [hslot, Option.getD_some] at hc
    generalize (s.message response).slots[0] = moved at hnew hc
    have htaken := h.toWithin.of_reaches (Store.reaches_take s moved) (h.take hnew)
    have hloose : (s.take moved).2.Loose s.buffers.length :=
      h.sound.loose_of_le (s.message_take moved) (Nat.le_refl _) (by
        rw [Store.length_buffers_take]
        exact Nat.lt_succ_self _)
    cases hc
    exact ⟨htaken, fun b hb => Option.some.inj hb ▸ hloose⟩

/-! ## Whole calls -/

/-- **A call's request and response are emptied**, whichever way its body ends. -/
theorem ensures_releasing {x : Call β} {out : β → Option BufferId}
    (hx : Ensures pre x (fun b => Leaves base [response, request] (out b)) (Leaves base [response, request] none)) :
    Ensures pre (releasing request response x) (fun b => Leaves base [] (out b)) (Leaves base [] none) := by
  have hreleased : ∀ {result s}, Leaves base [response, request] result s →
      Leaves base [] result ((s.releaseMessage response).releaseMessage request) := fun {result s} h => by
    have hfirst := h.toWithin.of_reaches (Store.reaches_releaseMessage _ response) h.releaseMessage
    have hloose : ∀ {s : Store} (m : MessageId) {b}, s.Loose b → (s.releaseMessage m).Loose b := fun m _ hb =>
      hb.of_messages_eq (Store.messages_releaseAll _ _) (Nat.le_of_eq (Store.length_buffers_releaseAll _ _).symm)
    exact ⟨hfirst.of_reaches (Store.reaches_releaseMessage _ request) hfirst.releaseMessage,
      fun b hb => hloose request (hloose response (h.loose b hb))⟩
  intro d hpre
  have hbody := hx d hpre
  rw [run_releasing]
  cases hr : x.run d with
  | mk r after =>
    rw [hr] at hbody
    cases r <;> exact hreleased hbody

theorem ensures_blankMessage (kind : Kind) : Ensures (Within base loose opened) (blankMessage kind)
    (fun m s => Within base loose (m :: opened) s ∧ (s.message m).slots.length = kind.fields.length) escape := fun d h => by
  rw [run_blankMessage]
  refine ⟨h.of_reaches (Store.reaches_newMessage h.sound.toSlotted kind) (h.newMessage kind), ?_⟩
  rw [Store.message_newMessage, if_pos rfl, List.length_range']

/-- A request and a fresh response are served. -/
theorem ensures_response (operation : Operation) (request : MessageId) : Ensures (Within base [] [request])
    (blankMessage operation.response) (fun response => Serving base request response) escape := fun d h => by
  have hblank : Ends _ escape _ := ensures_blankMessage operation.response d h
  obtain ⟨hwithin, hslots⟩ := hblank
  refine ⟨hwithin, ?_⟩
  rw [hslots]
  cases operation <;> decide

/-- A request that is refused has its buffers finalised. -/
theorem ensures_construct (operation : Operation) (userId : Int) (values : List BufferId) :
    Ensures (Within base values []) (construct operation.request userId values) (fun m => Within base [] [m])
      (Leaves base [] none) := by
  intro d h
  cases hc : d.store.construct operation.request Status.ok.number userId (values.map some) with
  | error e =>
    rw [run_construct_of_error d hc]
    exact ⟨h.of_reaches (Store.reaches_releaseAll values d.store) (h.releaseLoose (fun _ hb => hb) h.loose_le), nofun⟩
  | ok made =>
    obtain ⟨m, s⟩ := made
    rw [run_construct_of_ok d hc]
    exact h.of_reaches (Store.reaches_construct h.sound hc).1
      (h.construct (Nat.le_of_eq (filled_request operation)) hc)

/-- **A direct request leaves nothing but its result**, if it has one. -/
theorem ensures_submit (auth : Authenticator) (operation : Operation) (userId : Int) (values : List BufferId) :
    Ensures (Within base values []) (submit auth operation userId values) (fun b => Leaves base [] (some b))
      (Leaves base [] none) := by
  refine (ensures_construct operation userId values).bind fun request =>
    (ensures_response operation request).bind fun response => ensures_releasing ?_
  exact ((keeps_consult auth operation request response).imp (fun _ _ h => h) fun _ h => h.leaves).bind fun _ =>
    ensures_withdraw operation userId request response

theorem ensures_handled (auth : Authenticator) (operation : Operation) (data : Bytes) :
    Ensures (Within base [] []) (blankMessage operation.request >>= fun request =>
        blankMessage operation.response >>= fun response =>
          releasing request response (answer auth operation data request response))
      (fun _ => Leaves base [] none) (Leaves base [] none) :=
  ((ensures_blankMessage operation.request).imp (fun _ _ h => h.1) fun _ h => h).bind fun request =>
    (ensures_response operation request).bind fun response => ensures_releasing
      ((keeps_answer auth operation data request response).imp (fun _ _ h => h.leaves) fun _ h => h.leaves)

variable {d : Device} {auth : Authenticator} {userId : Int}

/-- A direct request whose password is too long has made nothing yet. -/
theorem settles_checked {password : Bytes} {rest : Call BufferId} (h : d.store.Sound)
    (hrest : password.length ≤ d.settings.maxPasswordLength →
      Settles d.store some (rest.run d)) :
    Settles d.store some ((checkPassword operation userId password >>= fun _ => rest).run d) := by
  have hcheck := run_checkPassword d operation userId password
  by_cases hmax : d.settings.maxPasswordLength < password.length
  · rw [if_pos hmax] at hcheck
    rw [run_bind_of_error (hcheck.trans (run_reject d operation .passwordTooLong userId))]
    exact ⟨within_refl h, nofun⟩
  · rw [if_neg hmax] at hcheck
    rw [run_bind_of_ok hcheck]
    exact hrest (Nat.le_of_not_lt hmax)

theorem ensures_copyOf (content : Bytes) (hfail : Word.largest < content.length → loose = []) :
    Ensures (Within base loose []) (onStore (·.copyOf content)) (fun b => Within base (b :: loose) [])
      (Leaves base [] none) := by
  intro d h
  cases hc : d.store.copyOf content with
  | error e =>
    rw [run_onStore_of_error d hc]
    have hlt : Word.largest < content.length := Nat.lt_of_not_le fun hle => by
      obtain ⟨s, hs, -⟩ := Store.copyOf_spec h.sound.toOwned hle
      rw [hs] at hc
      cases hc
    obtain rfl := hfail hlt
    exact ⟨h, nofun⟩
  | ok copy =>
    obtain ⟨b, s⟩ := copy
    rw [run_onStore_of_ok d hc]
    exact h.of_reaches (Store.reaches_copyOf hc).1 (h.copyOf hc)

theorem enroll_settles (h : d.store.Sound) (hopen : d.closed = false) (auth : Authenticator) (userId : Int)
    (password : Option Bytes) : Settles d.store some ((enroll auth userId password).run d) := by
  unfold enroll
  rw [run_bind_of_ok (run_ensureOpen_of_open hopen), run_bind_of_ok (run_countRequest d .enroll)]
  rcases password with _ | _ | ⟨first, others⟩
  · exact ⟨within_refl h, nofun⟩
  · exact ⟨within_refl h, nofun⟩
  · dsimp only
    generalize first :: others = password
    refine settles_checked (d := d.counted .enroll) h fun _ => ?_
    have hcopied : Ensures (Within d.store [] []) _ _ _ := ensures_copyOf password fun _ => rfl
    exact hcopied.bind (fun given => ensures_submit auth .enroll userId [given]) (d.counted .enroll) (within_refl h)

theorem verify_settles (h : d.store.Sound) (hopen : d.closed = false) (hlimit : d.settings.maxPasswordLength ≤ Word.largest)
    (auth : Authenticator) (userId : Int) (handle password : Option Bytes) :
    Settles d.store some ((verify auth userId handle password).run d) := by
  unfold verify
  rw [run_bind_of_ok (run_ensureOpen_of_open hopen), run_bind_of_ok (run_countRequest d .verify)]
  rcases handle with _ | handle
  · exact ⟨within_refl h, nofun⟩
  rcases password with _ | password
  · exact ⟨within_refl h, nofun⟩
  dsimp only
  refine settles_checked (d := d.counted .verify) h fun hmax => ?_
  have hfirst : Ensures (Within d.store [] []) _ _ _ := ensures_copyOf handle fun _ => rfl
  refine hfirst.bind (fun first => ?_) (d.counted .verify) (within_refl h)
  -- the password has passed the length check, so copying it cannot fail any more
  have hsecond : Ensures (Within d.store [first] []) _ _ _ := ensures_copyOf password fun hlt =>
    absurd (Nat.le_trans hmax hlimit) (Nat.not_le.2 hlt)
  refine hsecond.bind fun second after h => ensures_submit auth .verify userId [first, second] after ?_
  have hswap : ∀ b, b ∈ [second, first] ↔ b ∈ [first, second] := fun _ => (List.Perm.swap first second []).mem_iff
  exact ⟨h.mono (fun b => (hswap b).1) fun b hb => h.loose_le b ((hswap b).2 hb), h.sound, h.reaches⟩

theorem handle_settles (h : d.store.Sound) (hopen : d.closed = false) (auth : Authenticator) (operation : Operation)
    (data : Bytes) : Settles d.store (fun _ => none) ((handle auth operation data).run d) := by
  unfold handle
  rw [run_bind_of_ok (run_ensureOpen_of_open hopen), run_bind_of_ok (run_countRequest d operation)]
  exact ensures_handled auth operation data (d.counted operation) (within_refl h)

end Call

namespace Device

open Call (Leaves Settles)

/-- The buffer that a visit moves out to the caller, if it returns one. -/
def moved : Except DeviceError Reply → Option BufferId
  | .ok (.buffer b) => some b
  | _ => none

variable {d : Device}

theorem cleared_of_leaves (h : d.store.Sound) {result : Option BufferId} {s : Store}
    (hleaves : Leaves d.store [] result s) : d.store.Cleared result s :=
  hleaves.cleared h hleaves.reaches hleaves.loose

theorem cleared_of_settles {β : Type} (h : d.store.Sound) {result : β → Option BufferId}
    {outcome : Except DeviceError β × Device} (hsettles : Settles d.store result outcome) (reply : β → Reply)
    (hreply : ∀ b, moved (.ok (reply b)) = result b) :
    d.store.Cleared (moved (outcome.1.map reply)) outcome.2.store := by
  obtain ⟨r, after⟩ := outcome
  cases r with
  | error e => exact cleared_of_leaves h hsettles
  | ok b =>
    show d.store.Cleared (moved (.ok (reply b))) after.store
    rw [hreply]
    exact cleared_of_leaves h hsettles

/-- **Whichever way a call ends, what it has made is wiped.**  On a device with settings that were made, whatever it was
asked for before, whatever it is asked for now and whatever its authenticator does: once the call has ended, the fields of
its request and its response are empty, and all storage that came up in it is zeroed, but for the block of the buffer
that a direct call returns.  Whatever the request or the response owned at any time came up in the call; what was in the
store before is as it was. -/
theorem visit_wipes (debugLogging metricsEnabled : Bool) (maxFieldLength maxPasswordLength : Int) (settings : Settings)
    (d : Device) (auth : Authenticator) (v : Visit)
    (hsettings : Settings.make debugLogging maxFieldLength maxPasswordLength metricsEnabled = .ok settings)
    (hreached : d.Reached settings) : d.store.Cleared (moved (d.visit auth v).1) (d.visit auth v).2.store := by
  have hbounded := Settings.bounded_of_make hsettings
  obtain ⟨h, rfl⟩ := hreached.keeps
  have hunchanged : d.store.Cleared none d.store := cleared_of_leaves h ⟨Call.within_refl h, nofun⟩
  by_cases hv : v = .close
  · have hstore : (d.visit auth v).2.store = d.store := by
      rw [hv, visit_close]
      cases d.closed <;> rfl
    rw [hstore, hv, visit_close]
    exact hunchanged
  cases hc : d.closed with
  | true =>
    rw [visit_refused hc auth hv]
    exact hunchanged
  | false =>
    cases v with
    | enroll userId password =>
      rw [visit_enroll]
      exact cleared_of_settles h (Call.enroll_settles h hc auth userId password) .buffer fun _ => rfl
    | verify userId handle password =>
      have hlimit := Nat.le_trans hbounded.password_le hbounded.field_le
      rw [visit_verify]
      exact cleared_of_settles h (Call.verify_settles h hc hlimit auth userId handle password) .buffer fun _ => rfl
    | message operation data =>
      rw [visit_message]
      exact cleared_of_settles h (Call.handle_settles h hc auth operation data) .message fun _ => rfl
    | close => exact absurd rfl hv

/-- The response is filled twice before the request is turned down, and the second time by moving the password. -/
theorem visit_wipes_turned_down :
    (make { maxFieldLength := 16, maxPasswordLength := 8 } none).store.Cleared
      (moved ((make { maxFieldLength := 16, maxPasswordLength := 8 } none).visit
        (.scripted [.field [5, 5], .moved passwordField, .status .invalid]) (.enroll 7 (some [1, 2]))).1)
      ((make { maxFieldLength := 16, maxPasswordLength := 8 } none).visit
        (.scripted [.field [5, 5], .moved passwordField, .status .invalid]) (.enroll 7 (some [1, 2]))).2.store :=
  visit_wipes false false 16 8 { maxFieldLength := 16, maxPasswordLength := 8 } _
    (.scripted [.field [5, 5], .moved passwordField, .status .invalid]) (.enroll 7 (some [1, 2])) rfl ⟨none, [], rfl⟩

end Device
end PasswordGate

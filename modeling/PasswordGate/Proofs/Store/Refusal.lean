import PasswordGate.Proofs.Store.Confinement
import PasswordGate.Proofs.Store.Workspace
/-!
# Refusal — a step that is refused leaves everything as it was

The changes of a step are made one after the other and are not taken back, so this rests on the order in which a step does
things: up to its last check a step does nothing but look things up and make copies of operands, in buffers of their own
(`Adds`), and behind that check nothing is refused (`Total`).  Such a row of acts is `Atomic`, and every step is one
(`atomic_perform`).  The copies are all that a refused step may leave, and collecting finalises them.
-/
namespace PasswordGate
namespace Workspace

variable {w after later : Workspace}

/-- **A workspace to which at most buffers were added**: the names, the messages and the buffers that there were are the
same. -/
structure Spared (w after : Workspace) : Prop where
  buffers : after.buffers = w.buffers
  messages : after.messages = w.messages
  views : after.views = w.views
  blobs : after.blobs = w.blobs
  said : after.store.messages = w.store.messages
  buffers_le : w.store.buffers.length ≤ after.store.buffers.length
  buffer : ∀ b, b < w.store.buffers.length → after.store.buffer b = w.store.buffer b

/-- **What a refused step leaves**: names, messages, buffers and storage as they were; of what it made itself, every buffer
is empty and all storage is zeros. -/
structure Undisturbed (w after : Workspace) : Prop where
  buffers : after.buffers = w.buffers
  messages : after.messages = w.messages
  views : after.views = w.views
  blobs : after.blobs = w.blobs
  said : ∀ m, after.store.message m = w.store.message m ∧ after.store.envelope m = w.store.envelope m
  buffer : ∀ b, after.store.buffer b = w.store.buffer b ∧ after.store.contents b = w.store.contents b
  block : ∀ i, i < w.store.blocks.length → after.store.block i = w.store.block i
  spare : ∀ i, w.store.blocks.length ≤ i → ∀ x ∈ after.store.block i, x = 0

namespace Spared

theorem refl (w : Workspace) : w.Spared w := ⟨rfl, rfl, rfl, rfl, rfl, Nat.le_refl _, fun _ _ => rfl⟩

theorem trans (h : w.Spared after) (h' : after.Spared later) : w.Spared later where
  buffers := h'.buffers.trans h.buffers
  messages := h'.messages.trans h.messages
  views := h'.views.trans h.views
  blobs := h'.blobs.trans h.blobs
  said := h'.said.trans h.said
  buffers_le := Nat.le_trans h.buffers_le h'.buffers_le
  buffer b hb := (h'.buffer b (Nat.lt_of_lt_of_le hb h.buffers_le)).trans (h.buffer b hb)

theorem message_eq (h : w.Spared after) (m : MessageId) : after.store.message m = w.store.message m := by
  rw [Store.message, h.said, Store.message]

theorem resolve_eq (h : w.Spared after) (ref : Ref) : after.resolve ref = w.resolve ref := by
  cases ref with
  | buffer name => simp only [resolve, h.buffers]
  | field owner name => simp only [resolve, message, Store.field?, Store.slot?, h.messages, h.message_eq]

theorem reachable_eq (h : w.Spared after) : after.reachable = w.reachable := by
  simp only [reachable, h.buffers, h.messages, h.message_eq]

end Spared

theorem Sound.lt_of_reachable (h : w.Sound) {b : BufferId} (hb : b ∈ w.reachable) : b < w.store.buffers.length := by
  rcases List.mem_append.1 hb with hnamed | hslot
  · obtain ⟨entry, hentry, rfl⟩ := List.mem_map.1 hnamed
    exact h.buffer_lt entry hentry
  · obtain ⟨entry, -, hmem⟩ := List.mem_flatMap.1 hslot
    exact h.store.slot_lt entry.2 b hmem

theorem buffer_collect_of_reachable {b : BufferId} (hb : b ∈ w.reachable) :
    w.collect.store.buffer b = w.store.buffer b := by
  refine (Store.buffer_releaseAll b _ w.store).trans (if_neg fun hlost => ?_)
  have hgone := (List.mem_filter.1 hlost).2
  simp [hb] at hgone

/-- **Collecting what a spared workspace has more than before** leaves it as it was before. -/
theorem Spared.undisturbed (h : w.Spared after) (hsound : w.Sound) (htidy : ∀ b, b ∉ w.reachable → w.store.buffer b = {})
    (hreach : Store.Reaches w.store after.store) : w.Undisturbed after.collect := by
  have hsaid : after.collect.store.messages = w.store.messages :=
    (Store.messages_releaseAll _ _).trans h.said
  have hmessage : ∀ m, after.collect.store.message m = w.store.message m := fun m => by
    rw [Store.message, hsaid, Store.message]
  have hbuffer : ∀ b, after.collect.store.buffer b = w.store.buffer b := fun b => by
    by_cases hb : b ∈ w.reachable
    · rw [buffer_collect_of_reachable (h.reachable_eq ▸ hb), h.buffer b (hsound.lt_of_reachable hb)]
    · rw [buffer_collect after (by rw [reachable_collect, h.reachable_eq]; exact hb), htidy b hb]
  have hcollected := hreach.trans (reaches_collect after)
  have hgrows := Store.Reaches.grows hcollected hsound.store
  -- no buffer that came since holds anything, so what they owned has been zeroed, and nothing else was
  have hconfined : w.store.Confined [] [] after.collect.store := {
    buffers_le := hgrows.buffers_le
    messages_le := hgrows.messages_le
    old := fun b _ => hbuffer b
    slot_le := fun m hm b hb => by
      rw [hmessage, w.store.message_of_length_le hm] at hb
      cases hb
    loose_le := fun b hb => absurd hb List.not_mem_nil
    opened_le := fun m hm => absurd hm List.not_mem_nil
    held := fun b hb hne => absurd ((hbuffer b).trans (w.store.buffer_of_length_le hb)) hne }
  have hcleared : w.store.Cleared none after.collect.store :=
    hconfined.cleared hsound.store hcollected fun b hb => absurd hb (Option.not_mem_none b)
  have hcontents : ∀ b, after.collect.store.contents b = w.store.contents b := fun b =>
    Store.contents_of_buffer_eq (congrArg Buffer.block (hbuffer b)) fun i hi =>
      (hcleared.before i (hsound.store.toOwned.lt_of_owns hi)).1
  exact {
    buffers := h.buffers
    messages := h.messages
    views := h.views
    blobs := h.blobs
    said := fun m => ⟨hmessage m, Store.envelope_of_eq (hmessage m) fun b _ => hcontents b⟩
    buffer := fun b => ⟨hbuffer b, hcontents b⟩
    block := fun i hi => (hcleared.before i hi).1
    spare := fun i hi => (hcleared.storage i hi).resolve_right fun h => h.elim fun b hb => absurd hb.1 (Option.not_mem_none b) }

end Workspace

namespace Act

open Workspace (Spared)

variable {α β : Type} {w after : Workspace}

/-! ## Looking up and copying, and what may stand behind the last check -/

/-- An act that at most adds buffers, refused or not. -/
def Adds (act : Act α) : Prop := ∀ w : Workspace, w.Spared (act.run w).2

/-- An act that is never refused. -/
def Total (act : Act α) : Prop := ∀ w e, (act.run w).1 ≠ .error e

/-- **An act that at most adds buffers if it is refused.** -/
def Atomic (act : Act α) : Prop := ∀ w e, (act.run w).1 = .error e → w.Spared (act.run w).2

theorem Adds.bind {x : Act α} {f : α → Act β} (hx : Adds x) (hf : ∀ a, Adds (f a)) : Adds (x >>= f) := by
  intro w
  have hspared := hx w
  rw [Running.run_bind]
  cases hr : x.run w with
  | mk r after =>
    rw [hr] at hspared
    cases r with
    | error e => exact hspared
    | ok a => exact hspared.trans (hf a after)

theorem Total.bind {x : Act α} {f : α → Act β} (hx : Total x) (hf : ∀ a, Total (f a)) : Total (x >>= f) := by
  intro w e
  have hnot := hx w
  rw [Running.run_bind]
  cases hr : x.run w with
  | mk r after =>
    rw [hr] at hnot
    cases r with
    | error e' => exact absurd rfl (hnot e')
    | ok a => exact hf a after e

theorem Adds.atomic {x : Act α} (h : Adds x) : Atomic x := fun w _ _ => h w

theorem Total.atomic {x : Act α} (h : Total x) : Atomic x := fun w e he => absurd he (h w e)

/-- **Before the last check, nothing but additions.** -/
theorem Adds.bind_atomic {x : Act α} {f : α → Act β} (hx : Adds x) (hf : ∀ a, Atomic (f a)) : Atomic (x >>= f) := by
  intro w e he
  have hspared := hx w
  rw [Running.run_bind] at he ⊢
  cases hr : x.run w with
  | mk r after =>
    rw [hr] at hspared he
    cases r with
    | error e' => exact hspared
    | ok a => exact hspared.trans (hf a after e he)

/-- **Behind the last check, nothing that is refused.** -/
theorem Atomic.bind_total {x : Act α} {f : α → Act β} (hx : Atomic x) (hf : ∀ a, Total (f a)) : Atomic (x >>= f) := by
  intro w e he
  have hspared := hx w
  rw [Running.run_bind] at he ⊢
  cases hr : x.run w with
  | mk r after =>
    rw [hr] at hspared he
    cases r with
    | error e' => exact hspared e' rfl
    | ok a => exact absurd he (hf a after e)

theorem adds_pure (a : α) : Adds (pure a) := Spared.refl

theorem adds_throw (e : StepError) : Adds (throw e : Act α) := Spared.refl

theorem adds_find (look : Workspace → Except StepError α) : Adds (find look) := fun w => by
  rw [run_find]
  exact .refl w

theorem adds_get : Adds (get : Act Workspace) := Spared.refl

theorem adds_ofCodec (result : Except CodecError α) : Adds (ofCodec result) := by
  cases result with
  | ok a => exact adds_pure a
  | error e => exact adds_throw _

theorem total_pure (a : α) : Total (pure a) := nofun

theorem total_get : Total (get : Act Workspace) := nofun

theorem total_modify (f : Workspace → Workspace) : Total (modify f : Act Unit) := nofun

theorem total_make (f : Store → α × Store) : Total (onStore fun s => .ok (f s)) := fun w e => by
  rw [run_make]
  nofun

theorem total_changeStore (f : Store → Store) : Total (changeStore fun s => .ok (f s)) := fun w e => by
  rw [run_changeStore]
  nofun

theorem atomic_onStore (change : Store → Except CodecError (α × Store)) : Atomic (onStore change) := by
  intro w e he
  cases hc : change w.store with
  | error cause =>
    rw [run_onStore_of_error hc]
    exact .refl w
  | ok result =>
    rw [run_onStore_of_ok hc] at he
    cases he

theorem atomic_changeStore (change : Store → Except CodecError Store) : Atomic (changeStore change) := atomic_onStore _

/-! ## Every step -/

theorem adds_copyOf (data : Bytes) : Adds (copyOf data) := by
  intro w
  rw [copyOf_eq]
  cases hc : w.store.copyOf data with
  | error e =>
    rw [run_onStore_of_error hc]
    exact .refl w
  | ok copy =>
    obtain ⟨b, s⟩ := copy
    rw [run_onStore_of_ok hc]
    obtain ⟨rfl, hlen, hsaid, hbuffer⟩ := Store.copyOf_buffers hc
    exact ⟨rfl, rfl, rfl, rfl, hsaid, hlen ▸ Nat.le_succ _, fun b hb => hbuffer b (Nat.ne_of_lt hb)⟩

theorem adds_operand (value : Operand) : Adds (operand value) := by
  cases value with
  | nothing => exact adds_pure none
  | ref source => exact (adds_find _).bind fun b => adds_pure (some b)
  | data content => exact (adds_copyOf content).bind fun b => adds_pure (some b)

theorem adds_operands : ∀ values : List Operand, Adds (operands values)
  | [] => adds_pure []
  | first :: rest => (adds_operand first).bind fun b => (adds_operands rest).bind fun bs => adds_pure (b :: bs)

theorem adds_payload (source : Payload) : Adds (payload source) := by
  cases source with
  | data content => exact adds_pure content
  | blob name => exact adds_find _

theorem adds_comparand (other : Comparand) : Adds (comparand other) := by
  cases other with
  | ref other => exact (adds_find _).bind fun b => adds_get.bind fun w => adds_pure _
  | data content => exact adds_pure _
  | foreign => exact adds_pure none

theorem total_nameBuffer (name : String) (b : BufferId) : Total (nameBuffer name b) := total_modify _

theorem total_releaseSubject (target : MessageId ⊕ BufferId) : Total (releaseSubject target) := by
  cases target with
  | inl m => exact total_changeStore (·.releaseMessage m)
  | inr b => exact total_changeStore (·.release b)

/-- **Every step that is refused has at most added buffers.** -/
theorem atomic_perform (step : Step) : Atomic (perform step) := by
  cases step with
  | allocate name length =>
    have hatomic : Atomic (allocate length) := allocate_eq length ▸ atomic_onStore _
    exact hatomic.bind_total fun b => (total_nameBuffer name b).bind fun _ => total_pure _
  | copyOf name content =>
    exact (adds_copyOf content).atomic.bind_total fun b => (total_nameBuffer name b).bind fun _ => total_pure _
  | take source name =>
    exact (adds_find _).bind_atomic fun b => Total.atomic <| (total_make (·.take b)).bind fun taken =>
      (total_nameBuffer name taken).bind fun _ => total_pure _
  | moveFrom target source =>
    exact (adds_find _).bind_atomic fun b => (adds_find _).bind_atomic fun other => Total.atomic <|
      (total_changeStore (·.moveFrom b other)).bind fun _ => total_pure _
  | bind name target =>
    exact (adds_find _).bind_atomic fun b => Total.atomic <| (total_nameBuffer name b).bind fun _ => total_pure _
  | drop name => exact Total.atomic <| (total_modify _).bind fun _ => total_pure _
  | view target name =>
    exact (adds_find _).bind_atomic fun b => Total.atomic <| (total_modify _).bind fun _ => total_get.bind fun _ =>
      total_pure _
  | release target =>
    exact (adds_find _).bind_atomic fun found => Total.atomic <| (total_releaseSubject found).bind fun _ => total_pure _
  | scope target failure =>
    exact (adds_find _).bind_atomic fun found => Total.atomic <| (total_releaseSubject found).bind fun _ => total_pure _
  | equal target other =>
    exact Adds.atomic <| (adds_find _).bind fun b => (adds_comparand other).bind fun held => adds_get.bind fun _ =>
      adds_pure _
  | length target => exact Adds.atomic <| (adds_find _).bind fun b => adds_get.bind fun _ => adds_pure _
  | fieldSize target => exact Adds.atomic <| (adds_find _).bind fun b => adds_get.bind fun _ => adds_pure _
  | duplicate target => exact Adds.atomic <| (adds_find _).bind fun b => adds_throw _
  | archive target => exact Adds.atomic <| (adds_find _).bind fun b => adds_throw _
  | hash target => exact Adds.atomic <| (adds_find _).bind fun b => adds_throw _
  | describe target =>
    refine Adds.atomic <| (adds_find _).bind fun found => ?_
    cases found with
    | inl m => exact adds_get.bind fun _ => adds_pure _
    | inr b => exact adds_get.bind fun _ => adds_pure _
  | construct name kind status userId values =>
    have hatomic : ∀ buffers, Atomic (construct kind status userId buffers) := fun buffers =>
      construct_eq kind status userId buffers ▸ atomic_onStore _
    exact (adds_operands values).bind_atomic fun buffers => (hatomic buffers).bind_total fun m =>
      (total_modify _).bind fun _ => total_pure _
  | setUserId name userId =>
    have hatomic : ∀ m, Atomic (setUserId m userId) := fun m => setUserId_eq m userId ▸ atomic_changeStore _
    exact (adds_find _).bind_atomic fun m => (hatomic m).bind_total fun _ => total_pure _
  | setStatus name status =>
    exact (adds_find _).bind_atomic fun m => (adds_ofCodec _).bind_atomic fun verdict => Total.atomic <|
      (total_changeStore (·.setStatus m verdict)).bind fun _ => total_pure _
  | setField name field value bySetter =>
    refine (adds_find _).bind_atomic fun m => (adds_operand value).bind_atomic fun b => adds_get.bind_atomic fun w => ?_
    dsimp only
    split
    · exact (adds_throw _).atomic
    split
    · exact (adds_throw _).atomic
    · rename_i position _
      exact Total.atomic <| (total_changeStore (·.assign m position b)).bind fun _ => total_pure _
  | size name => exact Adds.atomic <| (adds_find _).bind fun m => adds_get.bind fun _ => adds_pure _
  | serialize name blob =>
    refine (adds_find _).bind_atomic fun m => adds_get.bind_atomic fun w => (adds_ofCodec _).bind_atomic fun wire =>
      Total.atomic ?_
    cases blob with
    | none => exact total_pure _
    | some blob => exact (total_modify _).bind fun _ => total_pure _
  | fieldNames name => exact Adds.atomic <| (adds_find _).bind fun m => adds_get.bind fun _ => adds_pure _
  | deserialize name source stop limit =>
    have hatomic : ∀ m data, Atomic (deserialize m data stop limit) := fun m data =>
      deserialize_eq m data stop limit ▸ atomic_changeStore _
    exact (adds_find _).bind_atomic fun m => (adds_payload source).bind_atomic fun data =>
      (hatomic m data).bind_total fun _ => total_get.bind fun _ => total_pure _

end Act

namespace Workspace

variable {w after : Workspace}

/-! ## Arguments that are refused -/

/-- A value that can be handed over: nothing, a buffer that there is, or data that a buffer can hold. -/
def Offers (w : Workspace) : Operand → Prop
  | .nothing => True
  | .ref source => ∃ b, w.resolve source = .ok b
  | .data content => content.length ≤ Word.largest

/-- The data that a payload stands for. -/
def Provides (w : Workspace) (data : Bytes) : Payload → Prop
  | .data content => content = data
  | .blob name => w.blobs.lookup name = some data

/-- **A bad argument**, and what is said about it: a length, a user id or an end outside its range, or the number of no
status. -/
inductive BadArgument (w : Workspace) : Step → CodecError → Prop
  | allocated {name : String} {length : Int} (h : length < 0 ∨ Word.largest < length) :
    BadArgument w (.allocate name length) (.lengthOutOfRange length)
  | copied {name : String} {content : Bytes} (h : Word.largest < content.length) :
    BadArgument w (.copyOf name content) (.lengthOutOfRange content.length)
  | status {name : String} {kind : Kind} {number userId : Int} {values : List Operand}
    (hvalues : ∀ value ∈ values, w.Offers value) (h : ∀ status : Status, number ≠ status.number) :
    BadArgument w (.construct name kind number userId values) (.unknownStatus number)
  | userId {name : String} {kind : Kind} {status : Status} {userId : Int} {values : List Operand}
    (hvalues : ∀ value ∈ values, w.Offers value) (hcount : values.length ≤ kind.filled)
    (h : userId < 0 ∨ Word.largest < userId) :
    BadArgument w (.construct name kind status.number userId values) (.userIdOutOfRange userId)
  | assigned {name : String} {m : MessageId} {userId : Int} (hname : w.message name = .ok m)
    (h : userId < 0 ∨ Word.largest < userId) : BadArgument w (.setUserId name userId) (.userIdOutOfRange userId)
  | window {name : String} {m : MessageId} {source : Payload} {data : Bytes} {stop limit : Int}
    (hname : w.message name = .ok m) (hsource : w.Provides data source) (h : stop < 0 ∨ data.length < stop) :
    BadArgument w (.deserialize name source (some stop) limit) (.endOutside stop data.length)

theorem Spared.offers (h : w.Spared after) {value : Operand} (hvalue : w.Offers value) : after.Offers value := by
  cases value with
  | nothing => trivial
  | ref source =>
    obtain ⟨b, hb⟩ := hvalue
    exact ⟨b, (h.resolve_eq source).trans hb⟩
  | data content => exact hvalue

theorem exists_run_operand {value : Operand} (h : w.Offers value) :
    ∃ b after, (Act.operand value).run w = (.ok b, after) := by
  cases value with
  | nothing => exact ⟨none, w, rfl⟩
  | ref source =>
    obtain ⟨b, hb⟩ := h
    exact ⟨some b, w, Running.run_bind_of_ok (by rw [Act.run_find, hb])⟩
  | data content =>
    obtain ⟨b, s, hs⟩ := w.store.exists_copyOf h
    have hcopy : (Act.copyOf content).run w = (.ok b, { w with store := s }) := by
      rw [Act.copyOf_eq]
      exact Act.run_onStore_of_ok hs
    exact ⟨some b, { w with store := s }, Running.run_bind_of_ok hcopy⟩

/-- Values that can be handed over are, each of them. -/
theorem exists_run_operands : ∀ (values : List Operand) {w : Workspace}, (∀ value ∈ values, w.Offers value) →
    ∃ buffers after, (Act.operands values).run w = (.ok buffers, after) ∧ buffers.length = values.length
  | [], w, _ => ⟨[], w, rfl, rfl⟩
  | first :: rest, w, h => by
    obtain ⟨hfirst, hrest⟩ := List.forall_mem_cons.1 h
    obtain ⟨b, offered, hrun⟩ := exists_run_operand hfirst
    have hspared : w.Spared offered := by
      have hadds := Act.adds_operand first w
      rwa [hrun] at hadds
    obtain ⟨buffers, after, hruns, hlength⟩ := exists_run_operands rest fun value hv => hspared.offers (hrest value hv)
    refine ⟨b :: buffers, after, ?_, congrArg Nat.succ hlength⟩
    rw [Act.operands, Running.run_bind_of_ok hrun, Running.run_bind_of_ok hruns]
    rfl

theorem run_payload {data : Bytes} {source : Payload} (h : w.Provides data source) :
    (Act.payload source).run w = (.ok data, w) := by
  cases source with
  | data content =>
    cases h
    rfl
  | blob name =>
    have hlookup : w.blobs.lookup name = some data := h
    rw [Act.payload, Act.run_find, hlookup]

theorem checkUserId_of_not {userId : Int} (h : userId < 0 ∨ Word.largest < userId) :
    Store.checkUserId userId = .error (.userIdOutOfRange userId) := if_neg (by omega)

/-- A construction that is refused for its arguments, whatever the buffers. -/
theorem run_construct_of_error {name : String} {kind : Kind} {status userId : Int} {values : List Operand}
    {cause : CodecError} (hvalues : ∀ value ∈ values, w.Offers value)
    (h : ∀ (s : Store) (buffers : List (Option BufferId)), buffers.length = values.length →
      s.construct kind status userId buffers = .error cause) :
    ((Act.perform (.construct name kind status userId values)).run w).1 = .error (.codec cause) := by
  obtain ⟨buffers, offered, hrun, hlength⟩ := exists_run_operands values hvalues
  have hconstruct : (Act.construct kind status userId buffers).run offered = (.error (.codec cause), offered) := by
    rw [Act.construct_eq]
    exact Act.run_onStore_of_error (h offered.store buffers hlength)
  show ((Act.operands values >>= fun _ => _ : Act Answer).run w).1 = _
  rw [Running.run_bind_of_ok hrun, Running.run_bind_of_error hconstruct]

/-- **A step with a bad argument is refused**, for that argument. -/
theorem BadArgument.refused {step : Step} {cause : CodecError} (h : w.BadArgument step cause) :
    ((Act.perform step).run w).1 = .error (.codec cause) := by
  cases h with
  | @allocated name length h =>
    have hs : w.store.allocate length = .error (.lengthOutOfRange length) := if_neg (by omega)
    have hrun : (Act.allocate length).run w = (.error (.codec (.lengthOutOfRange length)), w) := by
      rw [Act.allocate_eq]
      exact Act.run_onStore_of_error hs
    exact congrArg Prod.fst (Running.run_bind_of_error hrun)
  | @copied name content h =>
    have hrun : (Act.copyOf content).run w = (.error (.codec (.lengthOutOfRange content.length)), w) := by
      rw [Act.copyOf_eq]
      exact Act.run_onStore_of_error (w.store.copyOf_of_gt h)
    exact congrArg Prod.fst (Running.run_bind_of_error hrun)
  | @status name kind number userId values hvalues h =>
    have hstatus : Status.ofNumber number = .error (.unknownStatus number) :=
      (if_neg (h .ok)).trans (if_neg (h .invalid))
    refine run_construct_of_error hvalues fun s buffers _ => ?_
    rw [Store.construct, hstatus]
    rfl
  | @userId name kind status userId values hvalues hcount h =>
    refine run_construct_of_error hvalues fun s buffers hlength => ?_
    rw [Store.construct, Status.ofNumber_number, checkUserId_of_not h]
    simp only [bind, Except.bind]
    rw [if_neg (by omega)]
  | @assigned name m userId hname h =>
    have hs : w.store.setUserId m userId = .error (.userIdOutOfRange userId) := by
      rw [Store.setUserId, checkUserId_of_not h]
      rfl
    have hrun : (Act.setUserId m userId).run w = (.error (.codec (.userIdOutOfRange userId)), w) := by
      rw [Act.setUserId_eq]
      exact Act.run_changeStore_of_error hs
    show ((Act.find (·.message name) >>= fun m => _ : Act Answer).run w).1 = _
    rw [Running.run_bind_of_ok (by rw [Act.run_find, hname]), Running.run_bind_of_error hrun]
  | @window name m source data stop limit hname hsource h =>
    have hs : w.store.deserialize m data (some stop) limit = .error (.endOutside stop data.length) := by
      have hwindow : Envelope.window data (some stop) = .error (.endOutside stop data.length) := if_neg (by omega)
      rw [Store.deserialize, hwindow]
      rfl
    have hrun : (Act.deserialize m data (some stop) limit).run w = (.error (.codec (.endOutside stop data.length)), w) := by
      rw [Act.deserialize_eq]
      exact Act.run_changeStore_of_error hs
    show ((Act.find (·.message name) >>= fun m => _ : Act Answer).run w).1 = _
    rw [Running.run_bind_of_ok (by rw [Act.run_find, hname]), Running.run_bind_of_ok (run_payload hsource),
      Running.run_bind_of_error hrun]

/-- A step ends in the error of its act, or in the one by which its scope was left. -/
theorem outcome_error_iff {step : Step} {e : StepError} (hscope : ∀ text, e ≠ .failed text) :
    (w.outcome step).1 = .error e ↔ ((Act.perform step).run w).1 = .error e := by
  unfold outcome
  split
  · rename_i heq
    rw [heq]
    constructor
    · intro he
      exact absurd (Except.error.inj he).symm (hscope _)
    · nofun
  · rfl

/-- **Refused steps are atomic.**  After any run of steps, a step with a bad argument is refused: a length outside 32 bits,
a construction of any kind of message with an unknown status or a user id outside 32 bits, such a user id assigned to a
message, and an end outside the data that are decoded.  And whatever a step is refused for, every buffer, message, name
and block of storage is as it was before: no buffer has been moved or wiped, and nothing is left of what the step had
made.  (A scope that its caller leaves by an error has been asked to release.) -/
theorem refused_undisturbed (steps : List Step) (step : Step) :
    let w := Workspace.runs {} steps
    (∀ cause, w.BadArgument step cause → (w.run step).1 = .error (.codec cause)) ∧
    ∀ e, (∀ text, e ≠ .failed text) → (w.run step).1 = .error e → w.Undisturbed (w.run step).2 := by
  intro w
  have h : w.Sound := sound_runs steps sound_empty
  have htidy : ∀ b, b ∉ w.reachable → w.store.buffer b = {} := buffer_runs steps fun _ _ => rfl
  refine ⟨fun cause hbad => (outcome_error_iff fun _ => StepError.noConfusion).2 hbad.refused, fun e hscope he => ?_⟩
  have hspared : w.Spared (w.outcome step).2 := by
    rw [outcome_snd]
    exact Act.atomic_perform step w e ((outcome_error_iff hscope).1 he)
  exact hspared.undisturbed h htidy (reaches_outcome h step).2

/-- A construction from a buffer and from data, whose user id does not fit. -/
theorem refused_undisturbed_verifyRequest :
    ((Workspace.runs {} [.copyOf "p" [1, 2]]).run
      (.construct "m" .verifyRequest 0 4294967296 [.ref (.buffer "p"), .data [3]])).1 =
        .error (.codec (.userIdOutOfRange 4294967296)) ∧
    (Workspace.runs {} [.copyOf "p" [1, 2]]).Undisturbed ((Workspace.runs {} [.copyOf "p" [1, 2]]).run
      (.construct "m" .verifyRequest 0 4294967296 [.ref (.buffer "p"), .data [3]])).2 := by
  obtain ⟨hrefused, hundisturbed⟩ := refused_undisturbed [.copyOf "p" [1, 2]]
    (.construct "m" .verifyRequest 0 4294967296 [.ref (.buffer "p"), .data [3]])
  have hbad : (Workspace.runs {} [.copyOf "p" [1, 2]]).BadArgument
      (.construct "m" .verifyRequest 0 4294967296 [.ref (.buffer "p"), .data [3]]) (.userIdOutOfRange 4294967296) := by
    refine @BadArgument.userId _ "m" _ .ok 4294967296 _ (fun value hvalue => ?_) (by decide) (.inr (by decide))
    rcases List.mem_cons.1 hvalue with rfl | hvalue
    · exact ⟨0, rfl⟩
    · obtain rfl := List.mem_singleton.1 hvalue
      show ([3] : Bytes).length ≤ Word.largest
      decide
  exact ⟨hrefused _ hbad, hundisturbed _ (fun _ => StepError.noConfusion) (hrefused _ hbad)⟩

end Workspace
end PasswordGate

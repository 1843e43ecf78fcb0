import PasswordGate.Proofs.Store.Acts
import PasswordGate.Proofs.Store.Decoding
/-!
# Workspace laws — every step is a row of single changes, and what it makes unreachable is finalised

An act `Leads` from one condition to another when, from a workspace in order, it changes the store by ticks, leaves the
workspace in order, refused or not, and gives a value with the second condition.  Every step leads (`keeps_perform`), and
collecting only releases; so every run of steps keeps the workspace in order (`sound_runs`).
-/
namespace PasswordGate

open Store (Reaches)

namespace Workspace

/-- **A workspace in order**: its store is, and its names stand for buffers and messages that were given out. -/
structure Sound (w : Workspace) : Prop where
  store : w.store.Sound
  buffer_lt : ∀ entry ∈ w.buffers, entry.2 < w.store.buffers.length
  message_lt : ∀ entry ∈ w.messages, entry.2 < w.store.messages.length

variable {w : Workspace}

theorem Sound.of_reaches (h : w.Sound) {s : Store} (r : Reaches w.store s) :
    ({ w with store := s } : Workspace).Sound where
  store := Store.Reaches.sound r h.store
  buffer_lt entry he := Nat.lt_of_lt_of_le (h.buffer_lt entry he) (Store.Reaches.grows r h.store).buffers_le
  message_lt entry he := Nat.lt_of_lt_of_le (h.message_lt entry he) (Store.Reaches.grows r h.store).messages_le

theorem mem_of_lookup {α : Type} {name : String} {a : α} : ∀ {names : List (String × α)},
    names.lookup name = some a → (name, a) ∈ names
  | [], h => by cases h
  | (other, b) :: rest, h => by
    rw [List.lookup_cons] at h
    split at h
    · rename_i heq
      cases h
      rw [beq_iff_eq] at heq
      rw [heq]
      exact List.mem_cons_self
    · exact List.mem_cons_of_mem _ (mem_of_lookup h)

theorem mem_rebind {α : Type} {names : List (String × α)} {name : String} {a : α} {entry : String × α}
    (h : entry ∈ rebind names name a) : entry = (name, a) ∨ entry ∈ names := by
  rcases List.mem_cons.1 h with rfl | h
  · exact .inl rfl
  · exact .inr (List.mem_filter.1 h).1

/-- What a reference stands for was given out. -/
theorem Sound.resolve_lt (h : w.Sound) {ref : Ref} {b : BufferId} (hb : w.resolve ref = .ok b) :
    b < w.store.buffers.length := by
  cases ref with
  | buffer name =>
    simp only [resolve] at hb
    split at hb
    · rename_i hl
      cases hb
      exact h.buffer_lt _ (mem_of_lookup hl)
    · cases hb
  | field owner name =>
    simp only [resolve, bind, Except.bind] at hb
    split at hb
    · cases hb
    rename_i m hm
    split at hb
    · rename_i hf
      cases hb
      obtain ⟨position, -, hslot⟩ := Option.bind_eq_some_iff.1 hf
      exact h.store.slot_lt m b (List.mem_of_getElem? hslot)
    · cases hb

end Workspace

namespace Act

variable {α β : Type}

/-- **From a workspace in order, an act changes the store by ticks and keeps the order**, refused or not; if `pre` held
before, a value that it gives has `post`. -/
def Leads (pre : Workspace → Prop) (act : Act α) (post : α → Workspace → Prop) : Prop :=
  ∀ w, w.Sound → pre w → (act.run w).2.Sound ∧ Reaches w.store (act.run w).2.store ∧
    ∀ a, (act.run w).1 = .ok a → post a (act.run w).2

variable {pre : Workspace → Prop} {mid : α → Workspace → Prop} {post : β → Workspace → Prop}

theorem Leads.bind {x : Act α} {f : α → Act β} (hx : Leads pre x mid) (hf : ∀ a, Leads (mid a) (f a) post) :
    Leads pre (x >>= f) post := by
  intro w hw hpre
  obtain ⟨hsound, hreach, hmid⟩ := hx w hw hpre
  rw [Running.run_bind]
  cases hr : x.run w with
  | mk r after =>
    rw [hr] at hsound hreach hmid
    cases r with
    | error e => exact ⟨hsound, hreach, fun a ha => by cases ha⟩
    | ok a =>
      obtain ⟨hsound', hreach', hpost⟩ := hf a after hsound (hmid a rfl)
      exact ⟨hsound', hreach.trans hreach', hpost⟩

theorem leads_pure {a : β} (h : ∀ w, w.Sound → pre w → post a w) : Leads pre (pure a) post := fun w hw hpre =>
  ⟨hw, .refl, fun _ ha => by cases ha; exact h w hw hpre⟩

theorem leads_throw (e : StepError) : Leads pre (throw e : Act β) post := fun _ hw _ =>
  ⟨hw, .refl, fun _ ha => by cases ha⟩

theorem leads_modify {f : Workspace → Workspace} (h : ∀ w, w.Sound → pre w → (f w).Sound ∧ Reaches w.store (f w).store) :
    Leads pre (modify f : Act Unit) fun _ _ => True := fun w hw hpre =>
  ⟨(h w hw hpre).1, (h w hw hpre).2, fun _ _ => trivial⟩

theorem leads_find {look : Workspace → Except StepError β} (h : ∀ w a, w.Sound → pre w → look w = .ok a → post a w) :
    Leads pre (find look) post := by
  intro w hw hpre
  rw [run_find]
  exact ⟨hw, .refl, fun a ha => h w a hw hpre ha⟩

theorem leads_ofCodec (result : Except CodecError β) : Leads pre (ofCodec result) fun _ => pre := by
  cases result with
  | ok value => exact leads_pure fun _ _ hpre => hpre
  | error e => exact leads_throw _

theorem leads_onStore {change : Store → Except CodecError (β × Store)} (h : ∀ w a s, w.Sound → pre w →
    change w.store = .ok (a, s) → Reaches w.store s ∧ post a { w with store := s }) : Leads pre (onStore change) post := by
  intro w hw hpre
  cases hc : change w.store with
  | error e =>
    rw [run_onStore_of_error hc]
    exact ⟨hw, .refl, fun _ ha => by cases ha⟩
  | ok result =>
    obtain ⟨a, s⟩ := result
    obtain ⟨hreach, hpost⟩ := h w a s hw hpre hc
    rw [run_onStore_of_ok hc]
    exact ⟨hw.of_reaches hreach, hreach, fun _ ha => by cases ha; exact hpost⟩

theorem leads_changeStore {change : Store → Except CodecError Store} (h : ∀ w s, w.Sound → pre w →
    change w.store = .ok s → Reaches w.store s) : Leads pre (changeStore change) fun _ _ => True := by
  refine leads_onStore fun w a s hw hpre hc => ⟨h w s hw hpre ?_, trivial⟩
  cases hs : change w.store with
  | error e => simp [hs, bind, Except.bind] at hc
  | ok t =>
    simp only [hs, bind, Except.bind, pure, Except.pure, Except.ok.injEq, Prod.mk.injEq, true_and] at hc
    rw [hc]

theorem leads_nameBuffer (name : String) (b : BufferId) :
    Leads (fun w => b < w.store.buffers.length) (nameBuffer name b) fun _ _ => True :=
  leads_modify fun w hw hb => ⟨⟨hw.store, fun entry he => by
    rcases Workspace.mem_rebind he with rfl | he
    · exact hb
    · exact hw.buffer_lt entry he, hw.message_lt⟩, .refl⟩

/-! ## Every step -/

/-- An act that may be done to any workspace in order. -/
abbrev Keeps (act : Act α) : Prop := Leads (fun _ => True) act fun _ _ => True

theorem keeps_pure (a : α) : Keeps (pure a) := leads_pure fun _ _ _ => trivial

theorem keeps_find (look : Workspace → Except StepError α) : Keeps (find look) := leads_find fun _ _ _ _ _ => trivial

theorem keeps_look {f : Workspace → Act β} (h : ∀ w, Keeps (f w)) : Keeps (get >>= f) := by
  intro w hw _
  exact h w w hw trivial

theorem leads_resolve (ref : Ref) :
    Leads (fun _ => True) (find (·.resolve ref)) fun b w => b < w.store.buffers.length :=
  leads_find fun _ _ hw _ hb => hw.resolve_lt hb

theorem leads_copyOf (content : Bytes) :
    Leads (fun _ => True) (copyOf content) fun b w => b < w.store.buffers.length :=
  copyOf_eq content ▸ leads_onStore fun _ _ _ _ _ hc => Store.reaches_copyOf hc

theorem leads_allocate (length : Int) :
    Leads (fun _ => True) (allocate length) fun b w => b < w.store.buffers.length :=
  allocate_eq length ▸ leads_onStore fun _ _ _ _ _ hc => Store.reaches_allocate hc

theorem leads_take (b : BufferId) :
    Leads (fun _ => True) (onStore fun s => .ok (s.take b)) fun taken w => taken < w.store.buffers.length := by
  refine leads_onStore fun w taken s _ _ hc => ?_
  have hlt := Store.length_buffers_take w.store b
  rw [Except.ok.inj hc] at hlt
  have htaken : taken = w.store.buffers.length := congrArg Prod.fst (Except.ok.inj hc).symm
  have hreach := w.store.reaches_take b
  rw [Except.ok.inj hc] at hreach
  exact ⟨hreach, by rw [hlt, htaken]; exact Nat.lt_succ_self _⟩

theorem leads_construct (kind : Kind) (status userId : Int) (buffers : List (Option BufferId)) :
    Leads (fun _ => True) (construct kind status userId buffers) fun m w => m < w.store.messages.length :=
  construct_eq kind status userId buffers ▸ leads_onStore fun _ _ _ hw _ hc => Store.reaches_construct hw.store hc

theorem leads_setUserId (m : MessageId) (userId : Int) :
    Leads (fun _ => True) (setUserId m userId) fun _ _ => True :=
  setUserId_eq m userId ▸ leads_changeStore fun _ _ _ _ hc => Store.reaches_setUserId hc

theorem leads_deserialize (m : MessageId) (data : Bytes) (stop : Option Int) (limit : Int) :
    Leads (fun _ => True) (deserialize m data stop limit) fun _ _ => True :=
  deserialize_eq m data stop limit ▸ leads_changeStore fun _ _ hw _ hc => Store.reaches_deserialize hw.store hc

theorem keeps_operand (value : Operand) : Keeps (operand value) := by
  cases value with
  | nothing => exact keeps_pure none
  | ref source => exact (keeps_find _).bind fun b => keeps_pure (some b)
  | data content => exact (leads_copyOf content).bind fun b => leads_pure fun _ _ _ => trivial

theorem keeps_operands : ∀ values : List Operand, Keeps (operands values)
  | [] => keeps_pure []
  | first :: rest => (keeps_operand first).bind fun b => (keeps_operands rest).bind fun bs => keeps_pure (b :: bs)

theorem keeps_comparand (other : Comparand) : Keeps (comparand other) := by
  cases other with
  | ref other => exact (keeps_find _).bind fun b => keeps_look fun w => keeps_pure _
  | data content => exact keeps_pure _
  | foreign => exact keeps_pure none

theorem keeps_payload (source : Payload) : Keeps (payload source) := by
  cases source with
  | data content => exact keeps_pure content
  | blob name => exact keeps_find _

theorem keeps_releaseSubject (target : MessageId ⊕ BufferId) : Keeps (releaseSubject target) := by
  cases target with
  | inl m =>
    exact leads_changeStore fun w s _ _ hs => by
      cases hs
      exact w.store.reaches_releaseMessage m
  | inr b =>
    exact leads_changeStore fun w s _ _ hs => by
      cases hs
      exact w.store.reaches_release b

/-- **Every step keeps a workspace in order, refused or not**, and changes its store by ticks. -/
theorem keeps_perform (step : Step) : Keeps (perform step) := by
  cases step with
  | allocate name length =>
    exact (leads_allocate length).bind fun b => (leads_nameBuffer name b).bind fun _ => keeps_pure _
  | copyOf name content =>
    exact (leads_copyOf content).bind fun b => (leads_nameBuffer name b).bind fun _ => keeps_pure _
  | take source name =>
    exact (keeps_find _).bind fun b => (leads_take b).bind fun taken => (leads_nameBuffer name taken).bind fun _ =>
      keeps_pure _
  | moveFrom target source =>
    refine (leads_resolve target).bind fun b => Leads.bind
      (leads_find fun _ _ _ hb _ => hb) fun other =>
        Leads.bind (leads_changeStore fun w s hw hb hc => ?_) fun _ => keeps_pure _
    cases hc
    exact Store.reaches_moveFrom hb other
  | bind name target =>
    exact (leads_resolve target).bind fun b => (leads_nameBuffer name b).bind fun _ => keeps_pure _
  | drop name =>
    refine Leads.bind (leads_modify fun w hw _ => ⟨⟨hw.store, fun entry he => ?_, fun entry he => ?_⟩, .refl⟩) fun _ =>
      keeps_pure _
    · exact hw.buffer_lt entry (List.mem_filter.1 he).1
    · exact hw.message_lt entry (List.mem_filter.1 he).1
  | view target name =>
    refine (keeps_find _).bind fun b => Leads.bind
      (leads_modify fun w hw _ => ⟨⟨hw.store, hw.buffer_lt, hw.message_lt⟩, .refl⟩) fun _ => keeps_look fun _ => keeps_pure _
  | release target => exact (keeps_find _).bind fun found => (keeps_releaseSubject found).bind fun _ => keeps_pure _
  | scope target failure => exact (keeps_find _).bind fun found => (keeps_releaseSubject found).bind fun _ => keeps_pure _
  | equal target other =>
    exact (keeps_find _).bind fun b => (keeps_comparand other).bind fun held => keeps_look fun _ => keeps_pure _
  | length target => exact (keeps_find _).bind fun b => keeps_look fun _ => keeps_pure _
  | fieldSize target => exact (keeps_find _).bind fun b => keeps_look fun _ => keeps_pure _
  | duplicate target => exact (keeps_find _).bind fun b => leads_throw _
  | archive target => exact (keeps_find _).bind fun b => leads_throw _
  | hash target => exact (keeps_find _).bind fun b => leads_throw _
  | describe target =>
    refine (keeps_find _).bind fun found => ?_
    cases found with
    | inl m => exact keeps_look fun _ => keeps_pure _
    | inr b => exact keeps_look fun _ => keeps_pure _
  | construct name kind status userId values =>
    refine (keeps_operands values).bind fun buffers => (leads_construct kind status userId buffers).bind fun m =>
      Leads.bind (leads_modify fun w hw hm => ?_) fun _ => keeps_pure _
    refine ⟨⟨hw.store, hw.buffer_lt, fun entry he => ?_⟩, .refl⟩
    rcases Workspace.mem_rebind he with rfl | he
    · exact hm
    · exact hw.message_lt entry he
  | setUserId name userId =>
    exact (keeps_find _).bind fun m => (leads_setUserId m userId).bind fun _ => keeps_pure _
  | setStatus name status =>
    refine (keeps_find _).bind fun m => (leads_ofCodec _).bind fun verdict => Leads.bind
      (leads_changeStore fun w s hw _ hc => ?_) fun _ => keeps_pure _
    cases hc
    exact Store.reaches_setStatus hw.store.toSlotted m verdict
  | setField name field value bySetter =>
    refine (keeps_find _).bind fun m => (keeps_operand value).bind fun b => keeps_look fun w => ?_
    dsimp only
    split
    · exact leads_throw _
    split
    · exact leads_throw _
    · rename_i position _
      refine Leads.bind (leads_changeStore fun w s hw _ hc => ?_) fun _ => keeps_pure _
      cases hc
      exact Store.reaches_assign hw.store.toSlotted m position b
  | size name => exact (keeps_find _).bind fun m => keeps_look fun _ => keeps_pure _
  | serialize name blob =>
    refine (keeps_find _).bind fun m => keeps_look fun w => (leads_ofCodec _).bind fun wire => ?_
    cases blob with
    | none => exact keeps_pure _
    | some blob =>
      exact Leads.bind (leads_modify fun w hw _ => ⟨⟨hw.store, hw.buffer_lt, hw.message_lt⟩, .refl⟩) fun _ => keeps_pure _
  | fieldNames name => exact (keeps_find _).bind fun m => keeps_look fun _ => keeps_pure _
  | deserialize name source stop limit =>
    exact (keeps_find _).bind fun m => (keeps_payload source).bind fun data =>
      (leads_deserialize m data stop limit).bind fun _ => keeps_look fun _ => keeps_pure _

end Act

namespace Workspace

variable {w : Workspace}

/-! ## Collecting, and runs of steps -/

theorem outcome_snd (w : Workspace) (step : Step) : (w.outcome step).2 = ((Act.perform step).run w).2 := by
  unfold outcome
  split
  · rename_i heq
    rw [heq]
  · rfl

theorem reaches_outcome (h : w.Sound) (step : Step) :
    (w.outcome step).2.Sound ∧ Reaches w.store (w.outcome step).2.store := by
  obtain ⟨hsound, hreach, -⟩ := Act.keeps_perform step w h trivial
  rw [outcome_snd]
  exact ⟨hsound, hreach⟩

theorem reaches_collect (w : Workspace) : Reaches w.store w.collect.store := Store.reaches_releaseAll _ _

theorem reachable_collect (w : Workspace) : w.collect.reachable = w.reachable := by
  have hmessages : w.collect.store.messages = w.store.messages := Store.messages_releaseAll _ _
  have hmessage : ∀ m, w.collect.store.message m = w.store.message m := fun m => by
    rw [Store.message, hmessages, Store.message]
  unfold reachable
  simp only [hmessage]
  rfl

/-- **A buffer that nothing stands for any more has been finalised.** -/
theorem buffer_collect (w : Workspace) {b : BufferId} (hb : b ∉ w.collect.reachable) :
    w.collect.store.buffer b = {} := by
  rw [reachable_collect] at hb
  have hrelease := Store.buffer_releaseAll b ((List.range w.store.buffers.length).filter (!w.reachable.contains ·)) w.store
  refine hrelease.trans ?_
  split
  · rfl
  · rename_i hnot
    refine w.store.buffer_of_length_le (Nat.le_of_not_lt fun hlt => hnot ?_)
    rw [List.mem_filter, List.mem_range]
    exact ⟨hlt, by simpa using hb⟩

theorem reaches_run (h : w.Sound) (step : Step) : Reaches w.store (w.run step).2.store :=
  (reaches_outcome h step).2.trans (reaches_collect _)

theorem sound_run (h : w.Sound) (step : Step) : (w.run step).2.Sound :=
  (reaches_outcome h step).1.of_reaches (reaches_collect _)

theorem sound_empty : ({} : Workspace).Sound := ⟨Store.sound_empty, nofun, nofun⟩

/-- **Every run of steps keeps a workspace in order.** -/
theorem sound_runs : ∀ (steps : List Step) {w : Workspace}, w.Sound → (w.runs steps).Sound
  | [], _, h => h
  | step :: rest, _, h => sound_runs rest (sound_run h step)

theorem reaches_runs : ∀ (steps : List Step) {w : Workspace}, w.Sound → Reaches w.store (w.runs steps).store
  | [], _, _ => .refl
  | step :: rest, _, h => (reaches_run h step).trans (reaches_runs rest (sound_run h step))

theorem runs_append : ∀ (steps more : List Step) (w : Workspace), w.runs (steps ++ more) = (w.runs steps).runs more
  | [], _, _ => rfl
  | step :: rest, more, w => runs_append rest more (w.run step).2

theorem runs_concat (w : Workspace) (steps : List Step) (step : Step) :
    w.runs (steps ++ [step]) = ((w.runs steps).run step).2 := runs_append steps [step] w

/-- After any run, what nothing stands for has been finalised, if that was so before it. -/
theorem buffer_runs : ∀ (steps : List Step) {w : Workspace}, (∀ b, b ∉ w.reachable → w.store.buffer b = {}) →
    ∀ b, b ∉ (w.runs steps).reachable → (w.runs steps).store.buffer b = {}
  | [], _, h => h
  | step :: rest, w, _ => buffer_runs rest fun _ hb => buffer_collect (w.outcome step).2 hb

/-- Where nothing is lost, collecting does nothing. -/
theorem collect_of_tidy (h : ∀ b, b ∉ w.reachable → w.store.buffer b = {}) : w.collect = w := by
  show ({ w with store := w.store.releaseAll _ } : Workspace) = w
  rw [Store.releaseAll_of_empty _ fun b hb => h b (by simpa using (List.mem_filter.1 hb).2)]

end Workspace
end PasswordGate

import PasswordGate.Proofs.Codec.Envelope
import PasswordGate.Proofs.Running
import PasswordGate.Proofs.Store.Operations
import PasswordGate.Store.Workspace
/-!
# Acts — a row of changes that is refused has changed nothing yet

An act changes the store one step after the other, and what was done before a refusal stays done.  The acts that allocate,
copy, construct, mark and decode still come to one change that is made as a whole or not at all (`allocate_eq` …
`deserialize_eq`): each looks at its arguments before its first change, and from there on nothing can be refused.
-/
namespace PasswordGate
namespace Act

variable {α β : Type} {w : Workspace}

/-! ## Running the single acts -/

theorem run_find (look : Workspace → Except StepError α) (w : Workspace) : (find look).run w = (look w, w) := by
  unfold find
  rw [Running.run_bind_of_ok (show (get : Act Workspace).run w = (.ok w, w) from rfl)]
  cases look w <;> rfl

theorem run_onStore_of_ok {change : Store → Except CodecError (α × Store)} {w : Workspace} {a : α} {s : Store}
    (h : change w.store = .ok (a, s)) : (onStore change).run w = (.ok a, { w with store := s }) := by
  unfold onStore
  rw [Running.run_bind]
  show (ofCodec (change w.store) >>= _ : Act α).run w = _
  rw [h]
  rfl

theorem run_onStore_of_error {change : Store → Except CodecError (α × Store)} {w : Workspace} {e : CodecError}
    (h : change w.store = .error e) : (onStore change).run w = (.error (.codec e), w) := by
  unfold onStore
  rw [Running.run_bind]
  show (ofCodec (change w.store) >>= _ : Act α).run w = _
  rw [h]
  rfl

theorem run_changeStore_of_ok {change : Store → Except CodecError Store} {w : Workspace} {s : Store}
    (h : change w.store = .ok s) : (changeStore change).run w = (.ok (), { w with store := s }) := by
  refine run_onStore_of_ok ?_
  rw [h]
  rfl

theorem run_changeStore_of_error {change : Store → Except CodecError Store} {w : Workspace} {e : CodecError}
    (h : change w.store = .error e) : (changeStore change).run w = (.error (.codec e), w) := by
  refine run_onStore_of_error ?_
  rw [h]
  rfl

theorem run_ofCodec_of_ok {result : Except CodecError α} {a : α} (h : result = .ok a) :
    (ofCodec result).run w = (.ok a, w) := by
  rw [h]
  rfl

theorem run_ofCodec_of_error {result : Except CodecError α} {e : CodecError} (h : result = .error e) :
    (ofCodec result).run w = (.error (.codec e), w) := by
  rw [h]
  rfl

/-- **A change that cannot be refused is made.** -/
theorem run_changeStore (f : Store → Store) (w : Workspace) :
    (changeStore fun s => .ok (f s)).run w = (.ok (), { w with store := f w.store }) := run_changeStore_of_ok rfl

theorem run_make (f : Store → α × Store) (w : Workspace) :
    (onStore fun s => .ok (f s)).run w = (.ok (f w.store).1, { w with store := (f w.store).2 }) := run_onStore_of_ok rfl

/-! ## All or nothing -/

theorem allocate_eq (length : Int) : allocate length = onStore (·.allocate length) := by
  funext w
  show (allocate length).run w = (onStore (·.allocate length)).run w
  unfold allocate
  by_cases hlength : 0 ≤ length ∧ length ≤ Word.largest
  · rw [if_neg (by omega)]
    show ((onStore fun s => .ok s.newBuffer) >>= _ : Act BufferId).run w = _
    rw [Running.run_bind_of_ok (run_make Store.newBuffer w)]
    by_cases hzero : length = 0
    · have hs : w.store.allocate length = .ok w.store.newBuffer := by
        rw [Store.allocate, if_pos hlength]
        exact if_pos hzero
      rw [run_onStore_of_ok hs, if_pos hzero]
      rfl
    · have hs : w.store.allocate length = .ok (w.store.newBuffer.1,
          (w.store.newBuffer.2.newBlock (Bytes.zeros length.toNat)).2.adopt w.store.newBuffer.1
            (w.store.newBuffer.2.newBlock (Bytes.zeros length.toNat)).1) := by
        rw [Store.allocate, if_pos hlength]
        exact if_neg hzero
      rw [run_onStore_of_ok hs, if_neg hzero]
      rfl
  · have hs : w.store.allocate length = .error (.lengthOutOfRange length) := by
      rw [Store.allocate, if_neg hlength]
    rw [if_pos (by omega), run_onStore_of_error hs]
    rfl

theorem copyOf_eq (data : Bytes) : copyOf data = onStore (·.copyOf data) := by
  funext w
  show (copyOf data).run w = (onStore (·.copyOf data)).run w
  unfold copyOf
  rw [allocate_eq]
  cases ha : w.store.allocate data.length with
  | error e =>
    have hs : w.store.copyOf data = .error e := by rw [Store.copyOf, ha]; rfl
    rw [Running.run_bind_of_error (run_onStore_of_error ha), run_onStore_of_error hs]
  | ok made =>
    have hs : w.store.copyOf data = .ok (made.1, made.2.fill made.1 data) := by rw [Store.copyOf, ha]; rfl
    rw [Running.run_bind_of_ok (run_onStore_of_ok ha), run_onStore_of_ok hs]
    rfl

/-- **A construction checks all its arguments first**, and moves no buffer before they are in order. -/
theorem construct_eq (kind : Kind) (status userId : Int) (values : List (Option BufferId)) :
    construct kind status userId values = onStore (·.construct kind status userId values) := by
  funext w
  show (construct kind status userId values).run w = (onStore (·.construct kind status userId values)).run w
  unfold construct
  cases hstatus : Status.ofNumber status with
  | error e =>
    have hs : w.store.construct kind status userId values = .error e := by rw [Store.construct, hstatus]; rfl
    rw [Running.run_bind_of_error (run_ofCodec_of_error rfl), run_onStore_of_error hs]
  | ok verdict =>
    rw [Running.run_bind_of_ok (run_ofCodec_of_ok rfl)]
    by_cases hcount : kind.filled < values.length
    · have hs : w.store.construct kind status userId values = .error .tooManyFields := by
        rw [Store.construct, hstatus]
        simp only [bind, Except.bind]
        rw [if_pos hcount]
        rfl
      rw [if_pos hcount, run_onStore_of_error hs]
      rfl
    · rw [if_neg hcount]
      show (ofCodec (Store.checkUserId userId) >>= _ : Act MessageId).run w = _
      cases huser : Store.checkUserId userId with
      | error e =>
        have hs : w.store.construct kind status userId values = .error e := by
          rw [Store.construct, hstatus]
          simp only [bind, Except.bind]
          rw [if_neg hcount, huser]
        rw [Running.run_bind_of_error (run_ofCodec_of_error rfl), run_onStore_of_error hs]
      | ok user =>
        have hs : w.store.construct kind status userId values = .ok ((w.store.newMessage kind).1,
            ((w.store.newMessage kind).2.setMessage (w.store.newMessage kind).1
              { (w.store.newMessage kind).2.message (w.store.newMessage kind).1 with
                status := verdict, userId := user }).assignAll (w.store.newMessage kind).1 0 values) := by
          rw [Store.construct, hstatus]
          simp only [bind, Except.bind]
          rw [if_neg hcount, huser]
          rfl
        rw [Running.run_bind_of_ok (run_ofCodec_of_ok rfl), run_onStore_of_ok hs]
        rfl

theorem setUserId_eq (m : MessageId) (userId : Int) : setUserId m userId = changeStore (·.setUserId m userId) := by
  funext w
  show (setUserId m userId).run w = (changeStore (·.setUserId m userId)).run w
  unfold setUserId
  cases huser : Store.checkUserId userId with
  | error e =>
    have hs : w.store.setUserId m userId = .error e := by rw [Store.setUserId, huser]; rfl
    rw [Running.run_bind_of_error (run_ofCodec_of_error rfl), run_changeStore_of_error hs]
  | ok user =>
    have hs : w.store.setUserId m userId = .ok (w.store.setMessage m { w.store.message m with userId := user }) := by
      rw [Store.setUserId, huser]
      rfl
    have hwhole : (changeStore (·.setUserId m userId)).run w = _ := run_changeStore_of_ok hs
    rw [Running.run_bind_of_ok (run_ofCodec_of_ok rfl), hwhole]
    rfl

/-- **Contents that fit a word are installed one after the other**, none of them refused. -/
theorem run_install (m : MessageId) : ∀ (contents : List Bytes) (position : Nat) (w : Workspace),
    (∀ content ∈ contents, content.length ≤ Word.largest) → ∃ s, w.store.install m position contents = .ok s ∧
      (install m position contents).run w = (.ok (), { w with store := s })
  | [], _, w, _ => ⟨w.store, rfl, rfl⟩
  | content :: rest, position, w, hle => by
    obtain ⟨hfirst, hrest⟩ := List.forall_mem_cons.1 hle
    obtain ⟨b, copied, hcopy⟩ := Store.exists_copyOf w.store hfirst
    obtain ⟨s, hs, hrun⟩ := run_install m rest (position + 1)
      { w with store := copied.assign m position (some b) } hrest
    refine ⟨s, ?_, ?_⟩
    · rw [Store.install, hcopy]
      exact hs
    · rw [install, copyOf_eq, Running.run_bind_of_ok (run_onStore_of_ok hcopy),
        Running.run_bind_of_ok (run_changeStore _ _), hrun]

/-- **Only the window of a decoding can be refused**: what comes out of it fits the buffers that it goes to. -/
theorem deserialize_eq (m : MessageId) (data : Bytes) (stop : Option Int) (limit : Int) :
    deserialize m data stop limit = changeStore (·.deserialize m data stop limit) := by
  funext w
  show (deserialize m data stop limit).run w = (changeStore (·.deserialize m data stop limit)).run w
  unfold deserialize
  cases hwindow : Envelope.window data stop with
  | error e =>
    have hs : w.store.deserialize m data stop limit = .error e := by rw [Store.deserialize, hwindow]; rfl
    rw [Running.run_bind_of_error (run_ofCodec_of_error rfl), run_changeStore_of_error hs]
  | ok last =>
    have hs : w.store.deserialize m data stop limit =
        Envelope.decode (w.store.message m).slots.length data last limit >>= w.store.accept m := by
      rw [Store.deserialize, hwindow]
      rfl
    obtain ⟨last, rfl, hlast⟩ := Envelope.window_eq_ok hwindow
    rw [Running.run_bind_of_ok (run_ofCodec_of_ok rfl),
      Running.run_bind_of_ok (show (get : Act Workspace).run w = (.ok w, w) from rfl)]
    rcases Envelope.exists_decode (w.store.message m).slots.length limit hlast with
      hrefused | ⟨userId, contents, complete, hpayload, -, -, hlengths⟩
    · rw [hrefused] at hs
      have hwhole : (changeStore (·.deserialize m data stop limit)).run w = _ := run_changeStore_of_ok hs
      rw [Running.run_bind_of_ok (run_ofCodec_of_ok hrefused), hwhole]
      rfl
    · rw [hpayload] at hs
      obtain ⟨installed, hinstall, hrun⟩ := run_install m contents 0 { w with store :=
        (w.store.setMessage m { w.store.message m with userId := userId }).releaseMessage m } hlengths
      have haccept : w.store.accept m (.payload userId contents complete) =
          .ok (installed.setStatus m (if complete then .ok else .invalid)) := by
        rw [Store.accept, hinstall]
        rfl
      have hwhole : (changeStore (·.deserialize m data stop limit)).run w = _ := run_changeStore_of_ok (hs.trans haccept)
      rw [hwhole, Running.run_bind_of_ok (run_ofCodec_of_ok hpayload), Running.run_bind_of_ok (run_changeStore _ _),
        Running.run_bind_of_ok (run_changeStore _ _), Running.run_bind_of_ok hrun]
      rfl

end Act
end PasswordGate

import PasswordGate.Device.Visit
import PasswordGate.Proofs.Running
import PasswordGate.Proofs.Store.Decoding
/-!
# Calls — what each piece of a call does to the device

A call is a row of pieces, each of which changes one part of the device: its store, its counters, its notes or its
invocations.  One equation for each piece says what it gives and what it leaves.
-/
namespace PasswordGate

namespace Device

def counted (d : Device) (operation : Operation) : Device :=
  { d with counters := d.counters.map (·.recordRequest operation.label) }

def rejected (d : Device) (operation : Operation) (reason : Reason) : Device :=
  { d with counters := d.counters.map (·.recordRejection operation.label reason.label) }

/-- One more request handed over, as it and the response are in the store. -/
def asked (d : Device) (operation : Operation) (request response : MessageId) : Device :=
  let seen := d.store.envelope request
  let given := d.store.envelope response
  { d with invocations := d.invocations ++ [{ operation := operation, request := request, seen := seen, given := given }] }

end Device

namespace Call

open Running
open Store (Reaches)

variable {α : Type} (d : Device)

theorem run_get : (get : Call Device).run d = (.ok d, d) := rfl

theorem run_ensureOpen : ensureOpen.run d = (if d.closed then .error .closed else .ok (), d) := by
  unfold ensureOpen
  rw [run_bind]
  show (if d.closed then throw .closed else pure () : Call Unit).run d = _
  split <;> rfl

variable {d} in
theorem run_ensureOpen_of_open (h : d.closed = false) : ensureOpen.run d = (.ok (), d) := by
  rw [run_ensureOpen, h]
  rfl

theorem run_countRequest (operation : Operation) : (countRequest operation).run d = (.ok (), d.counted operation) := rfl

theorem run_countRejection (operation : Operation) (reason : Reason) :
    (countRejection operation reason).run d = (.ok (), d.rejected operation reason) := rfl

theorem run_note (level : Level) (text : String) : (note level text).run d = (.ok (), d.addNote level text) := rfl

theorem run_reject (operation : Operation) (reason : Reason) (userId : Int) :
    (reject operation reason userId : Call α).run d = (.error (.rejected operation reason),
      (d.rejected operation reason).addNote Level.warning s!"Rejected {operation.label} for user {userId}: {reason.label}") := rfl

theorem run_ofCodec (result : Except CodecError α) : (ofCodec result).run d = (result.mapError .codec, d) := by
  cases result <;> rfl

theorem run_onStore_of_ok {change : Store → Except CodecError (α × Store)} {a : α} {s : Store}
    (h : change d.store = .ok (a, s)) : (onStore change).run d = (.ok a, { d with store := s }) := by
  unfold onStore
  rw [run_bind]
  show (ofCodec (change d.store) >>= _ : Call α).run d = _
  rw [h]
  rfl

theorem run_onStore_of_error {change : Store → Except CodecError (α × Store)} {e : CodecError}
    (h : change d.store = .error e) : (onStore change).run d = (.error (.codec e), d) := by
  unfold onStore
  rw [run_bind]
  show (ofCodec (change d.store) >>= _ : Call α).run d = _
  rw [h]
  rfl

theorem run_changeStore_of_ok {change : Store → Except CodecError Store} {s : Store} (h : change d.store = .ok s) :
    (changeStore change).run d = (.ok (), { d with store := s }) := by
  refine run_onStore_of_ok d ?_
  rw [h]
  rfl

theorem run_changeStore_ok (f : Store → Store) :
    (changeStore fun s => .ok (f s)).run d = (.ok (), { d with store := f d.store }) := rfl

theorem run_changeStore_of_error {change : Store → Except CodecError Store} {e : CodecError}
    (h : change d.store = .error e) : (changeStore change).run d = (.error (.codec e), d) := by
  refine run_onStore_of_error d ?_
  rw [h]
  rfl

theorem run_releasing (request response : MessageId) (body : Call α) : (releasing request response body).run d =
    ((body.run d).1, { (body.run d).2 with
      store := ((body.run d).2.store.releaseMessage response).releaseMessage request }) := rfl

theorem run_blankMessage (kind : Kind) : (blankMessage kind).run d =
    (.ok d.store.messages.length, { d with store := (d.store.newMessage kind).2 }) := by
  obtain ⟨-, -, -, hmessages, -⟩ := Store.newBuffers_spec kind.fields.length d.store
  refine run_onStore_of_ok d (congrArg Except.ok (Prod.ext ?_ rfl))
  exact congrArg List.length hmessages

theorem run_construct_of_ok {kind : Kind} {userId : Int} {values : List BufferId} {m : MessageId} {s : Store}
    (h : d.store.construct kind Status.ok.number userId (values.map some) = .ok (m, s)) :
    (construct kind userId values).run d = (.ok m, { d with store := s }) := by
  unfold construct
  rw [run_bind_of_ok (run_get d), h]
  rfl

theorem run_construct_of_error {kind : Kind} {userId : Int} {values : List BufferId} {e : CodecError}
    (h : d.store.construct kind Status.ok.number userId (values.map some) = .error e) :
    (construct kind userId values).run d = (.error (.codec e), { d with store := d.store.releaseAll values }) := by
  unfold construct
  rw [run_bind_of_ok (run_get d), h]
  rfl

theorem run_consult (auth : Authenticator) (operation : Operation) (request response : MessageId) :
    (consult auth operation request response).run d =
      (applyAll request response (auth operation (d.store.envelope request))).run (d.asked operation request response) := rfl

end Call
end PasswordGate

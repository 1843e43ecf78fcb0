import PasswordGate.Counters
import PasswordGate.Device.Authenticator
import PasswordGate.Log.Note
import PasswordGate.Settings
import PasswordGate.Store.Message
/-!
# Device — the gate in front of an authenticator

A device takes enroll and verify requests, either as arguments (`enroll`, `verify`) or as messages off the wire
(`handle`).  It checks them against its settings, hands a request and a fresh response to the authenticator, and gives
back the handle or the token, or the response's wire form.  Whichever way a call ends, its request and its response are
released; a direct call that returns moves the result out before.

A `Call` is an action on the device that may be refused.  The device keeps what it logged and which requests it handed
over (`notes`, `invocations`, the latest last), so that a run can be looked back at.
-/
namespace PasswordGate

/-- Why a device turned a request down. -/
inductive Reason
  | emptyPassword
  | passwordTooLong
  | missingArgument
  | authenticator
  | malformed
  deriving DecidableEq, Repr

def Reason.label : Reason → String
  | emptyPassword => "empty_password"
  | passwordTooLong => "password_too_long"
  | missingArgument => "missing_argument"
  | authenticator => "authenticator"
  | malformed => "malformed"

/-- Why a call ended without a result. -/
inductive DeviceError
  | unknownDevice (name : String)
  | closed
  | rejected (operation : Operation) (reason : Reason)
  | codec (cause : CodecError)
  | authenticator (text : String)
  deriving DecidableEq, Repr

def deviceName : String := "keyguard"

namespace DeviceError

def message : DeviceError → String
  | unknownDevice name => "Unknown device " ++ Quoted.ofText name ++ "; expected " ++ Quoted.ofText deviceName
  | closed => "Keyguard device is closed"
  | rejected operation reason => operation.label ++ " rejected: " ++ reason.label
  | codec cause => cause.message
  | authenticator text => text

end DeviceError

/-- A request that was handed to the authenticator: what it said, and what the response said then. -/
structure Invocation where
  operation : Operation
  request : MessageId
  seen : Envelope
  given : Envelope
  deriving DecidableEq

/-- **A device**, with the store its messages live in and what it has logged and handed over. -/
structure Device where
  settings : Settings := {}
  counters : Option Counters := none
  closed : Bool := false
  store : Store := {}
  notes : List Note := []
  invocations : List Invocation := []

/-- An action on a device that may be refused; what was done before stays done. -/
abbrev Call (α : Type) := ExceptT DeviceError (StateM Device) α

namespace Device

/-- A device with its own counters, or with new ones if the settings ask for them. -/
def make (settings : Settings) (counters : Option Counters) : Device :=
  { settings := settings
    counters := match counters with
      | some c => some c
      | none => if settings.metricsEnabled then some {} else none }

def logger : String := "keyguard.device"

def addNote (d : Device) (level : Level) (message : String) : Device :=
  { d with notes := d.notes ++ [{ level := level, logger := logger, message := message }] }

/-- **A device is opened by its name.** -/
def openNamed (name : String) (settings : Settings) (counters : Option Counters) : Except DeviceError Device :=
  if name = deviceName then .ok ((make settings counters).addNote Level.info "Keyguard device opened")
  else .error (.unknownDevice name)

end Device

namespace Call

def note (level : Level) (message : String) : Call Unit := modify fun d => d.addNote level message

def ensureOpen : Call Unit := do
  if (← get).closed then throw .closed

def countRequest (operation : Operation) : Call Unit :=
  modify fun d => { d with counters := d.counters.map (·.recordRequest operation.label) }

def countRejection (operation : Operation) (reason : Reason) : Call Unit :=
  modify fun d => { d with counters := d.counters.map (·.recordRejection operation.label reason.label) }

def reject {α : Type} (operation : Operation) (reason : Reason) (userId : Int) : Call α := do
  countRejection operation reason
  note Level.warning s!"Rejected {operation.label} for user {userId}: {reason.label}"
  throw (.rejected operation reason)

def ofCodec {α : Type} : Except CodecError α → Call α
  | .ok value => pure value
  | .error e => throw (.codec e)

def onStore {α : Type} (change : Store → Except CodecError (α × Store)) : Call α := do
  let (value, store) ← ofCodec (change (← get).store)
  modify fun d => { d with store := store }
  return value

def changeStore (change : Store → Except CodecError Store) : Call Unit :=
  onStore fun s => do return ((), ← change s)

/-- A message from buffers of the call's own; if it is refused, they are finalised. -/
def construct (kind : Kind) (userId : Int) (values : List BufferId) : Call MessageId := do
  match (← get).store.construct kind Status.ok.number userId (values.map some) with
  | .ok (m, store) =>
    modify fun d => { d with store := store }
    return m
  | .error e =>
    modify fun d => { d with store := d.store.releaseAll values }
    throw (.codec e)

def blankMessage (kind : Kind) : Call MessageId := onStore fun s => .ok (s.newMessage kind)

/-- **A call's request and response are released, whichever way its body ends.** -/
def releasing {α : Type} (request response : MessageId) (body : Call α) : Call α := ExceptT.mk do
  let result ← body.run
  modify fun d => { d with store := (d.store.releaseMessage response).releaseMessage request }
  return result

def apply (request response : MessageId) : Edit → Call Unit
  | .userId value => changeStore fun s => s.setUserId response value
  | .field content => changeStore fun s => do
    let (b, s) ← s.copyOf content
    return s.assign response 0 (some b)
  | .moved name => changeStore fun s => .ok <|
    match s.field? request name with
    | some b => s.assign response 0 (some b)
    | none => s
  | .status value => changeStore fun s => .ok (s.setStatus response value)
  | .failure text => throw (.authenticator text)

def applyAll (request response : MessageId) : List Edit → Call Unit
  | [] => pure ()
  | edit :: rest => do
    apply request response edit
    applyAll request response rest

/-- **The authenticator is given the request and the response.** -/
def consult (auth : Authenticator) (operation : Operation) (request response : MessageId) : Call Unit := do
  let s := (← get).store
  let seen := s.envelope request
  let given := s.envelope response
  modify fun d => { d with
    invocations := d.invocations ++ [{ operation := operation, request := request, seen := seen, given := given }] }
  applyAll request response (auth operation seen)

def checkPassword (operation : Operation) (userId : Int) (password : Bytes) : Call Unit := do
  if (← get).settings.maxPasswordLength < password.length then reject operation .passwordTooLong userId

def doneText (operation : Operation) (userId : Int) : String :=
  match operation with
  | .enroll => s!"Enrolled password for user {userId}"
  | .verify => s!"Verified password for user {userId}"

/-- The result is moved out of the response, unless the authenticator turned the request down. -/
def withdraw (operation : Operation) (userId : Int) (response : MessageId) : Call BufferId := do
  if ((← get).store.message response).status ≠ .ok then reject operation .authenticator userId
  note Level.debug (doneText operation userId)
  onStore fun s => .ok (s.take ((s.slot? response 0).getD 0))

/-- **A direct request goes to the authenticator**, and the result is moved out of the response. -/
def submit (auth : Authenticator) (operation : Operation) (userId : Int) (values : List BufferId) : Call BufferId := do
  let request ← construct operation.request userId values
  let response ← blankMessage operation.response
  releasing request response do
    consult auth operation request response
    withdraw operation userId response

/-- **A password is enrolled**; the result is a buffer with its handle. -/
def enroll (auth : Authenticator) (userId : Int) (password : Option Bytes) : Call BufferId := do
  ensureOpen
  countRequest .enroll
  match password with
  | none | some [] => reject .enroll .emptyPassword userId
  | some password =>
    checkPassword .enroll userId password
    let given ← onStore (·.copyOf password)
    submit auth .enroll userId [given]

/-- **A password is checked against a handle**; the result is a buffer with a token. -/
def verify (auth : Authenticator) (userId : Int) (handle password : Option Bytes) : Call BufferId := do
  ensureOpen
  countRequest .verify
  match handle, password with
  | some handle, some password =>
    checkPassword .verify userId password
    let first ← onStore (·.copyOf handle)
    let second ← onStore (·.copyOf password)
    submit auth .verify userId [first, second]
  | _, _ => reject .verify .missingArgument userId

/-- The response of a request that was turned down, in its wire form. -/
def refuse (operation : Operation) (reason : Reason) (response : MessageId) : Call Bytes := do
  countRejection operation reason
  changeStore fun s => .ok (s.setStatus response .invalid)
  ofCodec ((← get).store.serialize response)

/-- The response is written, whether or not the authenticator turned the request down. -/
def respond (operation : Operation) (userId : Nat) (response : MessageId) : Call Bytes := do
  let s := (← get).store
  if (s.message response).status ≠ .ok then
    note Level.info s!"Authenticator rejected {operation.label} for user {userId}"
    countRejection operation .authenticator
  ofCodec (s.serialize response)

/-- The body of a wire call: decode, check, ask, and answer. -/
def answer (auth : Authenticator) (operation : Operation) (data : Bytes) (request response : MessageId) :
    Call Bytes := do
  let settings := (← get).settings
  changeStore fun s => s.deserialize request data none settings.maxFieldLength
  let seen := (← get).store.envelope request
  if seen.status ≠ .ok then
    note Level.warning s!"Rejecting malformed {operation.label} request ({data.length} bytes)"
    refuse operation .malformed response
  else
    let password := Authenticator.fieldOf seen passwordField
    if settings.maxPasswordLength < password.length then
      note Level.warning (s!"Rejecting {operation.label} request for user {seen.userId}: " ++
        s!"password of {password.length} bytes over limit")
      refuse operation .passwordTooLong response
    else
      consult auth operation request response
      respond operation seen.userId response

/-- **A request off the wire is answered** by the wire form of a response. -/
def handle (auth : Authenticator) (operation : Operation) (data : Bytes) : Call Bytes := do
  ensureOpen
  countRequest operation
  let request ← blankMessage operation.request
  let response ← blankMessage operation.response
  releasing request response (answer auth operation data request response)

def close : Call Unit := do
  if !(← get).closed then
    modify fun d => { d with closed := true }
    note Level.info "Keyguard device closed"

def perform {α : Type} (call : Call α) (d : Device) : Except DeviceError α × Device := call.run d

end Call
end PasswordGate

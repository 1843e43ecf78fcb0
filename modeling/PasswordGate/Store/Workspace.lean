import PasswordGate.Store.Message
/-!
# Workspace — named buffers, messages and views over one store

A name stands for a buffer, a message, a view or a blob; the four spaces are separate.  Several names and a message's
slot may stand for the same buffer.  A buffer that no name and no named message's slot stands for any more is finalised
(`collect`), which zeroes what it owned.  A view is taken of the block that a buffer owned at the time; a view of an
empty buffer stays empty.

`Step` is what can be asked for, `Answer` what comes back, and `run` carries one step out and then collects.  An `Act` is
something done to a workspace that may be refused.  A step that is refused leaves the names as they were; the buffers that
it had made for its operands are finalised.  A scope that ends in an error still releases.
-/
namespace PasswordGate

/-- A buffer by its own name, or by the message and the field whose slot it is in. -/
inductive Ref
  | buffer (name : String)
  | field (message name : String)
  deriving DecidableEq, Repr

inductive Operand
  | nothing
  | ref (source : Ref)
  | data (content : Bytes)
  deriving DecidableEq, Repr

inductive Comparand
  | ref (other : Ref)
  | data (content : Bytes)
  | foreign
  deriving DecidableEq, Repr

inductive Payload
  | data (content : Bytes)
  | blob (name : String)
  deriving DecidableEq, Repr

/-- **What can be asked of a workspace.** -/
inductive Step
  | allocate (name : String) (length : Int)
  | copyOf (name : String) (content : Bytes)
  | take (source : Ref) (name : String)
  | moveFrom (target source : Ref)
  | bind (name : String) (target : Ref)
  | drop (name : String)
  | view (target : Ref) (name : String)
  | release (target : Ref)
  | scope (target : Ref) (failure : Option String)
  | equal (target : Ref) (other : Comparand)
  | length (target : Ref)
  | fieldSize (target : Ref)
  | duplicate (target : Ref)
  | archive (target : Ref)
  | hash (target : Ref)
  | describe (target : Ref)
  | construct (name : String) (kind : Kind) (status userId : Int) (values : List Operand)
  | setUserId (message : String) (userId : Int)
  | setStatus (message : String) (status : Int)
  | setField (message field : String) (value : Operand) (bySetter : Bool)
  | size (message : String)
  | serialize (message : String) (blob : Option String)
  | fieldNames (message : String)
  | deserialize (message : String) (payload : Payload) (stop : Option Int) (limit : Int)

inductive Answer
  | nothing
  | flag (value : Bool)
  | flags (equal differs : Bool)
  | number (value : Int)
  | text (value : String)
  | bytes (value : Bytes)
  | names (values : List String)
  | shown (length : Nat) (readOnly : Bool)
  | status (value : Status)
  deriving DecidableEq, Repr

inductive StepError
  | codec (cause : CodecError)
  | unknownName (name : String)
  | unknownField (name : String)
  | implicitCopy
  | archived
  | unhashable
  | failed (text : String)
  deriving DecidableEq, Repr

namespace StepError

def message : StepError → String
  | codec cause => cause.message
  | unknownName name => s!"nothing is named {name}"
  | unknownField name => s!"no field is named {name}"
  | implicitCopy => "SizedBuffer cannot be copied implicitly; use SizedBuffer.copy_of()"
  | archived => "SizedBuffer cannot be pickled"
  | unhashable => "a buffer has no hash"
  | failed text => text

end StepError

structure Workspace where
  store : Store := {}
  buffers : List (String × BufferId) := []
  messages : List (String × MessageId) := []
  views : List (String × Option BlockId) := []
  blobs : List (String × Bytes) := []
  deriving DecidableEq

namespace Workspace

/-- A name with its new meaning in front, and its old one gone. -/
def rebind {α : Type} (names : List (String × α)) (name : String) (value : α) : List (String × α) :=
  (name, value) :: names.filter (·.1 != name)

def unbind {α : Type} (names : List (String × α)) (name : String) : List (String × α) :=
  names.filter (·.1 != name)

def message (w : Workspace) (name : String) : Except StepError MessageId :=
  match w.messages.lookup name with
  | some m => .ok m
  | none => .error (.unknownName name)

def resolve (w : Workspace) : Ref → Except StepError BufferId
  | .buffer name =>
    match w.buffers.lookup name with
    | some b => .ok b
    | none => .error (.unknownName name)
  | .field owner name => do
    match w.store.field? (← w.message owner) name with
    | some b => .ok b
    | none => .error (.unknownField name)

/-- A plain name stands for a message rather than for a buffer. -/
def subject (w : Workspace) (target : Ref) : Except StepError (MessageId ⊕ BufferId) :=
  match target with
  | .buffer name =>
    match w.messages.lookup name with
    | some m => .ok (.inl m)
    | none => Sum.inr <$> w.resolve target
  | .field _ _ => Sum.inr <$> w.resolve target

def reachable (w : Workspace) : List BufferId :=
  w.buffers.map (·.2) ++ w.messages.flatMap fun entry => (w.store.message entry.2).slots

/-- **Buffers that nothing stands for any more are finalised.** -/
def collect (w : Workspace) : Workspace :=
  let kept := w.reachable
  let lost := (List.range w.store.buffers.length).filter fun b => !kept.contains b
  { w with store := w.store.releaseAll lost }

end Workspace

/-- **Something done to a workspace**, which may be refused; what was done before stays done. -/
abbrev Act (α : Type) := ExceptT StepError (StateM Workspace) α

namespace Act

def find {α : Type} (look : Workspace → Except StepError α) : Act α := do
  match look (← get) with
  | .ok value => pure value
  | .error e => throw e

def ofCodec {α : Type} : Except CodecError α → Act α
  | .ok value => pure value
  | .error e => throw (.codec e)

def onStore {α : Type} (change : Store → Except CodecError (α × Store)) : Act α := do
  let (value, store) ← ofCodec (change (← get).store)
  modify fun w => { w with store := store }
  return value

def changeStore (change : Store → Except CodecError Store) : Act Unit :=
  onStore fun s => do return ((), ← change s)

def nameBuffer (name : String) (b : BufferId) : Act Unit :=
  modify fun w => { w with buffers := Workspace.rebind w.buffers name b }

/-! ## Changes of the store, one after the other

What is refused may be refused between two changes, and the first of them is not taken back. -/

def allocate (length : Int) : Act BufferId := do
  if length < 0 ∨ Word.largest < length then throw (.codec (.lengthOutOfRange length))
  let b ← onStore fun s => .ok s.newBuffer
  if length = 0 then return b
  let i ← onStore fun s => .ok (s.newBlock (Bytes.zeros length.toNat))
  changeStore fun s => .ok (s.adopt b i)
  return b

def copyOf (data : Bytes) : Act BufferId := do
  let b ← allocate data.length
  changeStore fun s => .ok (s.fill b data)
  return b

/-- **A message of a kind from a caller's buffers**: it is made and marked, and then each buffer moves in. -/
def construct (kind : Kind) (status userId : Int) (values : List (Option BufferId)) : Act MessageId := do
  let status ← ofCodec (Status.ofNumber status)
  if kind.filled < values.length then throw (.codec .tooManyFields)
  let userId ← ofCodec (Store.checkUserId userId)
  let m ← onStore fun s => .ok (s.newMessage kind)
  changeStore fun s => .ok (s.setMessage m { s.message m with status := status, userId := userId })
  changeStore fun s => .ok (s.assignAll m 0 values)
  return m

def setUserId (m : MessageId) (userId : Int) : Act Unit := do
  let userId ← ofCodec (Store.checkUserId userId)
  changeStore fun s => .ok (s.setMessage m { s.message m with userId := userId })

def install (m : MessageId) (position : Nat) : List Bytes → Act Unit
  | [] => pure ()
  | content :: rest => do
    let b ← copyOf content
    changeStore fun s => .ok (s.assign m position (some b))
    install m (position + 1) rest

/-- **Data are decoded into a message**: what it held is released before the first field moves in. -/
def deserialize (m : MessageId) (data : Bytes) (stop : Option Int) (limit : Int) : Act Unit := do
  let stop ← ofCodec (Envelope.window data stop)
  match ← ofCodec (Envelope.decode ((← get).store.message m).slots.length data stop limit) with
  | .refused => changeStore fun s => .ok (s.setStatus m .invalid)
  | .payload userId contents complete => do
    changeStore fun s => .ok (s.setMessage m { s.message m with userId := userId })
    changeStore fun s => .ok (s.releaseMessage m)
    install m 0 contents
    changeStore fun s => .ok (s.setStatus m (if complete then .ok else .invalid))

/-- The buffer of an operand; data get a new buffer. -/
def operand : Operand → Act (Option BufferId)
  | .nothing => pure none
  | .ref source => do return some (← find (·.resolve source))
  | .data content => do return some (← copyOf content)

def operands : List Operand → Act (List (Option BufferId))
  | [] => pure []
  | first :: rest => do
    let b ← operand first
    return b :: (← operands rest)

/-- What a buffer's content is held against, if it is a buffer's or data. -/
def comparand : Comparand → Act (Option Bytes)
  | .ref other => do
    let b ← find (·.resolve other)
    return some ((← get).store.contents b)
  | .data content => pure (some content)
  | .foreign => pure none

def payload : Payload → Act Bytes
  | .data content => pure content
  | .blob name => find fun w =>
    match w.blobs.lookup name with
    | some content => .ok content
    | none => .error (.unknownName name)

def releaseSubject : MessageId ⊕ BufferId → Act Unit
  | .inl m => changeStore fun s => .ok (s.releaseMessage m)
  | .inr b => changeStore fun s => .ok (s.release b)

/-- **One step, before anything is collected.** -/
def perform : Step → Act Answer
  | .allocate name length => do
    nameBuffer name (← allocate length)
    return .nothing
  | .copyOf name content => do
    nameBuffer name (← copyOf content)
    return .nothing
  | .take source name => do
    let b ← find (·.resolve source)
    nameBuffer name (← onStore fun s => .ok (s.take b))
    return .nothing
  | .moveFrom target source => do
    let b ← find (·.resolve target)
    let other ← find (·.resolve source)
    changeStore fun s => .ok (s.moveFrom b other)
    return .nothing
  | .bind name target => do
    nameBuffer name (← find (·.resolve target))
    return .nothing
  | .drop name => do
    modify fun w => { w with
      buffers := Workspace.unbind w.buffers name
      messages := Workspace.unbind w.messages name
      views := Workspace.unbind w.views name }
    return .nothing
  | .view target name => do
    let b ← find (·.resolve target)
    modify fun w => { w with views := Workspace.rebind w.views name (w.store.buffer b).block }
    return .shown ((← get).store.length b) true
  | .release target => do
    releaseSubject (← find (·.subject target))
    return .nothing
  | .scope target _ => do
    releaseSubject (← find (·.subject target))
    return .flag true
  | .equal target other => do
    let b ← find (·.resolve target)
    let same := (← comparand other) == some ((← get).store.contents b)
    return .flags same !same
  | .length target => do
    let b ← find (·.resolve target)
    return .number ((← get).store.length b)
  | .fieldSize target => do
    let b ← find (·.resolve target)
    return .number (Field.encodedSize ((← get).store.contents b))
  | .duplicate target => do
    let _ ← find (·.resolve target)
    throw .implicitCopy
  | .archive target => do
    let _ ← find (·.resolve target)
    throw .archived
  | .hash target => do
    let _ ← find (·.resolve target)
    throw .unhashable
  | .describe target => do
    match ← find (·.subject target) with
    | .inl m => return .text ((← get).store.envelope m).summary
    | .inr b => return .text (bufferSummary ((← get).store.length b))
  | .construct name kind status userId values => do
    let buffers ← operands values
    let m ← construct kind status userId buffers
    modify fun w => { w with messages := Workspace.rebind w.messages name m }
    return .nothing
  | .setUserId name userId => do
    let m ← find (·.message name)
    setUserId m userId
    return .nothing
  | .setStatus name status => do
    let m ← find (·.message name)
    let status ← ofCodec (Status.ofNumber status)
    changeStore fun s => .ok (s.setStatus m status)
    return .nothing
  | .setField name field value bySetter => do
    let m ← find (·.message name)
    let b ← operand value
    let kind := ((← get).store.message m).kind
    if bySetter && !kind.setters.contains field then throw (.unknownField field)
    match kind.position? field with
    | none => throw (.unknownField field)
    | some position => changeStore fun s => .ok (s.assign m position b)
    return .nothing
  | .size name => do
    let m ← find (·.message name)
    return .number ((← get).store.envelope m).encodedSize
  | .serialize name blob => do
    let m ← find (·.message name)
    let wire ← ofCodec ((← get).store.serialize m)
    if let some blob := blob then modify fun w => { w with blobs := Workspace.rebind w.blobs blob wire }
    return .bytes wire
  | .fieldNames name => do
    let m ← find (·.message name)
    return .names ((← get).store.message m).kind.fields
  | .deserialize name source stop limit => do
    let m ← find (·.message name)
    let data ← payload source
    deserialize m data stop limit
    return .status ((← get).store.message m).status

end Act

namespace Workspace

/-- What a step gives and leaves; a scope that the caller leaves by an error ends in that error. -/
def outcome (w : Workspace) (step : Step) : Except StepError Answer × Workspace :=
  match (Act.perform step).run w, step with
  | (.ok _, after), .scope _ (some text) => (.error (.failed text), after)
  | result, _ => result

/-- **One step, and then the buffers it made unreachable are finalised.** -/
def run (w : Workspace) (step : Step) : Except StepError Answer × Workspace :=
  let (answer, after) := w.outcome step
  (answer, after.collect)

/-- **A row of steps**: the workspace after the last of them. -/
def runs (w : Workspace) : List Step → Workspace
  | [] => w
  | step :: rest => ((w.run step).2).runs rest

def shown (w : Workspace) : Option BlockId → Bytes
  | none => []
  | some i => w.store.block i

end Workspace
end PasswordGate

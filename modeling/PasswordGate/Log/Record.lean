import PasswordGate.Json.OfValue
import PasswordGate.Log.Instant
import PasswordGate.Log.Level
import PasswordGate.Log.Template
/-!
# Record — what is logged, and the line it becomes

A record is a set of attributes.  Most of the standard ones never reach the line; those that do have a field here, and
every attribute that is not a standard one is an extra.  Setting an attribute twice keeps the place of the first setting.

The line is one JSON object: the stamp, the level's name, the logger's name relative to this package, the message, then
the extras if there are any, and the exception if there is one.  Extras whose name starts with an underscore stay out.
-/
namespace PasswordGate

inductive Raised
  | nothing
  | exception (title text : String)
  | foreign
  deriving DecidableEq, Repr

/-- **What is logged.**  The arguments are a tuple, or a mapping that the message's keys look into. -/
structure Record where
  logger : Value
  level : Value
  message : Value
  arguments : Value := .tuple []
  created : Value := .int 0
  raised : Raised := .nothing
  extras : List (String × Value) := []

inductive RecordError
  | instant (cause : InstantError)
  | loggerNotText
  | template (cause : Template.Error)
  | notAnException
  | levelNotJson
  deriving DecidableEq, Repr

namespace Record

/-- The attributes that every record has, which are never extras. -/
def standardKeys : List String :=
  ["name", "msg", "args", "levelname", "levelno", "pathname", "filename", "module", "exc_info", "exc_text",
    "stack_info", "lineno", "funcName", "created", "msecs", "relativeCreated", "thread", "threadName", "processName",
    "process", "message", "asctime"]

/-- A single dictionary that is not empty is the mapping itself. -/
def argumentsOf : List Value → Value
  | [.dict entries] => if entries.isEmpty then .tuple [.dict entries] else .dict entries
  | items => .tuple items

def make (logger : String) (level : Level) (message : Value) (arguments : List Value) : Record :=
  { logger := .text logger, level := .text level.name, message := message, arguments := argumentsOf arguments }

/-- An entry under a key that is there keeps its place. -/
def insert (extras : List (String × Value)) (key : String) (value : Value) : List (String × Value) :=
  if extras.any (·.1 == key) then extras.map fun entry => if entry.1 == key then (key, value) else entry
  else extras ++ [(key, value)]

def set (r : Record) (key : String) (value : Value) : Record :=
  match key with
  | "name" => { r with logger := value }
  | "levelname" => { r with level := value }
  | "msg" => { r with message := value }
  | "args" => { r with arguments := value }
  | "created" => { r with created := value }
  | "exc_info" => { r with raised := if value.isPresent then .foreign else .nothing }
  | key => if standardKeys.contains key then r else { r with extras := insert r.extras key value }

def setAll (r : Record) (attributes : List (String × Value)) : Record :=
  attributes.foldl (fun r entry => r.set entry.1 entry.2) r

/-- A logger's name, relative to the package when it lies in it. -/
def relativeName (name : String) : String :=
  let root := "keyguard."
  if root.toList.isPrefixOf name.toList then String.ofList (name.toList.drop root.length) else name

/-- The message with its arguments filled in; without arguments it stands as it is. -/
def text (r : Record) : Except Template.Error String :=
  if r.arguments.isPresent then Template.render r.message.inWords r.arguments else .ok r.message.inWords

def visibleExtras (r : Record) : List (String × Value) :=
  r.extras.filter fun entry => entry.1.toList.head? != some '_'

/-- The package's own exceptions go by their full names. -/
def qualified (title : String) : String :=
  ([("MessageDecodeError", "keyguard.protocol.fields.MessageDecodeError"),
    ("KeyguardDeviceError", "keyguard.device.KeyguardDeviceError")].lookup title).getD title

/-- What an exception says; a missing key is shown as a literal. -/
def exceptionDetail (title text : String) : String := if title = "KeyError" then Quoted.ofText text else text

def exceptionText (title text : String) : String :=
  let detail := exceptionDetail title text
  if detail = "" then qualified title else qualified title ++ ": " ++ detail

/-- **The members of a record's line**, given its stamp. -/
def members (r : Record) (stamp : String) : Except RecordError (List (String × Json)) := do
  let logger ← match r.logger with
    | .text name => pure (relativeName name)
    | _ => throw .loggerNotText
  let message ← match r.text with
    | .ok text => pure text
    | .error e => throw (.template e)
  let extras := r.visibleExtras.map fun entry => (entry.1, Json.redacted entry.2)
  let exception ← match r.raised with
    | .nothing => pure []
    | .exception title text => pure [("exception", Json.text (exceptionText title text))]
    | .foreign => throw .notAnException
  match Json.ofValue? r.level with
  | none => throw .levelNotJson
  | some level =>
    return [("ts", .text stamp), ("level", level), ("logger", .text logger), ("message", .text message)] ++
      (if extras.isEmpty then [] else [("extra", .object extras)]) ++ exception

def lineAt (r : Record) (stamp : String) : Except RecordError String := do
  return (Json.object (← r.members stamp)).render

def stamp (r : Record) : Except InstantError String := do (← Instant.ofValue r.created).stamp

def line (r : Record) : Except RecordError String :=
  match r.stamp with
  | .error e => .error (.instant e)
  | .ok stamp => r.lineAt stamp

end Record
end PasswordGate

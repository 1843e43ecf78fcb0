import PasswordGate.Log.Record
/-!
# Routing — where lines go, and which records become lines

Lines go to the system log over one of its two sockets, or to the error stream when the environment asks for that or
there is no socket.  The system log gets each line as a datagram with its priority and the program's name in front.

All records go through one handler, at the level that the settings choose; a record below it is dropped.  A record may
not set a standard attribute through its extras.
-/
namespace PasswordGate

/-- The sockets of the system log, in the order they are tried. -/
inductive Socket
  | primary
  | fallback
  deriving DecidableEq, Repr

inductive Sink
  | stream
  | systemLog (socket : Socket)
  deriving DecidableEq, Repr

namespace Sink

def streamVariable : String := "KEYGUARD_LOG_STREAM"

/-- What the system log shows in front of each line. -/
def ident : String := "keyguard: "

/-- The facility of security and authorisation. -/
def facility : Nat := 4

/-- **Where lines go**, by the environment and the sockets that exist. -/
def choose (environment : List (String × String)) (sockets : List Socket) : Sink :=
  if (environment.lookup streamVariable).getD "" ≠ "" then stream
  else
    match [Socket.primary, Socket.fallback].find? sockets.contains with
    | some socket => systemLog socket
    | none => stream

/-- The severity of a level, by its name; one that has no severity counts as a warning. -/
def severity (levelName : String) : Nat :=
  ([("DEBUG", 7), ("INFO", 6), ("WARNING", 4), ("ERROR", 3), ("CRITICAL", 2)].lookup levelName).getD 4

/-- **A line as the system log receives it.** -/
def datagram (levelName line : String) : String :=
  s!"<{facility * 8 + severity levelName}>" ++ ident ++ line ++ "\x00"

end Sink

structure Routing where
  handler : String := "keyguard"
  level : Level
  deriving DecidableEq, Repr

inductive LogError
  | reservedKey (key : String)
  | record (cause : RecordError)
  deriving DecidableEq, Repr

namespace Routing

/-- **The level that the settings choose.** -/
def configure (debugLogging : Bool) : Routing := { level := if debugLogging then Level.debug else Level.info }

def lets (r : Routing) (level : Level) : Bool := r.level ≤ level && 0 < level

/-- The name of a logger; the one without a name is the root. -/
def loggerName (name : String) : String := if name = "" then "root" else name

/-- The record that a logger makes, unless its level is dropped. -/
def record? (r : Routing) (logger : String) (level : Level) (message : Value) (arguments : List Value)
    (extras : List (String × Value)) : Except LogError (Option Record) :=
  if !r.lets level then .ok none
  else
    match extras.find? fun entry => Record.standardKeys.contains entry.1 with
    | some entry => .error (.reservedKey entry.1)
    | none => .ok (some ((Record.make (loggerName logger) level message arguments).setAll extras))

def announcement (r : Routing) : Record :=
  Record.make "keyguard" Level.info (.text "Logging configured at level %s") [.text r.level.name]

end Routing
end PasswordGate

import PasswordGate.Log.Note
import PasswordGate.Settings.Schema
import PasswordGate.Toml.Document
/-!
# Loading — settings from a file

The settings stand in the table `general` of a settings document; nothing else in the document matters.  Without a file,
or without the table, everything has its default.  What was loaded is logged, after a note if there was no file;
nothing is logged when loading fails.
-/
namespace PasswordGate

namespace Loading

inductive File
  | absent
  | directory
  | content (data : Bytes)
  deriving DecidableEq, Repr

inductive Failure
  | directory
  | notText
  | document (cause : Toml.Failure)
  | notATable (path : String)
  | schema (cause : Schema.Failure)
  deriving DecidableEq, Repr

def Failure.message : Failure → String
  | directory => "the path is a directory"
  | notText => "the file is not UTF-8"
  | document .malformed => "the file is not a settings document"
  | document (.tooManyDigits count) =>
    s!"Exceeds the limit ({Toml.maxDigits} digits) for integer string conversion: value has {count} digits; " ++
      "use sys.set_int_max_str_digits() to increase the limit"
  | notATable path => s!"[general] in {path} must be a table"
  | schema (.invalid _) => "the settings are invalid"
  | schema (.hash cause) => cause.message
  | schema (.settings cause) => cause.message

def defaultPath : String := "/etc/keyguard/keyguard.toml"

def tableName : String := "general"

def logger : String := "keyguard.config.settings"

/-- **The table of settings in a document**: empty if there is none. -/
def sectionOf (path : String) (document : Toml.Entries) : Except Failure Toml.Entries :=
  match document.lookup tableName with
  | none => .ok []
  | some (.dict entries) => .ok entries
  | some _ => .error (.notATable path)

def documentOf (data : Bytes) : Except Failure Toml.Entries :=
  match data.toString? with
  | none => .error .notText
  | some text =>
    match Toml.read text with
    | .ok entries => .ok entries
    | .error e => .error (.document e)

def tableOf (path : String) : File → Except Failure Toml.Entries
  | .absent => .ok []
  | .directory => .error .directory
  | .content data => do sectionOf path (← documentOf data)

def settingsOf (entries : Toml.Entries) : Except Failure Settings :=
  match Schema.load (.dict entries) with
  | .ok s => .ok s
  | .error e => .error (.schema e)

def absenceNote (path : String) : Note :=
  { level := Level.info, logger := logger, message := s!"Config file {path} not found; using defaults" }

def loadedNote (path : String) (s : Settings) : Note :=
  { level := Level.debug, logger := logger, message := s!"Loaded runtime config from {path}: " ++ s.summary }

/-- **The settings in a file**, and what is logged on the way. -/
def load (path : String) (file : File) : Except Failure Settings × List Note :=
  let found := if file = .absent then [absenceNote path] else []
  match tableOf path file with
  | .error e => (.error e, found)
  | .ok entries =>
    match settingsOf entries with
    | .error e => (.error e, found)
    | .ok s => (.ok s, found ++ [loadedNote path s])

end Loading
end PasswordGate

import PasswordGate.Inspect.Arguments
import PasswordGate.Inspect.HexText
import PasswordGate.Inspect.Snapshot
/-!
# Command — the inspection tool

The tool summarises one message, given as hex text, as a message of one kind.  It exits with 0 if the message is in
order, with 1 if it is not, and with 2 if the command line or the text is wrong; only then does it write to the error
stream.
-/
namespace PasswordGate

/-- What a run of the tool leaves. -/
structure Outcome where
  exit : Nat
  stdout : String := ""
  stderr : String := ""
  deriving DecidableEq, Repr

namespace Command

def kinds : List String := (Kind.table.map (·.1)).mergeSort

def program : String := "keyguard-msgdebug"

def usage : String :=
  let choices := "\x7benroll-request,enroll-response,verify-request,verify-response\x7d"
  "usage: keyguard-msgdebug [-h] [--json]\n" ++
    "                         " ++ choices ++ "\n" ++
    "                         hex\n"

def helpText : String :=
  usage ++ "\nDecode and summarise a keyguard message.\n\npositional arguments:\n" ++
    "  \x7benroll-request,enroll-response,verify-request,verify-response\x7d\n" ++
    "                        Message kind to decode as\n" ++
    "  hex                   Serialized message as hex (whitespace allowed)\n" ++
    "\noptions:\n" ++
    "  -h, --help            show this help message and exit\n" ++
    "  --json                Emit the snapshot as JSON\n"

def complaint : Arguments.Stop → String
  | .help => ""
  | .ambiguous word candidates => "ambiguous option: " ++ word ++ " could match " ++ ", ".intercalate candidates
  | .ignoredArgument flag text =>
    "argument " ++ flag.display ++ ": ignored explicit argument " ++ Quoted.ofText text
  | .invalidKind text =>
    "argument kind: invalid choice: " ++ Quoted.ofText text ++ " (choose from " ++
      ", ".intercalate (kinds.map Quoted.ofText) ++ ")"
  | .missing names => "the following arguments are required: " ++ ", ".intercalate names
  | .unrecognized words => "unrecognized arguments: " ++ " ".intercalate words
  | .textSwallowed => "the hex argument is missing"

/-- Why the tool breaks off without an exit code of its own. -/
inductive Fault
  | textSwallowed
  | snapshot (cause : SnapshotError)
  deriving DecidableEq, Repr

def Fault.message : Fault → String
  | textSwallowed => complaint .textSwallowed
  | snapshot cause => cause.message

/-- **One request carried out.** -/
def execute (request : Arguments.Request) : Except Fault Outcome :=
  match HexText.parse request.text with
  | .error e => .ok { exit := 2, stderr := "error: " ++ e.message ++ "\n" }
  | .ok raw =>
    match Snapshot.build request.kind raw with
    | .error e => .error (.snapshot e)
    | .ok s =>
      .ok { exit := if s.status = .ok then 0 else 1
            stdout := (if request.json then s.json else s.render) ++ "\n" }

/-- **A run of the tool.** -/
def run (words : List String) : Except Fault Outcome :=
  match Arguments.parse kinds words with
  | .ok request => execute request
  | .error .help => .ok { exit := 0, stdout := helpText }
  | .error .textSwallowed => .error .textSwallowed
  | .error stop => .ok { exit := 2, stderr := usage ++ program ++ ": error: " ++ complaint stop ++ "\n" }

end Command
end PasswordGate

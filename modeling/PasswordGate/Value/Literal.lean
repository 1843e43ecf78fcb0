import PasswordGate.Codec.Envelope
import PasswordGate.Number.Shortest
import PasswordGate.Text.Quoted
import PasswordGate.Value
/-!
# Literals — values as text

`literal` writes a value so that its type can be seen, `text` the way it reads in a sentence: a text is itself, a path is
its normal form and a status is its number; all else is its literal.  Of an owned buffer both show the length alone; of
a view, nothing.
-/
namespace PasswordGate
namespace Value

/-- **Doubles in text**: positional from `0.0001` up to below `10 ^ 16`, otherwise with a signed exponent of two digits at
least. -/
def floatStyle : FloatStyle :=
  { leastPositional := -4, firstExponential := 16, exponentPlus := true, exponentDigits := 2
    infinite := "inf", negativeInfinite := "-inf", nan := "nan" }

/-- The parts of a path between its slashes, but for the empty ones and those that stay in place. -/
def pathParts (written : String) : List String :=
  (written.splitOn "/").filter fun part => part != "" && part != "."

/-- The slashes a path starts with: two stay two, more are one. -/
def pathRoot (written : String) : String :=
  match written.toList with
  | '/' :: '/' :: '/' :: _ => "/"
  | '/' :: '/' :: _ => "//"
  | '/' :: _ => "/"
  | _ => ""

def normalPath (written : String) : String :=
  let body := pathRoot written ++ "/".intercalate (pathParts written)
  if body = "" then "." else body

def boolText (b : Bool) : String := if b then "True" else "False"

def statusLiteral (s : Status) : String := s!"<Status.{s.label}: {s.number}>"

mutual

def literal : Value → String
  | null => "None"
  | bool b => boolText b
  | int n => toString n
  | float x => floatStyle.text x
  | text s => Quoted.ofText s
  | octets data => Quoted.ofBytes data
  | storage data => "bytearray(" ++ Quoted.ofStorage data ++ ")"
  | view _ _ | wordView _ _ => "<memory>"
  | buffer content => bufferSummary content.length
  | status s => statusLiteral s
  | path written => "PosixPath(" ++ Quoted.ofText (normalPath written) ++ ")"
  | moment written => written
  | tuple [item] => "(" ++ literal item ++ ",)"
  | tuple items => "(" ++ ", ".intercalate (literals items) ++ ")"
  | list items => "[" ++ ", ".intercalate (literals items) ++ "]"
  | dict entries => "\x7b" ++ ", ".intercalate (entryLiterals entries) ++ "\x7d"

def literals : List Value → List String
  | [] => []
  | item :: rest => literal item :: literals rest

def entryLiterals : List (String × Value) → List String
  | [] => []
  | (key, value) :: rest => (Quoted.ofText key ++ ": " ++ literal value) :: entryLiterals rest

end

def inWords : Value → String
  | text s => s
  | path written => normalPath written
  | status s => toString s.number
  | value => value.literal

end Value
end PasswordGate

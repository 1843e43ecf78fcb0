import PasswordGate.Bytes.Hex
import PasswordGate.Number.Shortest
import PasswordGate.Text.Quoted
/-!
# JSON text — the compact form

No space between tokens.  Inside a string only the quote, the backslash and the controls below U+0020 are escaped; five of
the controls have a letter, the others four hexadecimal digits.  A double that is not finite is `null`.
-/
namespace PasswordGate

/-- A JSON value; the members of an object stand in the order they are written. -/
inductive Json
  | null
  | bool (b : Bool)
  | int (n : Int)
  | float (x : Double)
  | text (s : String)
  | array (items : List Json)
  | object (members : List (String × Json))
  deriving Inhabited

namespace Json

/-- **Doubles in JSON**: positional from `0.00001` up to below `10 ^ 16`, otherwise with a bare exponent. -/
def floatStyle : FloatStyle :=
  { leastPositional := -5, firstExponential := 16, exponentPlus := false, exponentDigits := 1
    infinite := "null", negativeInfinite := "null", nan := "null" }

def inside (c : Char) : List Char :=
  if c = '"' then ['\\', '"']
  else if c = '\\' then ['\\', '\\']
  else if c = '\x08' then ['\\', 'b']
  else if c = '\t' then ['\\', 't']
  else if c = '\n' then ['\\', 'n']
  else if c = '\x0c' then ['\\', 'f']
  else if c = '\r' then ['\\', 'r']
  else if c.toNat < 32 then '\\' :: 'u' :: Quoted.hexDigits 4 c.toNat
  else [c]

/-- **A string between its quotes.** -/
def quote (s : String) : String := String.ofList ('"' :: s.toList.flatMap inside ++ ['"'])

mutual

/-- **The compact text of a value.** -/
def render : Json → String
  | null => "null"
  | bool b => if b then "true" else "false"
  | int n => toString n
  | float x => floatStyle.text x
  | text s => quote s
  | array items => "[" ++ ",".intercalate (renderItems items) ++ "]"
  | object members => "\x7b" ++ ",".intercalate (renderMembers members) ++ "\x7d"

def renderItems : List Json → List String
  | [] => []
  | item :: rest => render item :: renderItems rest

def renderMembers : List (String × Json) → List String
  | [] => []
  | (key, value) :: rest => (quote key ++ ":" ++ render value) :: renderMembers rest

end

end Json
end PasswordGate

import PasswordGate.Bytes.Base64
import PasswordGate.Json.Text
import PasswordGate.Value.Literal
/-!
# Values in JSON

`Json.ofValue?` carries a value over as it is; octets of every shape become Base64 text, a status its number.  An owned
buffer and a path have no JSON form.  `Json.redacted` is the form in which a value may show in a log line: plain values
stay, anything binary is reduced to its length, and everything else becomes its text.
-/
namespace PasswordGate
namespace Json

mutual

/-- **The JSON form of a value**, if it has one. -/
def ofValue? : Value → Option Json
  | .null => some .null
  | .bool b => some (.bool b)
  | .int n => some (.int n)
  | .float x => some (.float x)
  | .text s => some (.text s)
  | .octets data | .storage data | .view _ data | .wordView _ data => some (.text (String.ofList (Base64.encode data)))
  | .status s => some (.int s.number)
  | .moment written => some (.text written)
  | .buffer _ | .path _ => none
  | .tuple items | .list items => (ofItems? items).map .array
  | .dict entries => (ofEntries? entries).map .object

def ofItems? : List Value → Option (List Json)
  | [] => some []
  | item :: rest => do
    let first ← ofValue? item
    let others ← ofItems? rest
    return first :: others

def ofEntries? : List (String × Value) → Option (List (String × Json))
  | [] => some []
  | (key, value) :: rest => do
    let first ← ofValue? value
    let others ← ofEntries? rest
    return (key, first) :: others

end

/-- Binary data by their length. -/
def byLength (data : Bytes) : Json := .text s!"<{data.length} bytes>"

/-- **A value as it may show in a log line.** -/
def redacted : Value → Json
  | .null => .null
  | .bool b => .bool b
  | .int n => .int n
  | .float x => .float x
  | .text s => .text s
  | .status s => .int s.number
  | .buffer data | .octets data | .storage data | .view _ data | .wordView _ data => byLength data
  | value => .text value.inWords

end Json
end PasswordGate

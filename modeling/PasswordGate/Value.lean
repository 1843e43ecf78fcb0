import PasswordGate.Bytes
import PasswordGate.Codec.Status
import PasswordGate.Number.Double
/-!
# Value — what a log record or a settings document may hold

Settings come as documents of values, and a log record carries values as its message, its arguments and its extras.
Binary data come in four shapes that are told apart only by how they print, read and are looked up: fixed octets, mutable
storage, a view of bytes and a view of four-byte items, either of which may be one that can be written through; a `buffer`
is an owned buffer, of which nothing but its length ever shows.
-/
namespace PasswordGate

inductive Value
  | null
  | bool (b : Bool)
  | int (n : Int)
  | float (x : Double)
  | text (s : String)
  | octets (data : Bytes)
  | storage (data : Bytes)
  | view (writable : Bool) (data : Bytes)
  | wordView (writable : Bool) (data : Bytes)
  | buffer (content : Bytes)
  | status (s : Status)
  | path (written : String)
  | moment (written : String)
  | tuple (items : List Value)
  | list (items : List Value)
  | dict (entries : List (String × Value))
  deriving Inhabited

namespace Value

/-- **The integer that a value is**, for the values that are integers. -/
def integer? : Value → Option Int
  | int n => some n
  | bool b => some (if b then 1 else 0)
  | status s => some s.number
  | _ => none

/-- Nothing, zero and whatever is empty count as absent. -/
def isPresent : Value → Bool
  | null => false
  | bool b => b
  | int n => n != 0
  | float x => !x.isInt 0
  | text s => s != ""
  | octets data | storage data | view _ data | wordView _ data | buffer data => data != []
  | status s => s != .ok
  | path _ | moment _ => true
  | tuple items | list items => !items.isEmpty
  | dict entries => !entries.isEmpty

end Value
end PasswordGate

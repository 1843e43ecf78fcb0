import PasswordGate.Codec.Error
/-!
# Status — the verdict at the head of every message
-/
namespace PasswordGate

/-- A message is in order, or it is not. -/
inductive Status
  | ok
  | invalid
  deriving DecidableEq, Repr

namespace Status

def number : Status → Nat
  | ok => 0
  | invalid => 1

def label : Status → String
  | ok => "OK"
  | invalid => "INVALID"

def all : List Status := [ok, invalid]

/-- **A number off the wire**: zero is in order, anything else is not. -/
def ofWire (number : Int) : Status := if number = 0 then ok else invalid

/-- A number that a caller gives has to be a status's own. -/
def ofNumber (number : Int) : Except CodecError Status :=
  if number = 0 then .ok ok else if number = 1 then .ok invalid else .error (.unknownStatus number)

theorem ofNumber_number (s : Status) : ofNumber s.number = .ok s := by cases s <;> rfl

end Status
end PasswordGate

import PasswordGate.Value
/-!
# Hashes — which values can be looked up among others

A value is looked up by its hash.  What can be changed has none: mutable storage, an owned buffer, a list, a table.  A view
has the hash of its bytes, but refuses to give it while it can be written through, or when its items are wider than a byte.
A tuple has a hash if all its items do, and otherwise fails as the first of them that has none.
-/
namespace PasswordGate

/-- Why a view refuses its hash. -/
inductive HashRefusal
  | writable
  | wideItems
  deriving DecidableEq, Repr

/-- Why a value has no hash: it is of a kind that never has one, or a view refuses it. -/
inductive HashFault
  | unhashable
  | refused (cause : HashRefusal)
  deriving DecidableEq, Repr

namespace HashRefusal

def message : HashRefusal → String
  | writable => "cannot hash writable memoryview object"
  | wideItems => "memoryview: hashing is restricted to formats 'B', 'b' or 'c'"

end HashRefusal

namespace Value

mutual

/-- **Why a value has no hash**, if it has none. -/
def hashFault? : Value → Option HashFault
  | storage _ | buffer _ | list _ | dict _ => some .unhashable
  | view true _ | wordView true _ => some (.refused .writable)
  | wordView false _ => some (.refused .wideItems)
  | tuple items => firstFault? items
  | view false _ | null | bool _ | int _ | float _ | text _ | octets _ | status _ | path _ | moment _ => none

def firstFault? : List Value → Option HashFault
  | [] => none
  | item :: rest => (hashFault? item).or (firstFault? rest)

end

end Value
end PasswordGate

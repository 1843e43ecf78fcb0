/-!
# Counters — requests handled and requests rejected

Requests are counted by operation, rejections by operation and reason; the counts stand in the order in which their
labels were first used.
-/
namespace PasswordGate

/-- **Requests by operation, rejections by operation and reason.** -/
structure Counters where
  requests : List (String × Nat) := []
  rejections : List ((String × String) × Nat) := []
  deriving DecidableEq, Repr

namespace Counters

/-- One more under a label; a label that is new goes last. -/
def bump {α : Type} [BEq α] : List (α × Nat) → α → List (α × Nat)
  | [], label => [(label, 1)]
  | (other, count) :: rest, label =>
    if other == label then (other, count + 1) :: rest else (other, count) :: bump rest label

/-- The count under a label; zero if the label was never used. -/
def count {α : Type} [BEq α] (counts : List (α × Nat)) (label : α) : Nat := (counts.lookup label).getD 0

def recordRequest (c : Counters) (operation : String) : Counters :=
  { c with requests := bump c.requests operation }

def recordRejection (c : Counters) (operation reason : String) : Counters :=
  { c with rejections := bump c.rejections (operation, reason) }

def requestCount (c : Counters) (operation : String) : Nat := count c.requests operation

def rejectionCount (c : Counters) (operation reason : String) : Nat := count c.rejections (operation, reason)

end Counters
end PasswordGate

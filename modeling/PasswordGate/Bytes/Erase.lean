import PasswordGate.Bytes
/-!
# Erase — overwriting a secret with zeros

What is erased is a `Target` over a block of storage: the whole block, a `View` of it, or bytes that cannot be changed.
A view shows evenly spaced items; the overwrite runs over as many bytes as the items hold, from the first item on, so
only a view without gaps may be erased.  An empty target is left alone before anything is checked.
-/
namespace PasswordGate

/-- Evenly spaced items of a block: `count` items of `width` bytes, the first at `start`, each `step` items further. -/
structure View where
  start : Nat
  step : Int := 1
  count : Nat
  width : Nat := 1
  writable : Bool := true
  deriving DecidableEq, Repr

namespace View

/-- A view of a whole block as items of the given width. -/
def whole (size width : Nat) : View := { start := 0, count := size / width, width := width }

/-- Where a slice with a step starts: an absent start means the end that the step leads away from. -/
def sliceStart (size : Nat) (start : Option Int) (step : Int) : Int :=
  match start with
  | none => if step < 0 then size - 1 else 0
  | some i =>
    if i < 0 then max (i + size) (if step < 0 then -1 else 0)
    else min i (if step < 0 then size - 1 else size)

/-- Where a slice with a step stops, the stop itself being left out. -/
def sliceStop (size : Nat) (stop : Option Int) (step : Int) : Int :=
  match stop with
  | none => if step < 0 then -1 else size
  | some i =>
    if i < 0 then max (i + size) (if step < 0 then -1 else 0)
    else min i (if step < 0 then size - 1 else size)

def sliceCount (first last step : Int) : Nat :=
  if step < 0 then (if last < first then ((first - last - 1) / (-step) + 1).toNat else 0)
  else (if first < last then ((last - first - 1) / step + 1).toNat else 0)

/-- **A slice with a step of a block of single bytes**; there is none with step zero. -/
def slice? (size : Nat) (start stop step : Option Int) : Option View :=
  let step := step.getD 1
  if step = 0 then none
  else
    let first := sliceStart size start step
    some { start := first.toNat, step := step, count := sliceCount first (sliceStop size stop step) step }

def size (v : View) : Nat := v.count * v.width

/-- A view without gaps: its items follow each other, or there is at most one. -/
def contiguous (v : View) : Bool := v.step == 1 || v.count ≤ 1

end View

inductive Target
  | storage
  | view (shown : View)
  | immutable
  deriving DecidableEq, Repr

inductive EraseError
  | readOnlyView
  | notContiguous
  | immutable
  deriving DecidableEq, Repr

namespace EraseError

def message : EraseError → String
  | readOnlyView => "cannot zero a read-only memoryview"
  | notContiguous => "the view is not contiguous"
  | immutable => "the bytes are not writable"

end EraseError

namespace Bytes

/-- Zeros over `count` bytes from `start` on; nothing past the end of the data. -/
def blank (data : Bytes) (start count : Nat) : Bytes :=
  data.take start ++ zeros (min count (data.length - start)) ++ data.drop (start + count)

/-- **The storage after its target has been erased**, or why it was not. -/
def erase (data : Bytes) : Target → Except EraseError Bytes
  | .storage => .ok (data.blank 0 data.length)
  | .immutable => if data.length = 0 then .ok data else .error .immutable
  | .view v =>
    if v.count = 0 then .ok data
    else if !v.writable then .error .readOnlyView
    else if !v.contiguous then .error .notContiguous
    else .ok (data.blank v.start v.size)

end Bytes
end PasswordGate

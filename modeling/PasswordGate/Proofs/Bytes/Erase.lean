import PasswordGate.Bytes.Erase
import PasswordGate.Proofs.Running
/-!
# Erasure — a target is wiped exactly, or left alone

A caller has a `Handle` on a block of storage: the block itself, bytes that cannot be changed, a view of it as items of some
width, or a view of a `Slice` of its bytes.  Which bytes a handle covers is said without the view that is made for it: those
of a slice are the positions it selects, from its first one on a stride apart, and the view shows just these
(`View.covers_slice`).

A view without gaps covers one range, which is what is overwritten (`View.covers_iff_of_contiguous`).  The overwrite goes byte
by byte, after checks that may end it (`wipe`), and leaves what `erase` says (`erase_exact`).
-/
namespace PasswordGate

/-! ## Slices -/

/-- **A slice as it is written**: a start, a stop and a step, each of which may be absent. -/
structure Slice where
  start : Option Int := none
  stop : Option Int := none
  step : Option Int := none
  deriving DecidableEq, Repr

namespace Slice

variable {slice : Slice} {size : Nat}

def stride (slice : Slice) : Int := slice.step.getD 1

/-- An index counts from the end if it is negative, and is then moved to the nearest place where a slice of that stride can
start or stop. -/
def place (size : Nat) (stride index : Int) : Int :=
  let index := if index < 0 then index + size else index
  if 0 < stride then max 0 (min size index) else max (-1) (min (size - 1) index)

def first (slice : Slice) (size : Nat) : Int :=
  match slice.start with
  | none => if 0 < slice.stride then 0 else size - 1
  | some index => place size slice.stride index

def last (slice : Slice) (size : Nat) : Int :=
  match slice.stop with
  | none => if 0 < slice.stride then size else -1
  | some index => place size slice.stride index

/-- **The positions in a slice** of so many bytes: from the first one on, a stride apart, before the last one is reached. -/
def Selects (slice : Slice) (size position : Nat) : Prop :=
  ∃ n : Nat, (position : Int) = slice.first size + n * slice.stride ∧
    if 0 < slice.stride then (position : Int) < slice.last size else slice.last size < position

theorem sliceStart_eq (h : slice.stride ≠ 0) : View.sliceStart size slice.start slice.stride = slice.first size := by
  unfold first View.sliceStart place
  cases slice.start <;> dsimp only <;> split <;> split <;> omega

theorem sliceStop_eq (h : slice.stride ≠ 0) : View.sliceStop size slice.stop slice.stride = slice.last size := by
  unfold last View.sliceStop place
  cases slice.stop <;> dsimp only <;> split <;> split <;> omega

/-- Going up, a slice starts nowhere before the block and stops nowhere behind it; going down, it starts before the block's
end and stops at most one place before the block. -/
theorem bounds (slice : Slice) (size : Nat) :
    (0 < slice.stride → 0 ≤ slice.first size ∧ slice.last size ≤ size) ∧
    (slice.stride < 0 → slice.first size < size ∧ -1 ≤ slice.last size) := by
  unfold first last place
  cases slice.start <;> cases slice.stop <;> dsimp only <;> omega

/-- Items are counted up to the last place that is not reached. -/
theorem lt_sliceCount_iff {first last stride : Int} (h : stride ≠ 0) (item : Nat) :
    item < View.sliceCount first last stride ↔
      if 0 < stride then first + item * stride < last else last < first + item * stride := by
  unfold View.sliceCount
  -- the quotient turns into a product with the item, which is linear for each of the two signs
  by_cases hup : 0 < stride
  · have hle : (item : Int) ≤ (last - first - 1) / stride ↔ item * stride ≤ last - first - 1 :=
      Int.le_ediv_iff_mul_le hup
    have hnonneg : 0 ≤ (item : Int) * stride := Int.mul_nonneg (Int.natCast_nonneg _) (Int.le_of_lt hup)
    rw [if_neg (by omega), if_pos hup]
    split <;> omega
  · have hle : (item : Int) ≤ (first - last - 1) / -stride ↔ item * -stride ≤ first - last - 1 :=
      Int.le_ediv_iff_mul_le (by omega)
    have hnonneg : 0 ≤ (item : Int) * -stride := Int.mul_nonneg (Int.natCast_nonneg _) (by omega)
    rw [Int.mul_neg] at hle hnonneg
    rw [if_pos (by omega), if_neg hup]
    split <;> omega

/-- **A slice whose stride is not zero has a view**, which starts where the slice does if it shows anything, goes by the
slice's stride, and shows as many single bytes as the slice counts. -/
theorem slice?_eq_some_iff {v : View} : View.slice? size slice.start slice.stop slice.step = some v ↔
    slice.stride ≠ 0 ∧ v = { start := (slice.first size).toNat, step := slice.stride
                             count := View.sliceCount (slice.first size) (slice.last size) slice.stride } := by
  unfold View.slice?
  rw [← stride]
  dsimp only
  by_cases hstride : slice.stride = 0
  · rw [if_pos hstride]
    exact iff_of_false (Option.some_ne_none v).symm fun h => h.1 hstride
  · rw [if_neg hstride, sliceStart_eq hstride, sliceStop_eq hstride, Option.some.injEq]
    exact ⟨fun h => ⟨hstride, h.symm⟩, fun h => h.2.symm⟩

/-- **What a slice counts lies in the block.** -/
theorem inside (h : slice.stride ≠ 0) {item : Nat}
    (hitem : item < View.sliceCount (slice.first size) (slice.last size) slice.stride) :
    0 ≤ slice.first size + item * slice.stride ∧ slice.first size + item * slice.stride < size := by
  obtain ⟨hup, hdown⟩ := slice.bounds size
  rw [lt_sliceCount_iff h] at hitem
  split at hitem
  · rename_i hstride
    have hnonneg : 0 ≤ (item : Int) * slice.stride := Int.mul_nonneg (Int.natCast_nonneg _) (Int.le_of_lt hstride)
    have hfirst := hup hstride
    omega
  · rename_i hstride
    have hnonneg : 0 ≤ (item : Int) * -slice.stride := Int.mul_nonneg (Int.natCast_nonneg _) (by omega)
    have hfirst := hdown (by omega)
    rw [Int.mul_neg] at hnonneg
    omega

theorem Selects.lt {position : Nat} (h : slice.Selects size position) (hstride : slice.stride ≠ 0) : position < size := by
  obtain ⟨item, hposition, hreached⟩ := h
  rw [hposition] at hreached
  have hinside := inside hstride ((lt_sliceCount_iff hstride item).2 hreached)
  omega

/-- **One item is counted at most exactly if two positions are never selected.** -/
theorem sliceCount_le_one_iff (hstride : slice.stride ≠ 0) :
    View.sliceCount (slice.first size) (slice.last size) slice.stride ≤ 1 ↔
      ∀ position other, slice.Selects size position → slice.Selects size other → position = other := by
  constructor
  · rintro hcount position other ⟨item, hposition, hreached⟩ ⟨item', hother, hreached'⟩
    rw [hposition] at hreached
    rw [hother] at hreached'
    have hitem := (lt_sliceCount_iff hstride item).2 hreached
    have hitem' := (lt_sliceCount_iff hstride item').2 hreached'
    obtain rfl : item = item' := by omega
    omega
  · intro hsame
    refine Nat.le_of_not_lt fun hcount => hstride ?_
    -- the first two items would both be selected, a stride apart
    have hselects (item : Nat) (hitem : item < 2) :
        slice.Selects size (slice.first size + item * slice.stride).toNat := by
      have hlt := Nat.lt_of_lt_of_le hitem hcount
      have hnat : ((slice.first size + item * slice.stride).toNat : Int) = slice.first size + item * slice.stride :=
        Int.toNat_of_nonneg (inside hstride hlt).1
      refine ⟨item, hnat, ?_⟩
      rw [hnat]
      exact (lt_sliceCount_iff hstride item).1 hlt
    have hzero := hsame _ _ (hselects 0 (by decide)) (hselects 1 (by decide))
    have hfirst := inside hstride (Nat.lt_of_lt_of_le Nat.zero_lt_two hcount)
    have hsecond := inside hstride (Nat.lt_of_lt_of_le Nat.one_lt_two hcount)
    omega

end Slice

namespace View

variable {v : View} {size position : Nat}

/-- **A byte that one of a view's items holds.** -/
def Covers (v : View) (position : Nat) : Prop :=
  ∃ item < v.count, ∃ offset < v.width, (position : Int) = v.start + item * (v.step * v.width) + offset

/-- **A view of a slice covers the positions that the slice selects.** -/
theorem covers_slice {slice : Slice} (h : slice? size slice.start slice.stop slice.step = some v) (position : Nat) :
    v.Covers position ↔ slice.Selects size position := by
  obtain ⟨hstride, rfl⟩ := Slice.slice?_eq_some_iff.1 h
  have hstart {item : Nat} (hitem : item < sliceCount (slice.first size) (slice.last size) slice.stride) :
      ((slice.first size).toNat : Int) = slice.first size := by
    have hfirst := Slice.inside hstride (Nat.lt_of_le_of_lt (Nat.zero_le item) hitem)
    omega
  constructor
  · rintro ⟨item, hitem, offset, hoffset, hposition⟩
    obtain rfl : offset = 0 := Nat.lt_one_iff.1 hoffset
    dsimp only at hitem hposition
    rw [hstart hitem, Int.natCast_one, Int.mul_one, Int.natCast_zero, Int.add_zero] at hposition
    refine ⟨item, hposition, ?_⟩
    rw [hposition]
    exact (Slice.lt_sliceCount_iff hstride item).1 hitem
  · rintro ⟨item, hposition, hreached⟩
    rw [hposition] at hreached
    have hitem := (Slice.lt_sliceCount_iff hstride item).2 hreached
    refine ⟨item, hitem, 0, Nat.one_pos, ?_⟩
    rw [hstart hitem, hposition, Int.natCast_one, Int.mul_one, Int.natCast_zero, Int.add_zero]

/-- Items that follow each other hold one range. -/
theorem covers_iff_of_step (hstep : v.step = 1) :
    v.Covers position ↔ v.start ≤ position ∧ position < v.start + v.size := by
  unfold Covers size
  rw [hstep, Int.one_mul]
  constructor
  · rintro ⟨item, hitem, offset, hoffset, hposition⟩
    have hend : (item + 1) * v.width ≤ v.count * v.width := Nat.mul_le_mul_right _ hitem
    rw [Nat.succ_mul] at hend
    omega
  · rintro ⟨hle, hlt⟩
    have hwidth : 0 < v.width := Nat.pos_of_ne_zero fun hzero => by rw [hzero] at hlt; omega
    have hsplit := Nat.div_add_mod' (position - v.start) v.width
    refine ⟨(position - v.start) / v.width, ?_, (position - v.start) % v.width, Nat.mod_lt _ hwidth, ?_⟩
    · exact (Nat.div_lt_iff_lt_mul hwidth).2 (by omega)
    · omega

/-- A single item holds one range, whatever the step. -/
theorem covers_iff_of_single (hcount : v.count = 1) :
    v.Covers position ↔ v.start ≤ position ∧ position < v.start + v.size := by
  unfold Covers size
  rw [hcount]
  constructor
  · rintro ⟨item, hitem, offset, hoffset, hposition⟩
    obtain rfl : item = 0 := by omega
    omega
  · rintro ⟨hle, hlt⟩
    exact ⟨0, Nat.one_pos, position - v.start, by omega, by omega⟩

/-- **A view without gaps covers one range**, as wide as its items together. -/
theorem covers_iff_of_contiguous (hcount : v.count ≠ 0) (h : v.contiguous = true) :
    v.Covers position ↔ v.start ≤ position ∧ position < v.start + v.size := by
  rw [contiguous, Bool.or_eq_true, beq_iff_eq, decide_eq_true_iff] at h
  obtain hstep | hle := h
  · exact covers_iff_of_step hstep
  · exact covers_iff_of_single (by omega)

theorem exists_covers (hwidth : 0 < v.width) : (∃ position, v.Covers position) ↔ v.count ≠ 0 := by
  constructor
  · rintro ⟨position, item, hitem, -⟩
    omega
  · intro hcount
    exact ⟨v.start, 0, Nat.pos_of_ne_zero hcount, 0, hwidth, by simp⟩

/-- A view without gaps that shows bytes of a block ends inside it. -/
theorem end_le_of_covers (hcontiguous : v.contiguous = true) (hwidth : 0 < v.width) (hcount : v.count ≠ 0)
    (hinside : ∀ position, v.Covers position → position < size) : v.start + v.size ≤ size := by
  have hpos : 0 < v.size := Nat.mul_pos (Nat.pos_of_ne_zero hcount) hwidth
  have hlast := hinside (v.start + v.size - 1) ((covers_iff_of_contiguous hcount hcontiguous).2 (by omega))
  omega

end View

/-! ## The overwrite, byte by byte -/

namespace Bytes

variable {data : Bytes} {start count position : Nat}

@[simp] theorem length_blank (data : Bytes) (start count : Nat) : (data.blank start count).length = data.length := by
  simp only [blank, List.length_append, List.length_take, length_zeros, List.length_drop]
  omega

theorem getElem?_blank (data : Bytes) (start count position : Nat) : (data.blank start count)[position]? =
    if start ≤ position ∧ position < start + count ∧ position < data.length then some 0 else data[position]? := by
  simp only [blank, List.append_assoc, List.getElem?_append, List.length_take, zeros, List.getElem?_take,
    List.getElem?_replicate, List.getElem?_drop, List.length_replicate]
  grind

theorem blank_zero (data : Bytes) (start : Nat) : data.blank start 0 = data := by
  simp [blank, zeros]

theorem blank_succ (data : Bytes) (start count : Nat) :
    blank (data.set start 0) (start + 1) count = data.blank start (count + 1) := by
  apply List.ext_getElem?
  intro position
  rw [getElem?_blank, getElem?_blank, List.getElem?_set, List.length_set]
  grind

/-- What ends an overwrite: it is refused, or would leave the storage. -/
inductive Stop
  | refused (cause : EraseError)
  | outside (position : Nat)
  deriving DecidableEq, Repr

/-- **An overwrite under way** changes the storage as it goes. -/
abbrev Wiping (α : Type) := ExceptT Stop (StateM Bytes) α

/-- **Zeros over so many bytes**, front to back. -/
def fill (start : Nat) : Nat → Wiping Unit
  | 0 => pure ()
  | count + 1 => do
    if (← get).length ≤ start then throw (.outside start)
    modify fun data => data.set start 0
    fill (start + 1) count

/-- **The steps of an erasure**: the checks in their order, and then the overwrite. -/
def wipe : Target → Wiping Unit
  | .storage => do fill 0 (← get).length
  | .immutable => do if (← get).length ≠ 0 then throw (.refused .immutable)
  | .view v => do
    if v.count = 0 then return
    if !v.writable then throw (.refused .readOnlyView)
    if !v.contiguous then throw (.refused .notContiguous)
    fill v.start v.size

theorem run_fill : ∀ (count : Nat) {start : Nat} {data : Bytes}, start + count ≤ data.length →
    (fill start count).run data = (.ok (), data.blank start count)
  | 0, start, data, _ => by
    rw [blank_zero]
    rfl
  | count + 1, start, data, h => by
    have hstep : (fill start (count + 1)).run data = (fill (start + 1) count).run (data.set start 0) := by
      rw [fill, Running.run_bind_of_ok (show (get : Wiping Bytes).run data = (.ok data, data) from rfl), if_neg (by omega)]
      rfl
    rw [hstep, run_fill count (by rw [List.length_set]; omega), blank_succ]

/-- **Wiped exactly**: the bytes that are covered are zero, all others are as they were. -/
structure Wiped (covers : Nat → Prop) (data after : Bytes) : Prop where
  length : after.length = data.length
  covered : ∀ position, covers position → after[position]? = some 0
  others : ∀ position, ¬ covers position → after[position]? = data[position]?

/-- **An erasure that covers some bytes and may be allowed to write them**: it returns exactly if it covers none or is
allowed, and then has wiped them exactly; where it is refused, nothing has been written. -/
structure Exact (covers : Nat → Prop) (allowed : Prop) (data : Bytes) (target : Target) : Prop where
  returns : (∃ after, data.erase target = .ok after) ↔ (∀ position, ¬ covers position) ∨ allowed
  wiped : ∀ after, data.erase target = .ok after → (wipe target).run data = (.ok (), after) ∧ Wiped covers data after
  untouched : ∀ e, data.erase target = .error e → (wipe target).run data = (.error (.refused e), data)

section Exact

variable {covers : Nat → Prop} {allowed : Prop} {target : Target}

theorem Exact.congr {covers' : Nat → Prop} {allowed' : Prop} (h : Exact covers allowed data target)
    (hcovers : ∀ position, covers position ↔ covers' position) (hallowed : allowed ↔ allowed') :
    Exact covers' allowed' data target := by
  obtain rfl : covers = covers' := funext fun position => propext (hcovers position)
  obtain rfl : allowed = allowed' := propext hallowed
  exact h

theorem exact_of_none (hnone : ∀ position, ¬ covers position) (herase : data.erase target = .ok data)
    (hrun : (wipe target).run data = (.ok (), data)) : Exact covers allowed data target := by
  refine ⟨iff_of_true ⟨data, herase⟩ (.inl hnone), fun after hafter => ?_, fun e he => ?_⟩
  · rw [herase] at hafter
    cases hafter
    exact ⟨hrun, rfl, fun position hposition => absurd hposition (hnone position), fun _ _ => rfl⟩
  · rw [herase] at he
    cases he

theorem exact_of_refused {cause : EraseError} (hsome : ∃ position, covers position) (hnot : ¬ allowed)
    (herase : data.erase target = .error cause) (hrun : (wipe target).run data = (.error (.refused cause), data)) :
    Exact covers allowed data target := by
  have hfails (after : Bytes) : data.erase target ≠ .ok after := by simp [herase]
  refine ⟨iff_of_false (not_exists.2 hfails) ?_, fun after hafter => absurd hafter (hfails after), fun e he => ?_⟩
  · exact not_or.2 ⟨fun hnone => hsome.elim hnone, hnot⟩
  · rw [herase] at he
    cases he
    exact hrun

/-- What is covered by one range of the storage is wiped by zeros over it. -/
theorem exact_of_range (hallowed : allowed)
    (hcovers : ∀ position, covers position ↔ start ≤ position ∧ position < start + count)
    (hend : start + count ≤ data.length) (herase : data.erase target = .ok (data.blank start count))
    (hrun : (wipe target).run data = (fill start count).run data) : Exact covers allowed data target := by
  refine ⟨iff_of_true ⟨_, herase⟩ (.inr hallowed), fun after hafter => ?_, fun e he => ?_⟩
  · rw [herase] at hafter
    cases hafter
    refine ⟨hrun.trans (run_fill count hend), length_blank _ _ _, fun position hposition => ?_, fun position hposition => ?_⟩
    · have hrange := (hcovers position).1 hposition
      rw [getElem?_blank, if_pos ⟨hrange.1, hrange.2, by omega⟩]
    · rw [hcovers] at hposition
      rw [getElem?_blank, if_neg fun h => hposition ⟨h.1, h.2.1⟩]
  · rw [herase] at he
    cases he

end Exact

/-- **A view that lies in the storage is erased exactly.** -/
theorem exact_view {v : View} (hwidth : 0 < v.width) (hinside : ∀ position, v.Covers position → position < data.length) :
    Exact v.Covers (v.writable = true ∧ v.contiguous = true) data (.view v) := by
  by_cases hcount : v.count = 0
  · have hnone : ∀ position, ¬ v.Covers position := by
      rw [← not_exists, v.exists_covers hwidth, Classical.not_not]
      exact hcount
    refine exact_of_none hnone ?_ ?_
    · rw [erase, if_pos hcount]
    · rw [wipe, if_pos hcount]
      rfl
  have hsome := (v.exists_covers hwidth).2 hcount
  cases hwritable : v.writable with
  | false =>
    have herase : data.erase (.view v) = .error .readOnlyView := by
      rw [erase, if_neg hcount, hwritable]
      rfl
    refine exact_of_refused hsome (by simp) herase ?_
    rw [wipe, if_neg hcount, hwritable]
    rfl
  | true =>
    cases hcontiguous : v.contiguous with
    | false =>
      have herase : data.erase (.view v) = .error .notContiguous := by
        rw [erase, if_neg hcount, hwritable, hcontiguous]
        rfl
      refine exact_of_refused hsome (by simp) herase ?_
      rw [wipe, if_neg hcount, hwritable, hcontiguous]
      rfl
    | true =>
      refine exact_of_range ⟨rfl, rfl⟩ (fun _ => View.covers_iff_of_contiguous hcount hcontiguous)
        (v.end_le_of_covers hcontiguous hwidth hcount hinside) ?_ ?_
      · rw [erase, if_neg hcount, hwritable, hcontiguous]
        rfl
      · rw [wipe, if_neg hcount, hwritable, hcontiguous]
        rfl

theorem exact_storage (data : Bytes) : Exact (· < data.length) True data .storage := by
  refine exact_of_range trivial (fun position => ?_) (Nat.le_of_eq (Nat.zero_add data.length)) rfl ?_
  · omega
  · rw [wipe, Running.run_bind_of_ok (show (get : Wiping Bytes).run data = (.ok data, data) from rfl)]

theorem exact_immutable (data : Bytes) : Exact (· < data.length) False data .immutable := by
  have hrun : (wipe .immutable).run data =
      (if data.length ≠ 0 then throw (Stop.refused .immutable) else pure () : Wiping Unit).run data := by
    rw [wipe, Running.run_bind_of_ok (show (get : Wiping Bytes).run data = (.ok data, data) from rfl)]
  by_cases hempty : data.length = 0
  · refine exact_of_none (by simp [hempty]) ?_ ?_
    · rw [erase, if_pos hempty]
    · rw [hrun, if_neg (by simp [hempty])]
      rfl
  · have herase : data.erase .immutable = .error .immutable := by rw [erase, if_neg hempty]
    refine exact_of_refused ⟨0, Nat.pos_of_ne_zero hempty⟩ id herase ?_
    rw [hrun, if_pos hempty]
    rfl

end Bytes

/-! ## Handles -/

/-- **What a caller has of a block of storage**: the block itself, bytes that cannot be changed, a view of all of it as items
of some width, or a view of a slice of its bytes. -/
inductive Handle
  | storage
  | immutable
  | items (width : Nat) (writable : Bool)
  | slice (positions : Slice) (writable : Bool)
  deriving DecidableEq, Repr

namespace Handle

variable {handle : Handle} {size : Nat} {v : View}

/-- The target that a handle makes; items have to fill the block, and a step must not be zero. -/
def target? (size : Nat) : Handle → Option Target
  | storage => some .storage
  | immutable => some .immutable
  | items width writable =>
    if 0 < width ∧ size % width = 0 then some (.view { View.whole size width with writable := writable }) else none
  | slice positions writable =>
    (View.slice? size positions.start positions.stop positions.step).map fun v => .view { v with writable := writable }

/-- **The bytes that a handle covers.** -/
def Covers (size : Nat) : Handle → Nat → Prop
  | slice positions _, position => positions.Selects size position
  | _, position => position < size

def Writable : Handle → Prop
  | storage => True
  | immutable => False
  | items _ writable | slice _ writable => writable = true

/-- Bytes without gaps: of a slice, those a stride of one apart, or one byte at most. -/
def Contiguous (size : Nat) : Handle → Prop
  | slice positions _ => positions.stride = 1 ∨
      ∀ position other, positions.Selects size position → positions.Selects size other → position = other
  | _ => True

/-- **A view shows what a handle covers**, all of it in the block. -/
structure Shows (handle : Handle) (size : Nat) (v : View) : Prop where
  width_pos : 0 < v.width
  covers : ∀ position, v.Covers position ↔ handle.Covers size position
  inside : ∀ position, v.Covers position → position < size
  writable : v.writable = true ↔ handle.Writable
  contiguous : v.contiguous = true ↔ handle.Contiguous size

theorem shows_items {width : Nat} (hwidth : 0 < width) (hsize : size % width = 0) (writable : Bool) :
    (items width writable).Shows size { View.whole size width with writable := writable } := by
  have hcovers (position : Nat) : View.Covers { View.whole size width with writable := writable } position ↔
      position < size := by
    rw [View.covers_iff_of_step rfl]
    show 0 ≤ position ∧ position < 0 + size / width * width ↔ _
    rw [Nat.div_mul_cancel (Nat.dvd_of_mod_eq_zero hsize), Nat.zero_add]
    omega
  exact ⟨hwidth, hcovers, fun position => (hcovers position).1, Iff.rfl, iff_of_true rfl trivial⟩

theorem shows_slice {positions : Slice} (h : View.slice? size positions.start positions.stop positions.step = some v)
    (writable : Bool) : (slice positions writable).Shows size { v with writable := writable } := by
  have hcovers := View.covers_slice h
  obtain ⟨hstride, rfl⟩ := Slice.slice?_eq_some_iff.1 h
  refine ⟨Nat.one_pos, hcovers, fun position hposition => ((hcovers position).1 hposition).lt hstride, Iff.rfl, ?_⟩
  rw [View.contiguous, Bool.or_eq_true, beq_iff_eq, decide_eq_true_iff]
  exact or_congr Iff.rfl (Slice.sliceCount_le_one_iff hstride)

end Handle

namespace Bytes

/-- **A target is erased exactly, or the storage is left as it was.**  The handle may be the storage itself, bytes that cannot
be changed, a view of items of any width, or a view of any slice of bytes.  An erasure of it returns exactly if nothing is
covered, or what is covered can be written and has no gaps; and then the bytes that are covered are zero and all others
are as they were.  So do the steps of the erasure leave the storage, none of them outside it, and where they are refused
nothing has been written. -/
theorem erase_exact (data : Bytes) (handle : Handle) (target : Target) (hmade : handle.target? data.length = some target) :
    Exact (handle.Covers data.length) (handle.Writable ∧ handle.Contiguous data.length) data target := by
  have hshown {v : View} (hshows : handle.Shows data.length v) :
      Exact (handle.Covers data.length) (handle.Writable ∧ handle.Contiguous data.length) data (.view v) :=
    (exact_view hshows.width_pos hshows.inside).congr hshows.covers (and_congr hshows.writable hshows.contiguous)
  cases handle with
  | storage =>
    obtain rfl := Option.some.inj hmade
    exact (exact_storage data).congr (fun _ => Iff.rfl) (iff_of_true trivial ⟨trivial, trivial⟩)
  | immutable =>
    obtain rfl := Option.some.inj hmade
    exact (exact_immutable data).congr (fun _ => Iff.rfl) (iff_of_false id And.left)
  | items width writable =>
    obtain ⟨⟨hwidth, hsize⟩, hview⟩ := Option.ite_none_right_eq_some.1 hmade
    obtain rfl := Option.some.inj hview
    exact hshown (Handle.shows_items hwidth hsize writable)
  | slice positions writable =>
    obtain ⟨v, hslice, rfl⟩ := Option.map_eq_some_iff.1 hmade
    exact hshown (Handle.shows_slice hslice writable)

/-- A slice that goes down from the last byte but one by nine holds that byte alone. -/
theorem erase_exact_single : Wiped (Handle.Covers 6 (.slice { start := some (-2), step := some (-9) } true))
    [1, 2, 3, 4, 5, 6] [1, 2, 3, 4, 0, 6] :=
  ((erase_exact [1, 2, 3, 4, 5, 6] (.slice { start := some (-2), step := some (-9) } true) _ rfl).wiped _ rfl).2

end Bytes
end PasswordGate

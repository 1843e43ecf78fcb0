import PasswordGate.Counters.Exposition
/-!
# Counting — what a record adds, and the sample that shows it

A label that is bumped is counted once more and every other label as before.  A collector reads the counts off the samples
of the exposition, where each of them has the labels it was recorded under (`value_requests`, `value_rejections`).
-/
namespace PasswordGate

namespace Counters

theorem count_cons {α : Type} [BEq α] (label other : α) (n : Nat) (rest : List (α × Nat)) :
    count ((other, n) :: rest) label = if label == other then n else count rest label := by
  unfold count
  rw [List.lookup_cons]
  cases label == other <;> rfl

/-- **One more under a label**, and no more under any other. -/
theorem count_bump {α : Type} [BEq α] [LawfulBEq α] (label x : α) : ∀ counts : List (α × Nat),
    count (bump counts label) x = count counts x + if x == label then 1 else 0
  | [] => by
    rw [bump, count_cons]
    exact (Nat.zero_add _).symm
  | (other, n) :: rest => by
    unfold bump
    by_cases hother : other == label
    · rw [if_pos hother, count_cons, count_cons, eq_of_beq hother]
      by_cases hx : x == label
      · rw [if_pos hx, if_pos hx, if_pos hx]
      · rw [if_neg hx, if_neg hx, if_neg hx, Nat.add_zero]
    · rw [if_neg hother, count_cons, count_cons, count_bump label x rest]
      by_cases hx : x == other
      · have hne : ¬ x == label := fun he => hother (eq_of_beq hx ▸ he)
        rw [if_pos hx, if_pos hx, if_neg hne, Nat.add_zero]
      · rw [if_neg hx, if_neg hx]

theorem requestCount_recordRequest (c : Counters) (operation x : String) :
    (c.recordRequest operation).requestCount x = c.requestCount x + if x == operation then 1 else 0 := count_bump _ _ _

theorem rejectionCount_recordRejection (c : Counters) (operation reason x y : String) :
    (c.recordRejection operation reason).rejectionCount x y =
      c.rejectionCount x y + if (x, y) == (operation, reason) then 1 else 0 := count_bump _ _ _

end Counters

namespace Exposition

theorem sameLabels_operation (x y : String) :
    sameLabels [("operation", x)] [("operation", y)] = (y == x) := by
  show (true && ((some y == some x) && true)) = _
  rw [Bool.true_and, Bool.and_true]
  rfl

theorem sameLabels_reason (x y x' y' : String) :
    sameLabels [("operation", x), ("reason", y)] [("operation", x'), ("reason", y')] = ((x', y') == (x, y)) := by
  show (true && ((some x' == some x) && ((some y' == some y) && true))) = _
  rw [Bool.true_and, Bool.and_true]
  rfl

/-- The value of the first sample with some labels is the count under the label that they spell. -/
theorem value_find {α : Type} [BEq α] (spell : α → List (String × String)) (label : α)
    (hspell : ∀ x, sameLabels (spell x) (spell label) = (label == x)) : ∀ counts : List (α × Nat),
    (match (counts.map fun entry => ({ labels := spell entry.1, value := entry.2 } : Sample)).find?
        fun s => sameLabels s.labels (spell label) with
      | none => 0
      | some s => s.value) = Counters.count counts label
  | [] => rfl
  | (x, n) :: rest => by
    rw [List.map_cons, List.find?_cons, hspell, Counters.count_cons]
    cases label == x with
    | true => rfl
    | false => exact value_find spell label hspell rest

/-- **The sample of an operation shows its requests.** -/
theorem value_requests (c : Counters) (operation : String) :
    value c "keyguard_requests_total" [("operation", operation)] = c.requestCount operation :=
  value_find (fun x => [("operation", x)]) operation (fun x => sameLabels_operation x operation) c.requests

/-- **The sample of an operation and a reason shows the rejections.** -/
theorem value_rejections (c : Counters) (operation reason : String) :
    value c "keyguard_rejections_total" [("operation", operation), ("reason", reason)] =
      c.rejectionCount operation reason :=
  value_find (fun x : String × String => [("operation", x.1), ("reason", x.2)]) (operation, reason)
    (fun x => sameLabels_reason x.1 x.2 operation reason) c.rejections

end Exposition
end PasswordGate

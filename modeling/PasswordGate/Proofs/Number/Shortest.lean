import PasswordGate.Number.Shortest
import PasswordGate.Proofs.Number.Rounding
/-!
# Shortest laws — a double other than zero has digits other than zero

The grids are tried from the position of the leading digit on.  A grid point that is picked reads back as the double, so it
is not zero (`Interval.pos_of_pick?`); and should no grid have such a point, then the leading position is not so far above
the double that seventeen digits would round it to zero (`decimalAtMost_leadingPosition`).  The latter needs that the
exponent is one that doubles have: the position is guessed by a fraction that is only near to the logarithm of two.
-/
namespace PasswordGate

theorem gridFloor_le_gridRound (num den : Nat) (exponent : Int) :
    gridFloor num den exponent ≤ gridRound num den exponent := div_le_roundDiv _ _

/-- A quotient that is at least one unit of a grid is not cut to zero. -/
theorem gridFloor_pos {num den : Nat} {exponent : Int} (hden : 0 < den) (h : decimalAtMost 1 exponent num den) :
    0 < gridFloor num den exponent := by
  have hle : 1 * Nat.pow 10 exponent.toNat * den ≤ num * Nat.pow 10 (-exponent).toNat := of_decide_eq_true h
  refine Nat.div_pos ?_ (Nat.mul_pos hden (Nat.pow_pos (by decide)))
  rwa [Nat.one_mul, Nat.mul_comm] at hle

/-! ## The leading position -/

theorem ten_pow_le_two_pow (n : Nat) : 10 ^ n ≤ 2 ^ (10 * (n / 3 + 1)) := by
  calc 10 ^ n ≤ 10 ^ (3 * (n / 3 + 1)) := Nat.pow_le_pow_right (by decide) (by omega)
    _ = (10 ^ 3) ^ (n / 3 + 1) := Nat.pow_mul 10 3 _
    _ ≤ (2 ^ 10) ^ (n / 3 + 1) := Nat.pow_le_pow_left (by decide) _
    _ = 2 ^ (10 * (n / 3 + 1)) := (Nat.pow_mul 2 10 _).symm

theorem two_pow_le_ten_pow (n : Nat) : 2 ^ (13 * (n / 4)) ≤ 10 ^ n := by
  calc 2 ^ (13 * (n / 4)) = (2 ^ 13) ^ (n / 4) := Nat.pow_mul 2 13 _
    _ ≤ (10 ^ 4) ^ (n / 4) := Nat.pow_le_pow_left (by decide) _
    _ = 10 ^ (4 * (n / 4)) := (Nat.pow_mul 10 4 _).symm
    _ ≤ 10 ^ n := Nat.pow_le_pow_right (by decide) (by omega)

/-- **The guess is less than seventeen positions too high.** -/
theorem decimalAtMost_guess {num den : Nat} (hnum : num ≠ 0) {guess : Int}
    (hguess : guess = ((num.log2 : Int) - den.log2) * 30103 / 100000) (hlow : den.log2 ≤ 2000) (hhigh : num.log2 ≤ 2000) :
    decimalAtMost 1 (guess - 17) num den := by
  have hnumLow : 2 ^ num.log2 ≤ num := Nat.log2_self_le hnum
  have hdenHigh : den ≤ 2 ^ (den.log2 + 1) := Nat.le_of_lt Nat.lt_log2_self
  refine decide_eq_true ?_
  show 1 * 10 ^ (guess - 17).toNat * den ≤ num * 10 ^ (-(guess - 17)).toNat
  rw [Nat.one_mul]
  -- the two powers are compared where there is one to compare; the other one is one
  by_cases hsign : 17 ≤ guess
  · calc 10 ^ (guess - 17).toNat * den
        ≤ 2 ^ (10 * ((guess - 17).toNat / 3 + 1)) * 2 ^ (den.log2 + 1) :=
          Nat.mul_le_mul (ten_pow_le_two_pow _) hdenHigh
      _ = 2 ^ (10 * ((guess - 17).toNat / 3 + 1) + (den.log2 + 1)) := (Nat.pow_add 2 _ _).symm
      _ ≤ 2 ^ num.log2 := Nat.pow_le_pow_right (by decide) (by omega)
      _ ≤ num := hnumLow
      _ ≤ num * 10 ^ (-(guess - 17)).toNat := Nat.le_mul_of_pos_right _ (Nat.pow_pos (by decide))
  · rw [show (guess - 17).toNat = 0 by omega, Nat.pow_zero, Nat.one_mul]
    calc den ≤ 2 ^ (den.log2 + 1) := hdenHigh
      _ ≤ 2 ^ (num.log2 + 13 * ((-(guess - 17)).toNat / 4)) := Nat.pow_le_pow_right (by decide) (by omega)
      _ = 2 ^ num.log2 * 2 ^ (13 * ((-(guess - 17)).toNat / 4)) := Nat.pow_add 2 _ _
      _ ≤ num * 10 ^ (-(guess - 17)).toNat := Nat.mul_le_mul hnumLow (two_pow_le_ten_pow _)

/-- A unit of a finer grid is at most what a unit of a coarser one is at most. -/
theorem decimalAtMost_of_le {num den : Nat} {exponent finer : Int} (hle : finer ≤ exponent)
    (h : decimalAtMost 1 exponent num den) : decimalAtMost 1 finer num den := by
  have hcoarse : 1 * 10 ^ exponent.toNat * den ≤ num * 10 ^ (-exponent).toNat := of_decide_eq_true h
  refine decide_eq_true ?_
  show 1 * 10 ^ finer.toNat * den ≤ num * 10 ^ (-finer).toNat
  calc 1 * 10 ^ finer.toNat * den ≤ 1 * 10 ^ exponent.toNat * den :=
        Nat.mul_le_mul_right _ (Nat.mul_le_mul_left _ (Nat.pow_le_pow_right (by decide) (by omega)))
    _ ≤ num * 10 ^ (-exponent).toNat := hcoarse
    _ ≤ num * 10 ^ (-finer).toNat := Nat.mul_le_mul_left _ (Nat.pow_le_pow_right (by decide) (by omega))

/-- **Seventeen digits from the leading position on show every quotient.** -/
theorem decimalAtMost_leadingPosition {num den : Nat} (hnum : num ≠ 0) (hlow : den.log2 ≤ 2000) (hhigh : num.log2 ≤ 2000) :
    decimalAtMost 1 (leadingPosition num den - 16) num den := by
  have hguess := decimalAtMost_guess hnum rfl hlow hhigh
  unfold leadingPosition
  dsimp only
  split
  · rename_i h
    exact decimalAtMost_of_le (by omega) h
  split
  · rename_i h
    exact decimalAtMost_of_le (by omega) h
  · exact decimalAtMost_of_le (by omega) hguess

namespace Double

/-! ## Picking -/

theorem Interval.holds_zero {i : Interval} (hlow : 0 < i.low) (exponent : Int) : i.holds 0 exponent = false := by
  have hpos : 0 < i.low * Nat.pow 10 (-exponent).toNat := Nat.mul_pos hlow (Nat.pow_pos (by decide))
  have hzero : 0 * Nat.pow 10 exponent.toNat * i.den = 0 := by rw [Nat.zero_mul, Nat.zero_mul]
  unfold holds
  split
  · rw [decimalAtLeast, hzero, decide_eq_false (Nat.not_le.2 hpos), Bool.false_and]
  · rw [decimalAtMost, hzero, decide_eq_true (Nat.zero_le _), Bool.not_true, Bool.false_and]

/-- **A grid point that is picked is not zero**, since it reads back as the double. -/
theorem Interval.pos_of_pick? {i : Interval} (hlow : 0 < i.low) {exponent : Int} {digits : Nat}
    (h : i.pick? exponent = some digits) : 0 < digits := by
  have hbelow : i.holds (gridFloor i.middle i.den exponent) exponent = true → 0 < gridFloor i.middle i.den exponent :=
    fun hholds => Nat.pos_of_ne_zero fun hzero => by
      rw [hzero, holds_zero hlow] at hholds
      cases hholds
  unfold pick? at h
  dsimp only at h
  split at h
  · rename_i hholds _
    cases h
    exact Nat.lt_of_lt_of_le (hbelow hholds) (gridFloor_le_gridRound _ _ _)
  · rename_i hholds _
    cases h
    exact hbelow hholds
  · cases h
    exact Nat.succ_pos _
  · cases h

theorem stripZeros_pos : ∀ (fuel : Nat) {digits : Nat} (exponent : Int), 0 < digits →
    0 < (stripZeros fuel digits exponent).1
  | 0, _, _, h => h
  | fuel + 1, digits, exponent, h => by
    unfold stripZeros
    split
    · exact stripZeros_pos fuel _ (by omega)
    · exact h

/-- **A double other than zero has digits other than zero.** -/
theorem shortest_pos {negative : Bool} {mantissa : Nat} {exponent : Int} (h : (finite negative mantissa exponent).Genuine)
    (hne : mantissa ≠ 0) : 0 < (shortest mantissa exponent).1 := by
  obtain ⟨hmantissa, hleast, hgreatest⟩ := h
  have hunit : ∀ k, 0 < 2 ^ k := fun k => Nat.pow_pos (by decide)
  have hlow : 0 < (interval mantissa exponent).low := by
    refine Nat.mul_pos ?_ (hunit _)
    split <;> omega
  unfold shortest
  dsimp only
  generalize hfound : (List.range 17).findSome? _ = found
  cases found with
  | some pair =>
    obtain ⟨more, -, hmore⟩ := List.exists_of_findSome?_eq_some hfound
    obtain ⟨digits, hpick, rfl⟩ := Option.map_eq_some_iff.1 hmore
    exact stripZeros_pos 18 _ (Interval.pos_of_pick? hlow hpick)
  | none =>
    have hnum : 4 * mantissa * 2 ^ exponent.toNat ≠ 0 := Nat.ne_of_gt (Nat.mul_pos (by omega) (hunit _))
    have hden : 0 < 4 * 2 ^ (-exponent).toNat := Nat.mul_pos (by decide) (hunit _)
    have hnumLog : (4 * mantissa * 2 ^ exponent.toNat).log2 < 55 + exponent.toNat := by
      rw [Nat.log2_lt hnum, Nat.pow_add]
      exact Nat.mul_lt_mul_of_pos_right (by omega) (hunit _)
    have hdenLog : (4 * 2 ^ (-exponent).toNat).log2 < 3 + (-exponent).toNat := by
      rw [Nat.log2_lt (Nat.ne_of_gt hden), Nat.pow_add]
      exact Nat.mul_lt_mul_of_pos_right (by decide) (hunit _)
    rw [leastExponent] at hleast
    rw [greatestExponent] at hgreatest
    exact Nat.lt_of_lt_of_le (gridFloor_pos hden (decimalAtMost_leadingPosition hnum (by omega) (by omega)))
      (gridFloor_le_gridRound _ _ _)

end Double
end PasswordGate

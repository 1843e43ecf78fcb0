import Mathlib.Algebra.Group.Nat.Defs
import PasswordGate.Number.Double
/-!
# Rounding laws — a decimal is rounded to a double of 64 bits

A quotient is brought to an exponent at which it is less than `2 ^ 53` (`scaled_exponentOf`), so rounding gives at most
that, and the one mantissa of 54 bits is halved.  A decimal goes through `ofRatio` or gives zero or an infinity
(`genuine_ofDecimal`).
-/
namespace PasswordGate

theorem div_le_roundDiv (num den : Nat) : num / den ≤ roundDiv num den := by
  unfold roundDiv
  dsimp only
  split
  · exact Nat.le_refl _
  · exact Nat.le_succ _

theorem roundDiv_le {num den bound : Nat} (h : num < bound * den) : roundDiv num den ≤ bound := by
  have hquotient : num / den < bound := Nat.div_lt_of_lt_mul (Nat.mul_comm bound den ▸ h)
  unfold roundDiv
  dsimp only
  split
  · exact Nat.le_of_lt hquotient
  · exact hquotient

namespace Double

/-- **A double of 64 bits**: a mantissa of 53 bits, and an exponent from the least to the greatest one. -/
def Genuine : Double → Prop
  | finite _ mantissa exponent => mantissa < 2 ^ 53 ∧ leastExponent ≤ exponent ∧ exponent ≤ greatestExponent
  | _ => True

/-- A quotient scaled by a power of two is less than `2 ^ 53`. -/
def Scaled (num den : Nat) (exponent : Int) : Prop :=
  num * 2 ^ (-exponent).toNat < 2 ^ 53 * (den * 2 ^ exponent.toNat)

theorem Scaled.mono {num den : Nat} {exponent coarser : Int} (h : Scaled num den exponent) (hle : exponent ≤ coarser) :
    Scaled num den coarser := by
  have htwo : (1 : Nat) ≤ 2 := by decide
  calc num * 2 ^ (-coarser).toNat ≤ num * 2 ^ (-exponent).toNat :=
        Nat.mul_le_mul_left _ (Nat.pow_le_pow_right htwo (by omega))
    _ < 2 ^ 53 * (den * 2 ^ exponent.toNat) := h
    _ ≤ 2 ^ 53 * (den * 2 ^ coarser.toNat) :=
        Nat.mul_le_mul_left _ (Nat.mul_le_mul_left _ (Nat.pow_le_pow_right htwo (by omega)))

/-- The logarithms alone bring a quotient below `2 ^ 53` at the exponent above the guess. -/
theorem scaled_of_log2 {num den : Nat} (hden : den ≠ 0) : Scaled num den ((num.log2 : Int) - den.log2 - 53 + 1) := by
  have hnum : num < 2 ^ (num.log2 + 1) := Nat.lt_log2_self
  have hlow : 2 ^ den.log2 ≤ den := Nat.log2_self_le hden
  generalize hexponent : (num.log2 : Int) - den.log2 - 53 + 1 = exponent
  calc num * 2 ^ (-exponent).toNat < 2 ^ (num.log2 + 1) * 2 ^ (-exponent).toNat :=
        Nat.mul_lt_mul_of_pos_right hnum (Nat.two_pow_pos _)
    _ = 2 ^ (num.log2 + 1 + (-exponent).toNat) := (Nat.pow_add 2 _ _).symm
    _ = 2 ^ (53 + (den.log2 + exponent.toNat)) := congrArg (2 ^ ·) (by omega)
    _ = 2 ^ 53 * (2 ^ den.log2 * 2 ^ exponent.toNat) := by rw [Nat.pow_add, Nat.pow_add]
    _ ≤ 2 ^ 53 * (den * 2 ^ exponent.toNat) := Nat.mul_le_mul_left _ (Nat.mul_le_mul_right _ hlow)

/-- **At its exponent a quotient is less than `2 ^ 53`.** -/
theorem scaled_exponentOf {num den : Nat} (hden : den ≠ 0) : Scaled num den (exponentOf num den) := by
  unfold exponentOf
  dsimp only
  split
  · rename_i h
    refine Scaled.mono ?_ (Int.le_max_left _ _)
    exact (Nat.div_lt_iff_lt_mul (Nat.mul_pos (Nat.pos_of_ne_zero hden) (Nat.two_pow_pos _))).1 h
  · exact (scaled_of_log2 hden).mono (Int.le_max_left _ _)

theorem genuine_zero (negative : Bool) : (zero negative).Genuine := ⟨by decide, by decide, by decide⟩

/-- **A quotient is rounded to a double of 64 bits.** -/
theorem genuine_ofRatio (negative : Bool) (num : Nat) {den : Nat} (hden : den ≠ 0) : (ofRatio negative num den).Genuine := by
  have hle : roundDiv (num * Nat.pow 2 (-exponentOf num den).toNat) (den * Nat.pow 2 (exponentOf num den).toNat) ≤
      Nat.pow 2 53 := roundDiv_le (scaled_exponentOf hden)
  have hleast : leastExponent ≤ exponentOf num den := Int.le_max_right _ _
  unfold ofRatio
  split
  · exact genuine_zero negative
  dsimp only
  generalize roundDiv _ _ = mantissa at hle ⊢
  by_cases hfull : mantissa = Nat.pow 2 53
  · rw [if_pos hfull]
    dsimp only
    split
    · trivial
    · exact ⟨by decide, by omega, by omega⟩
  · rw [if_neg hfull]
    dsimp only
    split
    · trivial
    · exact ⟨Nat.lt_of_le_of_ne hle hfull, hleast, by omega⟩

/-- **A decimal is read as a double of 64 bits.** -/
theorem genuine_ofDecimal (negative : Bool) (digits : Nat) (exponent : Int) : (ofDecimal negative digits exponent).Genuine := by
  unfold ofDecimal
  split
  · exact genuine_zero negative
  split
  · trivial
  split
  · exact genuine_zero negative
  · exact genuine_ofRatio negative _ (Nat.ne_of_gt (Nat.pow_pos (by decide)))

end Double
end PasswordGate

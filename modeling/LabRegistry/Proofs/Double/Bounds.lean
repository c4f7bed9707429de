import LabRegistry.Double.Arithmetic
import Mathlib.Algebra.Group.Nat.Defs

/-!
# Rounding stays within bounds

A ratio that does not exceed a double is not rounded beyond it, so a product of doubles stays within
what is a double itself, and so does the integer nearest to it. A ratio that is not below a double is
not rounded below it either.
-/
namespace LabRegistry

private theorem roundHalfEven_le_of_le {num den bound : Nat} (positive : 0 < den)
    (h : num ≤ bound * den) :
    roundHalfEven num den ≤ bound := by
  have split : den * (num / den) + num % den = num := Nat.div_add_mod num den
  have below : num / den ≤ bound := Nat.div_le_of_le_mul (by rwa [Nat.mul_comm])
  by_cases last : num / den = bound
  · have exact : num % den = 0 := by
      rw [last, Nat.mul_comm] at split
      omega
    rw [roundHalfEven, exact, if_pos (by omega)]
    exact below
  · have above := roundHalfEven_le num den
    omega

namespace Magnitude

variable {num den : Nat} {bound : Magnitude}

private theorem roundingExponent_le (h : num ≤ bound.units * den) :
    roundingExponent num den ≤ bound.exponent := by
  apply Nat.le_of_not_lt
  intro wider
  have quotient : num / den ≤ bound.units := Nat.div_le_of_le_mul (by rwa [Nat.mul_comm])
  have large : (num / den).log2 = 52 + roundingExponent num den := by
    unfold roundingExponent at wider ⊢
    omega
  have nonzero : num / den ≠ 0 := by
    intro zero
    rw [zero, Nat.log2_zero] at large
    omega
  have least := Nat.log2_self_le nonzero
  have short : bound.units < 2 ^ (53 + bound.exponent) := by
    have significand := bound.significand_lt
    rw [Nat.one_shiftLeft] at significand
    rw [units, Nat.shiftLeft_eq, Nat.pow_add]
    exact Nat.mul_lt_mul_of_pos_right significand (Nat.two_pow_pos _)
  have power : 2 ^ (53 + bound.exponent) ≤ 2 ^ (num / den).log2 :=
    Nat.pow_le_pow_right (by decide) (by omega)
  omega

private theorem units_eq_steps {e k : Nat} (apart : bound.exponent = e + k) :
    bound.units = bound.significand * 2 ^ k * 2 ^ e := by
  rw [units, Nat.shiftLeft_eq, apart, Nat.pow_add, Nat.mul_comm (2 ^ _), Nat.mul_assoc]

private theorem units_round {x : Magnitude} (h : round num den = some x) :
    x.units = roundingSignificand num den * 2 ^ roundingExponent num den := by
  unfold round at h
  dsimp only at h
  split at h
  case isTrue carry =>
    split at h
    case isTrue =>
      cases h
      rw [carry, units, Nat.shiftLeft_eq]
      change 1 <<< 52 * 2 ^ (roundingExponent num den + 1) = _
      rw [Nat.pow_succ, Nat.mul_comm (2 ^ _), ← Nat.mul_assoc]
      rfl
    case isFalse => cases h
  case isFalse =>
    split at h
    case isTrue =>
      cases h
      exact Nat.shiftLeft_eq _ _
    case isFalse => cases h

theorem round_le (positive : 0 < den) (h : num ≤ bound.units * den) :
    ∃ x, round num den = some x ∧ x.units ≤ bound.units := by
  have narrow := roundingExponent_le h
  have exponent := bound.exponent_le
  obtain ⟨k, apart⟩ := Nat.exists_eq_add_of_le narrow
  have steps := units_eq_steps apart
  have significand : roundingSignificand num den ≤ bound.significand * 2 ^ k := by
    refine roundHalfEven_le_of_le ?_ ?_
    · rw [Nat.shiftLeft_eq]
      exact Nat.mul_pos positive (Nat.two_pow_pos _)
    · rw [Nat.shiftLeft_eq, Nat.mul_comm den, ← Nat.mul_assoc, ← steps]
      exact h
  have scaled : roundingSignificand num den * 2 ^ roundingExponent num den ≤ bound.units :=
    steps ▸ Nat.mul_le_mul_right _ significand
  suffices exists_round : ∃ x, round num den = some x by
    obtain ⟨x, rounded⟩ := exists_round
    exact ⟨x, rounded, le_of_eq_of_le (units_round rounded) scaled⟩
  unfold round
  dsimp only
  split
  case isTrue carry =>
    have room : roundingExponent num den + 1 ≤ 2045 := by
      rcases Nat.eq_zero_or_pos k with rfl | more
      · have short := bound.significand_lt
        rw [Nat.pow_zero, Nat.mul_one, carry] at significand
        omega
      · omega
    rw [dif_pos room]
    exact ⟨_, rfl⟩
  case isFalse =>
    rw [dif_pos (by omega)]
    exact ⟨_, rfl⟩

theorem le_round {x : Magnitude} (positive : 0 < den) (h : bound.units * den ≤ num)
    (rounded : round num den = some x) : bound.units ≤ x.units := by
  rw [units_round rounded]
  by_cases narrow : roundingExponent num den ≤ bound.exponent
  · obtain ⟨k, apart⟩ := Nat.exists_eq_add_of_le narrow
    have steps := units_eq_steps apart
    rw [steps]
    apply Nat.mul_le_mul_right
    refine Nat.le_trans ?_ (le_roundHalfEven _ _)
    rw [Nat.shiftLeft_eq]
    apply (Nat.le_div_iff_mul_le (Nat.mul_pos positive (Nat.two_pow_pos _))).mpr
    rwa [Nat.mul_comm den, ← Nat.mul_assoc, ← steps]
  · -- About the ratio doubles are sparser than about the bound, so all of them there exceed it.
    have sparse : roundingExponent num den ≠ 0 := by omega
    have least := le_roundingSignificand sparse
    have short := bound.significand_lt
    rw [Nat.one_shiftLeft] at least short
    rw [units, Nat.shiftLeft_eq]
    calc
      bound.significand * 2 ^ bound.exponent ≤ 2 ^ 53 * 2 ^ bound.exponent :=
        Nat.mul_le_mul_right _ (Nat.le_of_lt short)
      _ = 2 ^ 52 * 2 ^ (bound.exponent + 1) := by
        rw [Nat.pow_succ]
        omega
      _ ≤ 2 ^ 52 * 2 ^ roundingExponent num den :=
        Nat.mul_le_mul_left _ (Nat.pow_le_pow_right (by decide) (by omega))
      _ ≤ roundingSignificand num den * 2 ^ roundingExponent num den :=
        Nat.mul_le_mul_right _ least

end Magnitude
end LabRegistry

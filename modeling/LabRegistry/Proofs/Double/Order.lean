import LabRegistry.Double.Basic
import Mathlib.Data.List.Sort
import Mathlib.Data.Prod.Lex

/-!
# The total order of doubles

Each double has a place of its own: the finite ones by rank, those that are not finite around them.
The total order is that of the places, so sorting by it does not depend on how it is done.
-/
namespace LabRegistry

private theorem Magnitude.units_injective : Function.Injective Magnitude.units := by
  have lower {x y : Magnitude} (same : x.units = y.units) : ¬ x.exponent < y.exponent := by
    intro less
    obtain ⟨k, apart⟩ := Nat.exists_eq_add_of_lt less
    have scaled : x.significand = y.significand * 2 ^ (k + 1) := by
      rw [units, units, Nat.shiftLeft_eq, Nat.shiftLeft_eq, apart, Nat.add_assoc, Nat.pow_add,
        ← Nat.mul_assoc, Nat.mul_right_comm] at same
      exact Nat.eq_of_mul_eq_mul_right (Nat.two_pow_pos _) same
    have normal : 1 <<< 52 ≤ y.significand := y.normal.resolve_right (by omega)
    have twice : y.significand * 2 ≤ y.significand * 2 ^ (k + 1) :=
      Nat.mul_le_mul_left _ (Nat.le_self_pow (Nat.succ_ne_zero k) 2)
    have short := x.significand_lt
    rw [Nat.shiftLeft_eq] at normal short
    omega
  intro x y same
  have exponent : x.exponent = y.exponent :=
    le_antisymm (not_lt.mp (lower same.symm)) (not_lt.mp (lower same))
  have significand : x.significand = y.significand := by
    rw [units, units, exponent, Nat.shiftLeft_eq, Nat.shiftLeft_eq] at same
    exact Nat.eq_of_mul_eq_mul_right (Nat.two_pow_pos _) same
  cases x
  cases y
  cases exponent
  cases significand
  rfl

private theorem FiniteDouble.rank_injective : Function.Injective FiniteDouble.rank := by
  rintro ⟨s, x⟩ ⟨t, y⟩ same
  have : s = t ∧ x.units = y.units := by
    cases s <;> cases t <;> simp [rank, units] at same ⊢ <;> omega
  rw [this.1, Magnitude.units_injective this.2]

namespace Double

/-- Where a double stands in the total order. -/
def place : Double → Int ×ₗ Int
  | .infinite true => toLex (-1, 0)
  | .finite x => toLex (0, x.rank)
  | .infinite false => toLex (1, 0)
  | .nan => toLex (2, 0)

private theorem totalLe_iff (x y : Double) : x.totalLe y = true ↔ x.place ≤ y.place := by
  rcases x with x | (_ | _) | _ <;> rcases y with y | (_ | _) | _ <;>
    simp [totalLe, place, Prod.Lex.toLex_le_toLex]

private theorem place_injective : Function.Injective place := by
  rintro (x | (_ | _) | _) (y | (_ | _) | _) same <;> simp [place] at same ⊢
  exact FiniteDouble.rank_injective same

theorem totalLe_trans (x y z : Double) (h : x.totalLe y = true) (h' : y.totalLe z = true) :
    x.totalLe z = true := by
  rw [totalLe_iff] at h h' ⊢
  exact h.trans h'

theorem totalLe_total (x y : Double) : (x.totalLe y || y.totalLe x) = true := by
  rw [Bool.or_eq_true, totalLe_iff, totalLe_iff]
  exact le_total _ _

/-- Whatever has the same doubles in ascending order is what sorting them gives. -/
theorem eq_mergeSort {xs ys : List Double} (perm : ys.Perm xs)
    (ascending : ys.Pairwise fun x y => x.totalLe y = true) : ys = xs.mergeSort totalLe := by
  have sorted := List.pairwise_mergeSort totalLe_trans totalLe_total xs
  refine (perm.trans (xs.mergeSort_perm totalLe).symm).eq_of_pairwise (fun x y _ _ le ge => ?_)
    ascending sorted
  rw [totalLe_iff] at le ge
  exact place_injective (le_antisymm le ge)

end Double
end LabRegistry

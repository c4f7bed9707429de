import LabRegistry.Proofs.Double.Bounds
import LabRegistry.Proofs.Value.Units

/-!
# Doubles that are integers

A double without fraction denotes an integer of any size. Its conversion to 64 bits moves that integer
to the nearer end of their range, and an integer beyond the range is even, as doubles are that sparse
there. The other way round an integer of at most 53 bits is a double, and a larger one is rounded, past
no other double.
-/
namespace LabRegistry

/-- The integer is a signed 64-bit one. -/
def IsInt64 (n : Int) : Prop := -0x8000000000000000 ≤ n ∧ n < 0x8000000000000000

instance (n : Int) : Decidable (IsInt64 n) := inferInstanceAs (Decidable (_ ∧ _))

namespace Integer

theorem ofInt64?_eq_some {n : Int} {m : Integer} : ofInt64? n = some m ↔ IsInt64 n ∧ m.val = n := by
  rw [ofInt64?]
  split
  case isTrue signed =>
    constructor
    · rintro ⟨⟩
      exact ⟨signed, rfl⟩
    · rintro ⟨-, rfl⟩
      rfl
  case isFalse unsigned => exact ⟨nofun, fun both => absurd both.1 unsigned⟩

theorem ofInt64?_eq_none {n : Int} : ofInt64? n = none ↔ ¬ IsInt64 n := by
  rw [ofInt64?]
  split
  case isTrue signed => exact ⟨nofun, fun unsigned => absurd signed unsigned⟩
  case isFalse unsigned => exact ⟨fun _ => unsigned, fun _ => rfl⟩

end Integer

private theorem FiniteDouble.natAbs_units (x : FiniteDouble) :
    x.units.natAbs = x.magnitude.units := by
  rw [units]
  split <;> omega

private theorem Magnitude.exists_units {a k : Nat} (few : a ≤ 2 ^ 53) (h : k ≤ 2000) :
    ∃ x : Magnitude, x.units = a * 2 ^ k := by
  have direct {a k : Nat} (short : a < 1 <<< 53) (normal : 1 <<< 52 ≤ a ∨ k = 0) (h : k ≤ 2045) :
      ∃ x : Magnitude, x.units = a * 2 ^ k :=
    ⟨⟨a, k, short, normal, h⟩, Nat.shiftLeft_eq a k⟩
  rcases few.eq_or_lt with rfl | short
  · obtain ⟨x, count⟩ := direct (a := 2 ^ 52) (k := k + 1) (by decide) (.inl (by decide)) (by omega)
    refine ⟨x, count.trans ?_⟩
    rw [Nat.pow_succ]
    omega
  -- A significand that is too small is doubled until it is normal or the spacing is least.
  induction k generalizing a with
  | zero => exact direct short (.inr rfl) (Nat.zero_le _)
  | succ k ih =>
    by_cases normal : 1 <<< 52 ≤ a
    · exact direct short (.inl normal) (by omega)
    · rw [Nat.one_shiftLeft] at normal
      obtain ⟨x, count⟩ := ih (a := 2 * a) (by omega) (by omega) (by omega)
      exact ⟨x, by rw [count, Nat.pow_succ', Nat.mul_left_comm, Nat.mul_assoc]⟩

namespace Double

/-- The double has no fraction and is the integer. -/
def Denotes (x : Double) (n : Int) : Prop := x.units? = some (n * unitsPerOne)

theorem denotes_finite {y : FiniteDouble} {n : Int} :
    (Double.finite y).Denotes n ↔ y.units = n * unitsPerOne :=
  Option.some_inj

theorem exists_denotes {x : Double} (h : x.isIntegral = true) : ∃ n, x.Denotes n := by
  cases x with
  | finite y =>
    rw [isIntegral, beq_iff_eq] at h
    obtain ⟨q, count⟩ := Nat.dvd_of_mod_eq_zero h
    have signed (one : Int) : (if y.negative then -(q * one) else q * one) =
        (if y.negative then -q else q : Int) * one := by
      cases y.negative
      · rfl
      · exact (Int.neg_mul _ _).symm
    refine ⟨if y.negative then -q else q, denotes_finite.mpr ?_⟩
    rw [← signed, FiniteDouble.units.eq_def, count, Nat.mul_comm, Int.natCast_mul]
  | _ => cases h

namespace Denotes

variable {x : Double} {n : Int}

private theorem magnitude (h : x.Denotes n) : ∃ y, x = .finite y ∧ y.units = n * unitsPerOne ∧
    y.magnitude.units = n.natAbs * unitsPerOne := by
  cases x with
  | finite y =>
    have units : y.units = n * unitsPerOne := Option.some.inj h
    refine ⟨y, rfl, units, ?_⟩
    rw [← y.natAbs_units, units, Int.natAbs_mul, Int.natAbs_natCast]
  | _ => cases h

theorem truncInt64 (h : x.Denotes n) : x.truncInt64 = .clampInt64 n := by
  obtain ⟨y, rfl, units, -⟩ := h.magnitude
  have positive : (unitsPerOne : Int) ≠ 0 := by
    have nonzero : unitsPerOne ≠ 0 := by decide +kernel
    exact_mod_cast nonzero
  have whole : (if y.negative then -((y.magnitude.units : Int) / unitsPerOne)
      else (y.magnitude.units : Int) / unitsPerOne) = n := by
    rw [FiniteDouble.units] at units
    cases negative : y.negative
    all_goals simp only [negative, if_true, Bool.false_eq_true, if_false] at units ⊢
    · rw [units, Int.mul_ediv_cancel _ positive]
    · rw [← Int.neg_neg (y.magnitude.units : Int), units, ← Int.neg_mul,
        Int.mul_ediv_cancel _ positive, Int.neg_neg]
  exact congrArg Integer.clampInt64 whole

theorem even_of_beyond (h : x.Denotes n) (beyond : ¬ IsInt64 n) : n % 2 = 0 := by
  obtain ⟨y, -, -, units⟩ := h.magnitude
  have large : 2 ^ 63 ≤ n.natAbs := by
    rw [IsInt64] at beyond
    omega
  obtain ⟨k, -, one⟩ := unitsPerOne_pow
  have short := y.magnitude.significand_lt
  rw [Nat.one_shiftLeft] at short
  rw [Magnitude.units, Nat.shiftLeft_eq, one] at units
  have wide : 2 ^ (63 + k) < 2 ^ (53 + y.magnitude.exponent) := by
    rw [Nat.pow_add, Nat.pow_add]
    calc
      2 ^ 63 * 2 ^ k ≤ n.natAbs * 2 ^ k := Nat.mul_le_mul_right _ large
      _ = y.magnitude.significand * 2 ^ y.magnitude.exponent := units.symm
      _ < 2 ^ 53 * 2 ^ y.magnitude.exponent := Nat.mul_lt_mul_of_pos_right short (Nat.two_pow_pos _)
  have exponent := (Nat.pow_lt_pow_iff_right (by decide)).mp wide
  obtain ⟨j, apart⟩ : ∃ j, y.magnitude.exponent = j + (1 + k) :=
    Nat.exists_eq_add_of_le' (by omega)
  rw [apart, ← Nat.add_assoc, Nat.pow_add, ← Nat.mul_assoc] at units
  have count := Nat.eq_of_mul_eq_mul_right (Nat.two_pow_pos _) units
  rw [Nat.pow_succ, ← Nat.mul_assoc] at count
  omega

end Denotes

/-! ## Integers that are rounded -/

private theorem mul_by_sign (n : Int) (one : Nat) :
    n * one = if n < 0 then -((n.natAbs * one : Nat) : Int) else (n.natAbs * one : Nat) := by
  rw [Int.natCast_mul, ← Int.neg_mul]
  split
  all_goals exact congrArg (· * (one : Int)) (by omega)

/-- An integer of a value is rounded to a double, and not past another one. -/
theorem ofInt_rounds (n : Integer) : ∃ y, Double.ofInt n.val = .finite y ∧
    ∀ bound : FiniteDouble,
      (n.val * unitsPerOne ≤ bound.units → y.units ≤ bound.units) ∧
      (bound.units ≤ n.val * unitsPerOne → bound.units ≤ y.units) := by
  obtain ⟨k, few, one⟩ := unitsPerOne_pow
  have size : n.val.natAbs * unitsPerOne < 2 ^ (65 + k) := by
    have lower := n.lower
    have upper := n.upper
    rw [one, Nat.pow_add]
    exact Nat.mul_lt_mul_of_pos_right (by omega) (Nat.two_pow_pos k)
  obtain ⟨magnitude, rounded⟩ := Option.isSome_iff_exists.mp (Magnitude.round_isSome size (by omega))
  refine ⟨⟨n.val < 0, magnitude⟩, ofRatio_finite rounded, fun bound => ?_⟩
  have below (h : n.val.natAbs * unitsPerOne ≤ bound.magnitude.units) :
      magnitude.units ≤ bound.magnitude.units := by
    obtain ⟨x, rounded', le⟩ := Magnitude.round_le Nat.one_pos (h.trans_eq (Nat.mul_one _).symm)
    rw [rounded] at rounded'
    cases rounded'
    exact le
  have above (h : bound.magnitude.units ≤ n.val.natAbs * unitsPerOne) :
      bound.magnitude.units ≤ magnitude.units :=
    Magnitude.le_round Nat.one_pos ((Nat.mul_one _).trans_le h) rounded
  have nonzero : n.val < 0 → 0 < n.val.natAbs * unitsPerOne := by
    intro negative
    exact Nat.mul_pos (by omega) (one ▸ Nat.two_pow_pos k)
  rw [mul_by_sign]
  generalize n.val.natAbs * unitsPerOne = product at *
  simp only [FiniteDouble.units, decide_eq_true_eq]
  by_cases negative : n.val < 0
  all_goals
    cases bound.negative
    all_goals
      simp only [negative, if_true, if_false, Bool.false_eq_true]
      omega

theorem denotes_ofInt {n : Integer} (small : n.val.natAbs ≤ 2 ^ 53) :
    (Double.ofInt n.val).Denotes n.val := by
  obtain ⟨y, rounded, near⟩ := ofInt_rounds n
  obtain ⟨k, few, one⟩ := unitsPerOne_pow
  obtain ⟨x, count⟩ := Magnitude.exists_units small (few.trans (by decide))
  have exact : (FiniteDouble.mk (n.val < 0) x).units = n.val * unitsPerOne := by
    rw [mul_by_sign, FiniteDouble.units, count, one]
    simp only [decide_eq_true_eq]
  obtain ⟨below, above⟩ := near ⟨n.val < 0, x⟩
  rw [exact] at below above
  rw [rounded, denotes_finite]
  exact le_antisymm (below le_rfl) (above le_rfl)

/-! ## Sums that stay finite -/

theorem ofInt_le {n : Int} (h : n.natAbs ≤ 2 ^ 64) :
    ∃ y, Double.ofInt n = .finite y ∧ y.magnitude.units ≤ 2 ^ 64 * unitsPerOne := by
  obtain ⟨bound, units⟩ : ∃ x : Magnitude, x.units = 2 ^ 64 * unitsPerOne :=
    ⟨{ significand := 1 <<< 52, exponent := 1086 }, by decide +kernel⟩
  have scaled : n.natAbs * unitsPerOne ≤ bound.units * 1 := by
    rw [units, Nat.mul_one]
    exact Nat.mul_le_mul_right _ h
  obtain ⟨magnitude, rounded, below⟩ := Magnitude.round_le Nat.one_pos scaled
  exact ⟨_, ofRatio_finite rounded, below.trans_eq units⟩

theorem add_finite {x y : FiniteDouble} (hx : x.magnitude.units ≤ 2 ^ 64 * unitsPerOne)
    (hy : y.magnitude.units ≤ 2 ^ 64 * unitsPerOne) :
    ∃ z, (Double.finite x).add (.finite y) = .finite z := by
  obtain ⟨k, few, one⟩ := unitsPerOne_pow
  have sum : (x.units + y.units).natAbs < 2 ^ (66 + k) := by
    have triangle := Int.natAbs_add_le x.units y.units
    have positive := Nat.two_pow_pos k
    rw [x.natAbs_units, y.natAbs_units] at triangle
    rw [one] at hx hy
    rw [Nat.pow_add]
    omega
  rw [add]
  split
  · exact ⟨_, rfl⟩
  · obtain ⟨magnitude, rounded⟩ := Option.isSome_iff_exists.mp (Magnitude.round_isSome sum (by omega))
    exact ⟨_, ofRatio_finite rounded⟩

end Double
end LabRegistry

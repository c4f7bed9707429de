import LabRegistry.Double.Basic

/-!
# Rounding to the nearest double

`Magnitude.round num den` is the double nearest to `num / den` units, a tie going to the even
significand; it is `none` where the nearest would lie beyond the largest finite double.
-/
namespace LabRegistry

/-- The integer nearest to `num / den`, a tie going to the even one. -/
def roundHalfEven (num den : Nat) : Nat :=
  let quotient := num / den
  let doubled := 2 * (num % den)
  if doubled < den then quotient
  else if doubled = den then quotient + quotient % 2
  else quotient + 1

theorem roundHalfEven_le (num den : Nat) : roundHalfEven num den ≤ num / den + 1 := by
  unfold roundHalfEven
  dsimp only
  split
  · omega
  · split <;> omega

theorem le_roundHalfEven (num den : Nat) : num / den ≤ roundHalfEven num den := by
  unfold roundHalfEven
  dsimp only
  split
  · omega
  · split <;> omega

namespace Magnitude

/-- The spacing, as a power of two, of the doubles about `num / den` units. -/
def roundingExponent (num den : Nat) : Nat := (num / den).log2 - 52

/-- The significand that `num / den` units round to; it may be the next power of two. -/
def roundingSignificand (num den : Nat) : Nat :=
  roundHalfEven num (den <<< roundingExponent num den)

theorem roundingSignificand_le (num den : Nat) : roundingSignificand num den ≤ 1 <<< 53 := by
  have bits : (num / den).log2 + 1 ≤ 53 + roundingExponent num den := by
    unfold roundingExponent
    omega
  have quotient : num / (den <<< roundingExponent num den) < 1 <<< 53 := by
    rw [Nat.shiftLeft_eq, Nat.shiftLeft_eq, Nat.one_mul, ← Nat.div_div_eq_div_mul]
    apply (Nat.div_lt_iff_lt_mul (Nat.two_pow_pos _)).2
    rw [← Nat.pow_add]
    exact Nat.lt_of_lt_of_le Nat.lt_log2_self (Nat.pow_le_pow_right (by decide) bits)
  exact Nat.le_trans (roundHalfEven_le num _) quotient

theorem le_roundingSignificand {num den : Nat} (h : roundingExponent num den ≠ 0) :
    1 <<< 52 ≤ roundingSignificand num den := by
  refine Nat.le_trans ?_ (le_roundHalfEven _ _)
  rw [Nat.shiftLeft_eq, Nat.shiftLeft_eq, Nat.one_mul, ← Nat.div_div_eq_div_mul]
  apply (Nat.le_div_iff_mul_le (Nat.two_pow_pos _)).2
  have large : (num / den).log2 = 52 + roundingExponent num den := by
    unfold roundingExponent at h ⊢
    omega
  rw [← Nat.pow_add, ← large]
  apply Nat.log2_self_le
  intro zero
  simp [zero] at large
  omega

/-- The magnitude nearest to `num / den` units, if it is not beyond all finite doubles. -/
def round (num den : Nat) : Option Magnitude :=
  let exponent := roundingExponent num den
  let significand := roundingSignificand num den
  if carry : significand = 1 <<< 53 then
    if fits : exponent + 1 ≤ 2045 then
      some ⟨1 <<< 52, exponent + 1, by decide, .inl (Nat.le_refl _), fits⟩
    else none
  else
    if fits : exponent ≤ 2045 then
      some {
        significand, exponent
        significand_lt := Nat.lt_of_le_of_ne (roundingSignificand_le num den) carry
        normal := by
          by_cases h : exponent = 0
          · exact .inr h
          · exact .inl (le_roundingSignificand h)
        exponent_le := fits }
    else none

end Magnitude

namespace Double

/-- The double nearest to `num / den` units with the given sign. -/
def ofRatio (negative : Bool) (num den : Nat) : Double :=
  match Magnitude.round num den with
  | some magnitude => .finite ⟨negative, magnitude⟩
  | none => .infinite negative

/-- The double nearest to `digits · 10^exponent` with the given sign. -/
def ofDecimal (negative : Bool) (digits : Nat) (exponent : Int) : Double :=
  match exponent with
  | .ofNat n => ofRatio negative (digits * Nat.pow 10 n * unitsPerOne) 1
  | .negSucc n => ofRatio negative (digits * unitsPerOne) (Nat.pow 10 (n + 1))

def ofInt (n : Int) : Double := ofRatio (n < 0) (n.natAbs * unitsPerOne) 1

end Double
end LabRegistry

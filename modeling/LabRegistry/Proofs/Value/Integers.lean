import LabRegistry.Proofs.Double.Integral

/-!
# Arithmetic on integers

Two integers are added and subtracted exactly if they and the result are signed 64-bit ones, and as
doubles if not. An integer that is scaled to an integer is scaled by integers; the result is exact
unless the factor or the offset lies beyond the signed 64-bit range, to whose end it is moved.
-/
namespace LabRegistry.Value

variable {a b x n : Integer} {scale offset : Double}

theorem toInt64?_ofInteger (a : Integer) :
    (ofInteger a).toInt64? = if IsInt64 a.val then some a.val else none := by
  have lower := a.lower
  by_cases small : a.val < 0x8000000000000000
  · exact (if_pos small).trans (if_pos ⟨lower, small⟩).symm
  · exact (if_neg small).trans (if_neg fun signed => small signed.2).symm

theorem toDouble?_ofInteger (a : Integer) : (ofInteger a).toDouble? = some (.ofInt a.val) := rfl

theorem toInt64?_eq_some {v : Value} {x : Int} (h : v.toInt64? = some x) :
    ∃ a : Integer, v = ofInteger a ∧ a.val = x := by
  rcases v with _ | _ | (a | _) | _ | _ | _
  case number.integer =>
    have signed : (ofInteger a).toInt64? = some x := h
    rw [toInt64?_ofInteger] at signed
    split at signed
    · exact ⟨a, rfl, Option.some.inj signed⟩
    · cases signed
  all_goals cases h

private theorem ofDouble_ne_ofInteger (y : Double) (n : Integer) : ofDouble y ≠ ofInteger n := by
  intro same
  rw [ofDouble] at same
  cases finite : y.finite?
  all_goals
    rw [finite] at same
    cases same

/-! ## Sums and differences -/

/-- The result for the integers `a` and `b` is `exact`, as an integer, if all three are signed 64-bit
integers, and `rounded`, as a double, if not. -/
def ExactOnInt64 (a b exact : Int) (rounded : Double) (result : Option Value) : Prop :=
  (IsInt64 a ∧ IsInt64 b ∧ IsInt64 exact ∧ ∃ n : Integer, n.val = exact ∧ result = some (ofInteger n)) ∨
  (¬ (IsInt64 a ∧ IsInt64 b ∧ IsInt64 exact) ∧
    ∃ x, rounded = .finite x ∧ result = some (.number (.float x)))

theorem toDouble?_of_integerOrDouble? {onIntegers : Int → Int → Int}
    {onDoubles : Double → Double → Double} {v w result : Value}
    (h : integerOrDouble? onIntegers onDoubles v w = some result) :
    (∃ x, v.toDouble? = some x) ∧ ∃ y, w.toDouble? = some y := by
  cases v with
  | number m =>
    cases w with
    | number n => exact ⟨⟨_, rfl⟩, _, rfl⟩
    | _ => simp [integerOrDouble?, toInt64?, toDouble?] at h
  | _ => simp [integerOrDouble?, toInt64?, toDouble?] at h

private theorem integerOrDouble?_integers (onIntegers : Int → Int → Int)
    (onDoubles : Double → Double → Double)
    (finite : ∃ y, onDoubles (.ofInt a.val) (.ofInt b.val) = .finite y) :
    ExactOnInt64 a.val b.val (onIntegers a.val b.val) (onDoubles (.ofInt a.val) (.ofInt b.val))
      (integerOrDouble? onIntegers onDoubles (ofInteger a) (ofInteger b)) := by
  by_cases signed : IsInt64 a.val ∧ IsInt64 b.val ∧ IsInt64 (onIntegers a.val b.val)
  · obtain ⟨left, right, fits⟩ := signed
    obtain ⟨n, exact⟩ := Option.ne_none_iff_exists'.mp (mt Integer.ofInt64?_eq_none.mp (not_not.mpr fits))
    refine .inl ⟨left, right, fits, n, (Integer.ofInt64?_eq_some.mp exact).2, ?_⟩
    rw [integerOrDouble?, toInt64?_ofInteger, toInt64?_ofInteger, if_pos left, if_pos right]
    dsimp only
    rw [exact]
  · obtain ⟨y, finite⟩ := finite
    refine .inr ⟨signed, y, finite, ?_⟩
    have rounded : some (ofDouble (onDoubles (.ofInt a.val) (.ofInt b.val))) =
        some (.number (.float y)) := by
      rw [finite]
      rfl
    rw [integerOrDouble?, toInt64?_ofInteger, toInt64?_ofInteger, toDouble?_ofInteger,
      toDouble?_ofInteger]
    by_cases left : IsInt64 a.val
    · by_cases right : IsInt64 b.val
      · have beyond : Integer.ofInt64? (onIntegers a.val b.val) = none := by
          apply Integer.ofInt64?_eq_none.mpr
          intro fits
          exact signed ⟨left, right, fits⟩
        rw [if_pos left, if_pos right]
        dsimp only
        rw [beyond]
        exact rounded
      · rw [if_pos left, if_neg right]
        exact rounded
    · rw [if_neg left]
      exact rounded

/-- A result that is a signed 64-bit integer is not rounded. -/
theorem integerOrDouble?_exact {v w : Value} {x y : Int} {onIntegers : Int → Int → Int}
    {onDoubles : Double → Double → Double} (left : v.toInt64? = some x) (right : w.toInt64? = some y)
    (exact : Integer.ofInt64? (onIntegers x y) = some n) :
    integerOrDouble? onIntegers onDoubles v w = some (ofInteger n) := by
  rw [integerOrDouble?, left, right]
  dsimp only
  rw [exact]

theorem sub_add_integers {v w : Value} {x y : Int} (left : v.toInt64? = some x)
    (right : w.toInt64? = some y) (fits : IsInt64 (x - y)) : ∃ n : Integer,
      v.sub? w = some (ofInteger n) ∧ n.val = x - y ∧ w.add? (ofInteger n) = some v := by
  obtain ⟨a, rfl, rfl⟩ := toInt64?_eq_some left
  have signed : IsInt64 a.val := by
    rw [toInt64?_ofInteger] at left
    by_contra beyond
    rw [if_neg beyond] at left
    cases left
  have difference : Integer.ofInt64? (a.val - y) ≠ none :=
    mt Integer.ofInt64?_eq_none.mp (not_not.mpr fits)
  obtain ⟨n, exact⟩ := Option.ne_none_iff_exists'.mp difference
  have value := (Integer.ofInt64?_eq_some.mp exact).2
  have again : (ofInteger n).toInt64? = some n.val := by
    rw [toInt64?_ofInteger, if_pos (value ▸ fits)]
  have whole : y + n.val = a.val := by omega
  have sum : Integer.ofInt64? (y + n.val) = some a :=
    Integer.ofInt64?_eq_some.mpr ⟨whole ▸ signed, whole.symm⟩
  exact ⟨n, integerOrDouble?_exact left right exact, value, integerOrDouble?_exact right again sum⟩

/-- Sums and differences of integers are exact for signed 64-bit integers whose result is one, and
rounded for all others. -/
theorem add_sub_integers (a b : Integer) :
    ExactOnInt64 a.val b.val (a.val + b.val) ((Double.ofInt a.val).add (.ofInt b.val))
      (add? (ofInteger a) (ofInteger b)) ∧
    ExactOnInt64 a.val b.val (a.val - b.val) ((Double.ofInt a.val).sub (.ofInt b.val))
      (sub? (ofInteger a) (ofInteger b)) := by
  have bound (n : Integer) : n.val.natAbs ≤ 2 ^ 64 := by
    have lower := n.lower
    have upper := n.upper
    omega
  obtain ⟨x, left, hx⟩ := Double.ofInt_le (bound a)
  obtain ⟨y, right, hy⟩ := Double.ofInt_le (bound b)
  constructor
  · apply integerOrDouble?_integers
    rw [left, right]
    exact Double.add_finite hx hy
  · apply integerOrDouble?_integers
    rw [left, right]
    exact Double.add_finite (y := y.neg) hx hy

/-- One more than the greatest signed 64-bit integer is an integer of a value, but that sum is a
double. -/
theorem sum_beyond_int64 :
    let sum : Integer := { val := Integer.greatest.val + 1 }
    (∃ y, add? (ofInteger .greatest) (ofInteger { val := 1 }) = some (.number (.float y))) ∧
      add? (ofInteger .greatest) (ofInteger { val := 1 }) ≠ some (ofInteger sum) := by
  intro sum
  have finite : ∃ y, (Double.ofInt Integer.greatest.val).add (.ofInt 1) = .finite y :=
    ⟨⟨false, { significand := 1 <<< 52, exponent := 1085 }⟩, by decide +kernel⟩
  have outcome := integerOrDouble?_integers (a := .greatest) (b := { val := 1 }) (· + ·) Double.add finite
  rcases outcome with ⟨-, -, fits, -⟩ | ⟨-, y, -, result⟩
  · exact absurd fits (by decide)
  · refine ⟨⟨y, result⟩, fun exact => ?_⟩
    cases result.symm.trans exact

/-! ## Scaling -/

/-- What an integer is scaled to is an integer only where all steps on integers stay in range. -/
theorem scaleOffset_eq_ofInteger (changes : ¬ (scale.eq (.ofInt 1) = true ∧ offset.eq .zero = true))
    (whole : (ofInteger x).scaleOffset scale offset = ofInteger n) :
    IsInt64 x.val ∧ scale.isIntegral = true ∧ offset.isIntegral = true ∧
      IsInt64 (x.val * scale.truncInt64.val) ∧
      n.val = x.val * scale.truncInt64.val + offset.truncInt64.val ∧ IsInt64 n.val := by
  have exact : (ofInteger x).scaleExactly? scale offset = some n := by
    rw [scaleOffset, if_neg (by simpa using changes), toDouble?_ofInteger] at whole
    cases exact : (ofInteger x).scaleExactly? scale offset with
    | some m =>
      rw [exact] at whole
      cases whole
      rfl
    | none =>
      rw [exact] at whole
      exact absurd whole (ofDouble_ne_ofInteger _ n)
  rw [scaleExactly?, toInt64?_ofInteger] at exact
  split at exact
  case isFalse => cases exact
  case isTrue integral =>
    obtain ⟨y, operand, rest⟩ := Option.bind_eq_some_iff.mp exact
    obtain ⟨product, first, second⟩ := Option.bind_eq_some_iff.mp rest
    obtain ⟨signed, same⟩ : IsInt64 x.val ∧ x.val = y := by
      by_cases signed : IsInt64 x.val
      · rw [if_pos signed] at operand
        exact ⟨signed, Option.some.inj operand⟩
      · rw [if_neg signed] at operand
        cases operand
    obtain ⟨inside, value⟩ := Integer.ofInt64?_eq_some.mp first
    obtain ⟨inside', value'⟩ := Integer.ofInt64?_eq_some.mp second
    rw [value] at inside' value'
    subst same
    obtain ⟨left, right⟩ := Bool.and_eq_true_iff.mp integral
    exact ⟨signed, left, right, inside, value', value' ▸ inside'⟩

private theorem clampInt64_cases (s : Int) :
    IsInt64 s ∧ (Integer.clampInt64 s).val = s ∨
    0x8000000000000000 ≤ s ∧ (Integer.clampInt64 s).val = 0x7FFFFFFFFFFFFFFF ∨
    s < -0x8000000000000000 ∧ (Integer.clampInt64 s).val = -0x8000000000000000 := by
  simp only [IsInt64, Integer.clampInt64]
  omega

private theorem unit_of_moved {x s : Int} (moved : ¬ IsInt64 s)
    (inside : IsInt64 (x * (Integer.clampInt64 s).val)) : x = -1 ∨ x = 0 ∨ x = 1 := by
  rcases clampInt64_cases s with ⟨signed, -⟩ | ⟨-, top⟩ | ⟨-, bottom⟩
  · exact absurd signed moved
  · rw [top, IsInt64] at inside
    omega
  · rw [bottom, IsInt64] at inside
    omega

/-- Moving the factor and the offset into range changes the result, unless nothing is scaled or both are
the same and cancel out: beyond the range they are even, and the greatest integer in it is odd. -/
theorem moved_eq_iff {x s o : Int} (hs : ¬ IsInt64 s → s % 2 = 0) (ho : ¬ IsInt64 o → o % 2 = 0)
    (inside : IsInt64 (x * (Integer.clampInt64 s).val))
    (inside' : IsInt64 (x * (Integer.clampInt64 s).val + (Integer.clampInt64 o).val)) :
    x * (Integer.clampInt64 s).val + (Integer.clampInt64 o).val = x * s + o ↔
      (IsInt64 s ∨ x = 0) ∧ IsInt64 o ∨ x = -1 ∧ s = o := by
  have factor := clampInt64_cases s
  have shift := clampInt64_cases o
  have unit (moved : ¬ IsInt64 s) := unit_of_moved moved inside
  generalize (Integer.clampInt64 s).val = s' at *
  generalize (Integer.clampInt64 o).val = o' at *
  by_cases signed : IsInt64 s
  · obtain rfl : s' = s := by
      rw [IsInt64] at signed
      omega
    unfold IsInt64 at *
    omega
  · have even := hs signed
    rcases unit signed with rfl | rfl | rfl
    all_goals
      unfold IsInt64 at *
      omega

/-- An integer that an integer is scaled to, not by factor one and offset zero, is exact if and only if
the offset is a signed 64-bit integer and so is the factor, or nothing is scaled; or the two cancel
out. -/
theorem scaleOffset_exact_iff (changes : ¬ (scale.eq (.ofInt 1) = true ∧ offset.eq .zero = true))
    (whole : (ofInteger x).scaleOffset scale offset = ofInteger n) :
    ∃ s o, scale.Denotes s ∧ offset.Denotes o ∧
      (n.val = x.val * s + o ↔
        (IsInt64 s ∨ x.val = 0) ∧ IsInt64 o ∨ x.val = -1 ∧ s = o) := by
  obtain ⟨-, scaleWhole, offsetWhole, inside, value, inside'⟩ := scaleOffset_eq_ofInteger changes whole
  obtain ⟨s, factor⟩ := Double.exists_denotes scaleWhole
  obtain ⟨o, shift⟩ := Double.exists_denotes offsetWhole
  refine ⟨s, o, factor, shift, ?_⟩
  rw [value, factor.truncInt64, shift.truncInt64] at *
  exact moved_eq_iff factor.even_of_beyond shift.even_of_beyond inside inside'

/-- `2^63` is moved to `2^63 - 1`, and what one is scaled to is too small by one. -/
theorem scaled_by_moved_factor :
    let scale := Double.ofInt 0x8000000000000000
    let offset := Double.ofInt (-2048)
    let result : Integer := { val := 0x8000000000000000 - 2049 }
    scale.Denotes 0x8000000000000000 ∧ offset.Denotes (-2048) ∧
      (ofInteger { val := 1 }).scaleOffset scale offset = ofInteger result ∧
      result.val ≠ 1 * 0x8000000000000000 + -2048 := by
  intro scale offset result
  have changes : ¬ (scale.eq (.ofInt 1) && offset.eq .zero) = true := by decide +kernel
  have exact : (ofInteger { val := 1 }).scaleExactly? scale offset = some result := by decide +kernel
  refine ⟨(by decide +kernel : scale.units? = _), (by decide +kernel : offset.units? = _), ?_, by decide⟩
  rw [scaleOffset, if_neg changes, exact]

/-- Both `2^63` are moved, but they cancel out. -/
theorem scaleOffset_exact_iff_of_same :
    let moved := Double.ofInt 0x8000000000000000
    ∃ s o, moved.Denotes s ∧ moved.Denotes o ∧
      (Integer.zero.val = -1 * s + o ↔
        (IsInt64 s ∨ (-1 : Int) = 0) ∧ IsInt64 o ∨ (-1 : Int) = -1 ∧ s = o) := by
  intro moved
  have changes : ¬ (moved.eq (.ofInt 1) && moved.eq .zero) = true := by decide +kernel
  have exact : (ofInteger { val := -1 }).scaleExactly? moved moved = some .zero := by decide +kernel
  have whole : (ofInteger { val := -1 }).scaleOffset moved moved = ofInteger .zero := by
    rw [scaleOffset, if_neg changes, exact]
  exact scaleOffset_exact_iff (x := { val := -1 }) (by decide +kernel) whole

end LabRegistry.Value

import LabRegistry.Proofs.Value.Integers
import LabRegistry.Value.Validator

/-!
# Integers within bounds

Both validators of numbers convert an integer before they compare it. One takes signed 64-bit integers
only, so it refuses larger ones within any bounds. The other rounds to a double, by which no integer is
moved past a bound; but one that lies beyond a bound can be rounded onto it and is accepted then.
-/
namespace LabRegistry.Validator

/-- The number is neither below the minimum nor above the maximum; an absent bound imposes nothing. -/
def Between (min max : Option Int) (n : Int) : Prop :=
  (∀ least ∈ min, least ≤ n) ∧ ∀ greatest ∈ max, n ≤ greatest

private theorem checkRange_eq_ok {α : Type} {lt : α → α → Bool} {text : α → String}
    {min max : Option α} {x : α}
    {shown : String} : checkRange lt text min max x shown = .ok () ↔
      (∀ least ∈ min, lt x least = false) ∧ ∀ greatest ∈ max, lt greatest x = false := by
  have kept {p : α → Bool} {bound : Option α} :
      bound.filter p = none ↔ ∀ b ∈ bound, p b = false := by
    simp [Option.filter_eq_none_iff]
  rw [← kept, ← kept, checkRange]
  cases min.filter (lt x)
  all_goals cases max.filter (lt · x)
  all_goals simp

variable {n : Integer}

private theorem ints_eq_ok {min max : Option Int} :
    (ints min max).validate (.ofInteger n) = .ok () ↔
    IsInt64 n.val ∧ Between min max n.val := by
  simp only [Value.ofInteger, validate]
  rw [← Value.ofInteger, Value.toInt64?_ofInteger]
  by_cases signed : IsInt64 n.val
  · rw [if_pos signed, and_iff_right signed]
    exact checkRange_eq_ok.trans (by simp [Between])
  · rw [if_neg signed]
    simp [signed]

private theorem numbers_eq_ok {min max : Option FiniteDouble} {y : FiniteDouble}
    (rounded : Double.ofInt n.val = .finite y) :
    (numbers (min.map .finite) (max.map .finite)).validate (.ofInteger n) = .ok () ↔
      Between (min.map (·.units)) (max.map (·.units)) y.units := by
  simp only [Value.ofInteger, validate]
  rw [← Value.ofInteger, Value.toDouble?_ofInteger, rounded]
  dsimp only
  rw [checkRange_eq_ok, Between]
  simp [Double.lt]

theorem numbers_unbounded {v : Value} {x : Double} (h : v.toDouble? = some x) :
    (numbers none none).validate v = .ok () := by
  cases v with
  | number m => rfl
  | _ => cases h

theorem numbers_of_nonneg (nonneg : 0 ≤ n.val) :
    (numbers (some .zero) none).validate (.ofInteger n) = .ok () := by
  obtain ⟨y, rounded, near⟩ := Double.ofInt_rounds n
  refine (@numbers_eq_ok n (some .zero) none y rounded).mpr ⟨?_, nofun⟩
  rintro _ ⟨⟩
  exact (near .zero).2 (Int.mul_nonneg nonneg (Int.natCast_nonneg _))

/-- A number that is moved past no bound is within the bounds as before, unless it lies beyond a bound and
is moved onto it, and no number is beyond both. -/
theorem between_moved_iff {min max : Option Int} {x y : Int}
    (lower : ∀ least ∈ min, (x ≤ least → y ≤ least) ∧ (least ≤ x → least ≤ y))
    (upper : ∀ greatest ∈ max, (x ≤ greatest → y ≤ greatest) ∧ (greatest ≤ x → greatest ≤ y)) :
    (Between min max y ↔ Between min max x) ↔
      ((∀ least ∈ min, ∀ greatest ∈ max, least ≤ greatest) →
        (∀ least ∈ min, x < least → y ≠ least) ∧ ∀ greatest ∈ max, greatest < x → y ≠ greatest) := by
  cases min with
  | none =>
    cases max with
    | none => simp [Between]
    | some greatest =>
      simp [Between] at *
      omega
  | some least =>
    cases max
    all_goals
      simp [Between] at *
      omega

/-- The validator for integers accepts an integer exactly when it is within the bounds, if it is a signed
64-bit one or out of bounds; the validator for numbers does so unless the integer is rounded onto a bound
that it lies beyond, within a range that is not empty. Integers of at most 53 bits are not rounded. -/
theorem integers_judged_exactly (n : Integer) :
    (∀ min max : Option Int,
      ((ints min max).validate (.ofInteger n) = .ok () ↔ Between min max n.val) ↔
        IsInt64 n.val ∨ ¬ Between min max n.val) ∧
    ∃ y, Double.ofInt n.val = .finite y ∧
      (n.val.natAbs ≤ 2 ^ 53 → y.units = n.val * unitsPerOne) ∧
      ∀ min max : Option FiniteDouble,
        ((numbers (min.map .finite) (max.map .finite)).validate (.ofInteger n) = .ok () ↔
          Between (min.map (·.units)) (max.map (·.units)) (n.val * unitsPerOne)) ↔
          ((∀ least ∈ min, ∀ greatest ∈ max, least.units ≤ greatest.units) →
            (∀ least ∈ min, n.val * unitsPerOne < least.units → y.units ≠ least.units) ∧
            ∀ greatest ∈ max, greatest.units < n.val * unitsPerOne → y.units ≠ greatest.units) := by
  obtain ⟨y, rounded, near⟩ := Double.ofInt_rounds n
  refine ⟨fun min max => ?_, y, rounded, fun small => ?_, fun min max => ?_⟩
  · rw [ints_eq_ok]
    tauto
  · have denotes := Double.denotes_ofInt small
    rwa [rounded, Double.denotes_finite] at denotes
  · rw [numbers_eq_ok rounded, between_moved_iff]
    · simp
    · simpa using fun least _ => near least
    · simpa using fun greatest _ => near greatest

/-- `2^63` lies within bounds that are both absent and is refused, and `2^53 + 1` exceeds the maximum
`2^53` and is accepted. -/
theorem integers_misjudged :
    let large : Integer := { val := 0x8000000000000000 }
    let odd : Integer := { val := 0x20000000000001 }
    let bound : FiniteDouble := ⟨false, { significand := 1 <<< 52, exponent := 1075 }⟩
    (Between none none large.val ∧ (ints none none).validate (.ofInteger large) ≠ .ok ()) ∧
      bound.units < odd.val * unitsPerOne ∧
      (numbers none (some (.finite bound))).validate (.ofInteger odd) = .ok () := by
  intro large odd bound
  refine ⟨⟨⟨nofun, nofun⟩, fun accepted => ?_⟩, by decide +kernel, ?_⟩
  · exact absurd (ints_eq_ok.mp accepted).1 (by decide)
  · have rounded : Double.ofInt odd.val = .finite bound := by decide +kernel
    refine (@numbers_eq_ok odd none (some bound) bound rounded).mpr ⟨nofun, ?_⟩
    rintro - ⟨⟩
    exact le_rfl

end LabRegistry.Validator

import LabRegistry.Value.Numeric
import Mathlib.Algebra.Group.Nat.Defs
import Mathlib.Data.Int.Order.Basic
import Mathlib.Data.List.Perm.Basic
import Mathlib.Order.Lattice

/-!
# Numbers as counts of units

Every number of a value is a finite double, which counts units of `2^-1074`. Equal values count the
same, and taking the larger of two doubles is taking the larger count.
-/
namespace LabRegistry

/-! ## Integers are finite -/

theorem Magnitude.round_isSome {num k : Nat} (h : num < 2 ^ k) (hk : k ≤ 2000) :
    (round num 1).isSome := by
  have exponent : roundingExponent num 1 + 1 ≤ 2045 := by
    rw [roundingExponent, Nat.div_one]
    by_cases zero : num = 0
    · subst zero
      decide
    · have bits := (Nat.log2_lt zero).mpr h
      omega
  rw [round]
  split
  · rfl
  · rw [dif_pos (by omega)]
    rfl

theorem Double.ofRatio_finite {negative : Bool} {num den : Nat} {magnitude : Magnitude}
    (h : Magnitude.round num den = some magnitude) :
    ofRatio negative num den = .finite ⟨negative, magnitude⟩ := by
  unfold ofRatio
  split
  case h_1 rounded =>
    rw [rounded] at h
    cases h
    rfl
  case h_2 beyond =>
    rw [beyond] at h
    cases h

theorem unitsPerOne_pow : ∃ k ≤ 1900, unitsPerOne = 2 ^ k :=
  ⟨1074, by decide, Nat.one_shiftLeft 1074⟩

private theorem Double.ofInt_finite {n : Int} (h : n.natAbs < 2 ^ 64) :
    ∃ x, Double.ofInt n = .finite x := by
  obtain ⟨k, few, units⟩ := unitsPerOne_pow
  have small : n.natAbs * unitsPerOne < 2 ^ (64 + k) := by
    rw [units, Nat.pow_add]
    exact Nat.mul_lt_mul_of_pos_right h (Nat.two_pow_pos _)
  obtain ⟨magnitude, rounded⟩ :=
    Option.isSome_iff_exists.mp (Magnitude.round_isSome small (by omega))
  exact ⟨_, ofRatio_finite rounded⟩

private theorem Number.toDouble_finite (n : Number) : ∃ x, n.toDouble = .finite x := by
  cases n with
  | float x => exact ⟨x, rfl⟩
  | integer n =>
    have lower := n.lower
    have upper := n.upper
    exact Double.ofInt_finite (by omega)

/-! ## Counts -/

/-- How many units a double counts, if it is finite. -/
def Double.units? (x : Double) : Option Int := x.finite?.map (·.units)

/-- How many units a value counts, if it is a number. -/
def Value.units? (v : Value) : Option Int := v.toDouble?.bind (·.units?)

namespace Value

theorem toDouble?_finite {v : Value} {x : Double} (h : v.toDouble? = some x) :
    ∃ y, x = .finite y := by
  cases v with
  | number n =>
    cases h
    exact n.toDouble_finite
  | _ => cases h

theorem units?_of_eq {v w : Value} (h : (v == w) = true) : v.units? = w.units? := by
  have same : v.eq w = true := h
  cases v with
  | number m =>
    cases w with
    | number n =>
      cases m with
      | integer m =>
        cases n with
        | integer n =>
          have val : m.val = n.val := by simpa [eq, Number.eq] using same
          rw [units?, units?, toDouble?, toDouble?, Number.toDouble, Number.toDouble, val]
        | float y => simp [eq, Number.eq] at same
      | float x =>
        cases n with
        | integer n => simp [eq, Number.eq] at same
        | float y =>
          have count : x.units = y.units := by simpa [eq, Number.eq] using same
          exact congrArg some count
    | _ => simp [eq] at same
  | _ => cases w <;> first | rfl | simp [eq] at same

/-! ## Equality of numbers -/

/-- The value is a number or `null`. -/
def Numeric (v : Value) : Prop := v = .null ∨ ∃ n, v = .number n

theorem numeric_ofDouble (x : Double) : (ofDouble x).Numeric := by
  rw [ofDouble]
  cases x.finite? with
  | some x => exact .inr ⟨_, rfl⟩
  | none => exact .inl rfl

theorem numeric_add (a b : Value) : ((a.add? b).getD .null).Numeric := by
  rw [add?, integerOrDouble?]
  split
  · exact .inr ⟨_, rfl⟩
  · exact numeric_ofDouble _
  · exact .inl rfl

variable {u v w : Value}

namespace Numeric

variable (h : v.Numeric)

include h

theorem eq_self : (v == v) = true := by
  change v.eq v = true
  rcases h with rfl | ⟨n, rfl⟩
  · rfl
  · cases n <;> simp [Value.eq, Number.eq]

theorem eq_symm (left : (u == v) = true) : (v == u) = true := by
  have left : u.eq v = true := left
  change v.eq u = true
  rcases h with rfl | ⟨n, rfl⟩
  · cases u with
    | null => rfl
    | _ => cases left
  · cases u with
    | number m => cases m <;> cases n <;> simp_all [Value.eq, Number.eq]
    | _ => cases left

theorem eq_trans (left : (u == v) = true) (right : (v == w) = true) : (u == w) = true := by
  have left : u.eq v = true := left
  have right : v.eq w = true := right
  change u.eq w = true
  rcases h with rfl | ⟨n, rfl⟩
  · cases u with
    | null => exact right
    | _ => cases left
  · cases u with
    | number m =>
      cases w with
      | number k =>
        cases m <;> cases n <;> cases k <;> simp_all [Value.eq, Number.eq]
      | _ => cases right
    | _ => cases left

end Numeric
end Value

/-! ## The larger of two -/

namespace Double

/-- One of the doubles is as large as the number, and none is larger. -/
def IsLargest (x : Double) (xs : List Double) : Prop :=
  (∃ y ∈ xs, x.eq y = true) ∧ ∀ y ∈ xs, x.lt y = false

instance (x : Double) (xs : List Double) : Decidable (x.IsLargest xs) :=
  inferInstanceAs (Decidable (_ ∧ _))

private theorem larger_finite (x y : FiniteDouble) :
    ∃ z, (finite x).larger (.finite y) = .finite z ∧ z.units = max x.units y.units := by
  by_cases less : y.units < x.units
  · exact ⟨x, by simp [larger, lt, less], (max_eq_left less.le).symm⟩
  · exact ⟨y, by simp [larger, lt, less], (max_eq_right (not_lt.mp less)).symm⟩

theorem foldl_larger {xs : List Double} (finite : ∀ x ∈ xs, ∃ y, x = .finite y)
    (x : FiniteDouble) : ∃ z, xs.foldl larger (.finite x) = .finite z ∧
      z.units = (xs.filterMap units?).foldl max x.units := by
  induction xs generalizing x with
  | nil => exact ⟨x, rfl, rfl⟩
  | cons head rest ih =>
    obtain ⟨y, rfl⟩ := finite head List.mem_cons_self
    obtain ⟨next, step, larger⟩ := larger_finite x y
    obtain ⟨z, run, count⟩ := ih (fun x mem => finite x (List.mem_cons_of_mem _ mem)) next
    refine ⟨z, by rw [List.foldl_cons, step, run], ?_⟩
    rw [count, larger]
    rfl

theorem isLargest_of_units {xs : List Double} (finite : ∀ x ∈ xs, ∃ y, x = .finite y)
    {x z : FiniteDouble} (count : z.units = (xs.filterMap units?).foldl max x.units) :
    (Double.finite z).IsLargest (.finite x :: xs) := by
  have counted {y : Double} (mem : y ∈ Double.finite x :: xs) :
      ∃ w, y = .finite w ∧ w.units ∈ x.units :: xs.filterMap units? := by
    rcases List.mem_cons.mp mem with rfl | mem
    · exact ⟨x, rfl, List.mem_cons_self⟩
    · obtain ⟨w, rfl⟩ := finite y mem
      exact ⟨w, rfl, List.mem_cons_of_mem _ (List.mem_filterMap.mpr ⟨_, mem, rfl⟩)⟩
  have largest : (x.units :: xs.filterMap units?).max? = some z.units := by
    rw [List.max?_cons', count]
  obtain ⟨attained, bound⟩ := List.max?_eq_some_iff.mp largest
  constructor
  · rcases List.mem_cons.mp attained with same | attained
    · exact ⟨_, List.mem_cons_self, by simp [eq, same]⟩
    · obtain ⟨y, mem, count⟩ := List.mem_filterMap.mp attained
      obtain ⟨w, rfl⟩ := finite y mem
      have same : w.units = z.units := Option.some.inj count
      exact ⟨_, List.mem_cons_of_mem _ mem, by simp [eq, same]⟩
  · intro y mem
    obtain ⟨w, rfl, among⟩ := counted mem
    have below := bound _ among
    simp [lt, below]

theorem isLargest_congr {x : Double} {xs ys : List Double} (same : ∀ y, y ∈ xs ↔ y ∈ ys) :
    x.IsLargest xs ↔ x.IsLargest ys := by
  simp only [IsLargest, same]

private theorem eq_finite {x : Double} {w : FiniteDouble} (same : x.eq (.finite w) = true) :
    ∃ z, x = .finite z ∧ z.units = w.units := by
  cases x with
  | finite z => exact ⟨z, rfl, of_decide_eq_true same⟩
  | _ => cases same

private theorem isLargest_both_iff {x t : Double} {xs ys : List Double}
    (finite : ∀ y ∈ ys, ∃ z, y = .finite z) (more : ∀ y, y ∈ ys ↔ y = t ∨ y ∈ xs)
    (one : x.IsLargest xs ∨ x.IsLargest ys) :
    (x.IsLargest xs ∧ x.IsLargest ys) ↔ ∃ y ∈ xs, y.lt t = false := by
  obtain ⟨t, rfl⟩ := finite t ((more t).mpr (.inl rfl))
  have among {y : Double} (mem : y ∈ xs) : y ∈ ys := (more y).mpr (.inr mem)
  obtain ⟨w, rfl⟩ : ∃ w, x = .finite w := by
    obtain ⟨y, mem, same⟩ : ∃ y ∈ ys, x.eq y = true := by
      rcases one with ⟨⟨y, mem, same⟩, -⟩ | ⟨attained, -⟩
      · exact ⟨y, among mem, same⟩
      · exact attained
    obtain ⟨z, rfl⟩ := finite y mem
    obtain ⟨w, rfl, -⟩ := eq_finite same
    exact ⟨w, rfl⟩
  constructor
  · rintro ⟨⟨⟨y, mem, same⟩, -⟩, -, bound⟩
    obtain ⟨z, rfl⟩ := finite y (among mem)
    have above := bound _ ((more _).mpr (.inl rfl))
    refine ⟨_, mem, ?_⟩
    simp [eq, lt] at same above ⊢
    omega
  · rintro ⟨y, mem, covers⟩
    obtain ⟨z, rfl⟩ := finite y (among mem)
    rcases one with ⟨attained, bound⟩ | ⟨⟨a, mem', same⟩, bound⟩
    · refine ⟨⟨attained, bound⟩, attained.imp fun _ h => ⟨among h.1, h.2⟩, fun u mem' => ?_⟩
      rcases (more u).mp mem' with rfl | mem'
      · have above := bound _ mem
        simp [lt] at covers above ⊢
        omega
      · exact bound u mem'
    · refine ⟨⟨?_, fun u mem' => bound u (among mem')⟩, ⟨a, mem', same⟩, bound⟩
      rcases (more a).mp mem' with rfl | mem'
      · have above := bound _ (among mem)
        refine ⟨_, mem, ?_⟩
        simp [eq, lt] at covers above same ⊢
        omega
      · exact ⟨a, mem', same⟩

/-- One double counts either before or afterwards, and the others always do. The largest before is the
largest afterwards if and only if this one does not exceed all others. -/
theorem isLargest_switch_iff {x t : Double} {xs ys rest : List Double} (counts : Bool)
    (finite : ∀ y ∈ t :: rest, ∃ z, y = .finite z)
    (before : ∀ y, y ∈ xs ↔ counts = true ∧ y = t ∨ y ∈ rest)
    (afterwards : ∀ y, y ∈ ys ↔ counts = false ∧ y = t ∨ y ∈ rest) (largest : x.IsLargest xs) :
    x.IsLargest ys ↔ ∃ y ∈ rest, y.lt t = false := by
  have both := isLargest_both_iff (x := x) finite fun _ => List.mem_cons
  cases counts with
  | true =>
    have counted : x.IsLargest (t :: rest) := (isLargest_congr (by simpa using before)).mp largest
    rw [← both (.inr counted), and_iff_left counted]
    exact isLargest_congr (by simpa using afterwards)
  | false =>
    have without : x.IsLargest rest := (isLargest_congr (by simpa using before)).mp largest
    rw [← both (.inl without), and_iff_right without]
    exact isLargest_congr (by simpa using afterwards)

end Double
end LabRegistry

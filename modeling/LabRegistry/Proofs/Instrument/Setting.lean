import LabRegistry.Instrument.Basic
import LabRegistry.Proofs.Double.Bounds
import LabRegistry.Proofs.Value.Units

/-!
# Settings of channels

A channel has two settings, each with a register of its own. What a set writes on the register is
decided by the validator and the parser of the setting; a voltage within its limits comes to ten
thousand millivolts at most, in both directions.
-/
namespace LabRegistry

/-! ## Addresses -/

theorem DeviceId.channelName_injective : Function.Injective channelName := by
  intro i j same
  have digits : Nat.toDigits 10 i = Nat.toDigits 10 j :=
    String.ofList_injective ((String.append_right_inj "ch").mp same)
  rw [← Nat.ofDigitChars_toDigits (b := 10) (n := i) (by decide) (by decide), digits,
    Nat.ofDigitChars_toDigits (by decide) (by decide)]

theorem DeviceId.channelName_ne {i : Nat} {name : String} (other : name.toList.head? ≠ some 'c') :
    channelName i ≠ name := by
  intro same
  apply other
  rw [← same, channelName, String.toList_append]
  rfl

namespace Instrument

inductive Setting where
  | voltage
  | coupling
deriving DecidableEq

namespace Setting

def place : Setting → Nat
  | voltage => 0
  | coupling => 1

def plan (device : DeviceId) (index : Nat) : Setting → ParameterPlan
  | voltage => voltagePlan device index
  | coupling => couplingPlan device index

def name : Setting → String
  | voltage => "voltage"
  | coupling => "output_coupling"

def address (index : Nat) : Setting → String
  | voltage => DeviceId.voltageAddress index
  | coupling => DeviceId.couplingAddress index

theorem address_inj {i j : Nat} {s t : Setting} (same : s.address i = t.address j) : i = j ∧ s = t := by
  have ends {n : Nat} {kind : String} : (DeviceId.channelName n ++ kind).toList.getLast? =
      kind.toList.getLast?.or (DeviceId.channelName n).toList.getLast? := by
    rw [String.toList_append, List.getLast?_append]
  have kinds : s = t := by
    have last := congrArg (·.toList.getLast?) same
    cases s <;> cases t
    all_goals
      simp only [address, DeviceId.voltageAddress, DeviceId.couplingAddress, ends] at last
      first | rfl | cases last
  subst kinds
  refine ⟨DeviceId.channelName_injective ?_, rfl⟩
  cases s
  all_goals exact (String.append_left_inj _).mp same

end Setting

def channelPlans (device : DeviceId) (index : Nat) : List ParameterPlan :=
  [voltagePlan device index, couplingPlan device index]

variable {d : DeviceId} {i : Nat} {v raw : Value}

theorem Setting.plan_mem (s : Setting) : (channelPlans d i)[s.place]? = some (s.plan d i) := by
  cases s <;> rfl

theorem Setting.name_plan (s : Setting) : (s.plan d i).name = s.name := by cases s <;> rfl

/-! ## What is written -/

def Setting.parse : Setting → Value → Except RegistryError Value
  | voltage, v => v.millivoltsOfVolts
  | coupling, v => .ok v

def Setting.report : Setting → Value → Except RegistryError Value
  | voltage, raw => raw.voltsOfMillivolts
  | coupling, raw => .ok raw

/-- What a set writes on the register, if the value is taken. -/
def Setting.sent? (s : Setting) (v : Value) : Option Value :=
  match (s.plan ⟨0⟩ 0).validator.validate v with
  | .ok () => (s.parse v).toOption
  | .error _ => none

theorem Setting.sent?_of_accepted {s : Setting}
    (accepted : (s.plan d i).validator.validate v = .ok ()) :
    s.sent? v = (s.parse v).toOption := by
  have same : (s.plan ⟨0⟩ 0).validator = (s.plan d i).validator := by cases s <;> rfl
  rw [sent?, same, accepted]

theorem Setting.sent?_of_refused {s : Setting} {reason : String}
    (refused : (s.plan d i).validator.validate v = .error reason) : s.sent? v = none := by
  have same : (s.plan ⟨0⟩ 0).validator = (s.plan d i).validator := by cases s <;> rfl
  rw [sent?, same, refused]

end Instrument

private theorem Validator.within_of_validate {low high : FiniteDouble} {v : Value} {x : Double}
    (number : v.toDouble? = some x)
    (accepted : (Validator.numbers (some (.finite low)) (some (.finite high))).validate v = .ok ()) :
    ∃ y, x = .finite y ∧ low.units ≤ y.units ∧ y.units ≤ high.units := by
  obtain ⟨y, rfl⟩ := Value.toDouble?_finite number
  refine ⟨y, rfl, ?_⟩
  have checked : checkRange Double.lt Layout.plain.text (some (.finite low)) (some (.finite high))
      (.finite y) v.compact = .ok () := by
    cases v with
    | number n =>
      simp only [validate, number] at accepted
      exact accepted
    | _ => cases number
  rw [checkRange] at checked
  split at checked
  case h_3 below above =>
    simp only [Option.filter_some, Double.lt] at below above
    constructor
    · by_contra less
      simp [Int.not_le.mp less] at below
    · by_contra more
      simp [Int.not_le.mp more] at above
  all_goals cases checked

namespace Double

private theorem roundInt64_le {x : FiniteDouble} {k : Nat} (h : x.magnitude.units ≤ k * unitsPerOne)
    (small : k < 2 ^ 63) : -(k : Int) ≤ (Double.finite x).roundInt64.val ∧
      (Double.finite x).roundInt64.val ≤ k := by
  have positive : 0 < unitsPerOne := by decide +kernel
  have nearest : (2 * x.magnitude.units + unitsPerOne) / (2 * unitsPerOne) ≤ k := by
    refine Nat.lt_succ_iff.mp ((Nat.div_lt_iff_lt_mul (by omega)).mpr ?_)
    rw [Nat.succ_mul k, Nat.mul_left_comm k]
    omega
  have cast : (2 * (x.magnitude.units : Int) + unitsPerOne) / (2 * unitsPerOne) =
      ((2 * x.magnitude.units + unitsPerOne) / (2 * unitsPerOne) : Nat) := rfl
  simp only [roundInt64, Integer.clampInt64]
  rw [cast]
  generalize (2 * x.magnitude.units + unitsPerOne) / (2 * unitsPerOne) = rounded at nearest
  split <;> omega

private theorem mul_le {x y : FiniteDouble} (bound : Magnitude)
    (h : x.magnitude.units * y.magnitude.units ≤ bound.units * unitsPerOne) :
    ∃ z, (Double.finite x).mul (.finite y) = .finite z ∧ z.magnitude.units ≤ bound.units := by
  obtain ⟨magnitude, rounded, below⟩ := Magnitude.round_le (by decide +kernel) h
  exact ⟨_, ofRatio_finite rounded, below⟩

end Double

namespace Instrument

theorem Setting.sent_voltage (h : voltage.sent? v = some raw) :
    ∃ n : Integer, raw = .ofInteger n ∧ -10000 ≤ n.val ∧ n.val ≤ 10000 := by
  have accepted : (Validator.numbers (some voltageLimit.neg) (some voltageLimit)).validate v = .ok () := by
    cases checked : (Validator.numbers (some voltageLimit.neg) (some voltageLimit)).validate v with
    | ok _ => rfl
    | error reason =>
      rw [voltage.sent?_of_refused (d := ⟨0⟩) (i := 0) checked] at h
      cases h
  have sent : v.millivoltsOfVolts.toOption = some raw :=
    (voltage.sent?_of_accepted (d := ⟨0⟩) (i := 0) accepted).symm.trans h
  obtain ⟨ten, limit, tens⟩ : ∃ x : Magnitude, voltageLimit = .finite ⟨false, x⟩ ∧
      x.units = 10 * unitsPerOne :=
    ⟨{ significand := 10 <<< 49, exponent := 1025 }, by decide +kernel, by decide +kernel⟩
  obtain ⟨thousand, factor, thousands⟩ : ∃ x : Magnitude, Double.ofInt 1000 = .finite ⟨false, x⟩ ∧
      x.units = 1000 * unitsPerOne :=
    ⟨{ significand := 1000 <<< 43, exponent := 1031 }, by decide +kernel, by decide +kernel⟩
  obtain ⟨bound, bounds⟩ : ∃ x : Magnitude, x.units = 10000 * unitsPerOne :=
    ⟨{ significand := 10000 <<< 39, exponent := 1035 }, by decide +kernel⟩
  cases number : v.toDouble? with
  | none =>
    rw [Value.millivoltsOfVolts, number] at sent
    cases sent
  | some x =>
    rw [limit] at accepted
    obtain ⟨y, rfl, low, high⟩ := Validator.within_of_validate number accepted
    have within : y.magnitude.units ≤ 10 * unitsPerOne := by
      rw [FiniteDouble.units_neg] at low
      simp only [FiniteDouble.units, Bool.false_eq_true, if_false, tens] at low high
      split at low
      case isTrue => omega
      case isFalse positive =>
        rw [if_neg positive] at high
        omega
    obtain ⟨z, product, below⟩ := Double.mul_le (x := y) (y := ⟨false, thousand⟩) bound (by
      rw [thousands, bounds]
      have scaled := Nat.mul_le_mul_right (1000 * unitsPerOne) within
      calc
        y.magnitude.units * (1000 * unitsPerOne) ≤ 10 * unitsPerOne * (1000 * unitsPerOne) := scaled
        _ = 10000 * unitsPerOne * unitsPerOne := by
          rw [Nat.mul_mul_mul_comm, Nat.mul_assoc 10000])
    rw [Value.millivoltsOfVolts, number] at sent
    dsimp only at sent
    rw [factor, product] at sent
    cases sent
    exact ⟨_, rfl, Double.roundInt64_le (below.trans_eq bounds) (by decide)⟩

theorem Setting.sent_coupling (h : coupling.sent? v = some raw) :
    raw = v ∧ (v = .null ∨ v = .string "DC" ∨ v = .string "AC") := by
  cases v with
  | null =>
    cases h
    exact ⟨rfl, .inl rfl⟩
  | string s =>
    by_cases listed : [Value.string "DC", Value.string "AC"].any (Value.string s == ·) = true
    · simp only [sent?, plan, couplingPlan, Validator.validate, listed, if_true] at h
      cases h
      refine ⟨rfl, .inr ?_⟩
      simpa [BEq.beq, Value.eq] using listed
    · simp only [sent?, plan, couplingPlan, Validator.validate, listed] at h
      cases h
  | _ => cases h

end Instrument
end LabRegistry

/-!
# Double-precision numbers

A finite double is a sign and a magnitude `significand · 2^exponent`, counted in units of
`2^-1074`, the smallest positive double. The normal form is part of the type, so two
magnitudes are equal exactly when they count the same number of units.
-/
namespace LabRegistry

/-- A finite, non-negative double in normal form. -/
structure Magnitude where
  significand : Nat
  exponent : Nat
  significand_lt : significand < 1 <<< 53 := by decide
  normal : 1 <<< 52 ≤ significand ∨ exponent = 0 := by decide
  exponent_le : exponent ≤ 2045 := by decide
deriving DecidableEq

namespace Magnitude

/-- How many units of `2^-1074` a magnitude counts. -/
def units (x : Magnitude) : Nat := x.significand <<< x.exponent

def zero : Magnitude where
  significand := 0
  exponent := 0

instance : Inhabited Magnitude := ⟨zero⟩

end Magnitude

/-- Units of `2^-1074` in the number one. -/
def unitsPerOne : Nat := 1 <<< 1074

/-- A double that is neither infinite nor undefined; zero keeps its sign. -/
structure FiniteDouble where
  negative : Bool
  magnitude : Magnitude
deriving DecidableEq, Inhabited

namespace FiniteDouble

def zero : FiniteDouble := ⟨false, .zero⟩

def units (x : FiniteDouble) : Int := if x.negative then -x.magnitude.units else x.magnitude.units

def neg (x : FiniteDouble) : FiniteDouble := { x with negative := !x.negative }

/-- The place in the total order in which `-0.0` comes just before `0.0`. -/
def rank (x : FiniteDouble) : Int := if x.negative then x.units - 1 else x.units

theorem units_neg (x : FiniteDouble) : x.neg.units = -x.units := by
  cases x with
  | mk negative magnitude => cases negative <;> simp [neg, units]

end FiniteDouble

inductive Double where
  | finite (x : FiniteDouble)
  | infinite (negative : Bool)
  | nan
deriving DecidableEq, Inhabited

namespace Double

def zero : Double := .finite .zero

def finite? : Double → Option FiniteDouble
  | .finite x => some x
  | _ => none

/-- Equality of numbers: the zeros are equal, and nothing equals `nan`. -/
def eq : Double → Double → Bool
  | .finite x, .finite y => x.units == y.units
  | .infinite s, .infinite t => s == t
  | _, _ => false

/-- Strict order of numbers; false whenever `nan` takes part. -/
def lt : Double → Double → Bool
  | .finite x, .finite y => x.units < y.units
  | .finite _, .infinite negative => !negative
  | .infinite negative, .finite _ => negative
  | .infinite s, .infinite t => s && !t
  | _, _ => false

/-- The larger number; the right one unless the left one exceeds it, so of two zeros the right. -/
def larger (x y : Double) : Double :=
  match y with
  | .nan => x
  | _ => if y.lt x then x else y

/-- The total order of doubles: `-∞`, finite numbers with `-0.0` before `0.0`, `∞`, `nan`. -/
def totalLe : Double → Double → Bool
  | .infinite true, _ => true
  | .finite _, .infinite true => false
  | .finite x, .finite y => x.rank ≤ y.rank
  | .finite _, _ => true
  | .infinite false, .infinite false => true
  | .infinite false, .nan => true
  | .infinite false, _ => false
  | .nan, .nan => true
  | .nan, _ => false

def neg : Double → Double
  | .finite x => .finite x.neg
  | .infinite negative => .infinite (!negative)
  | .nan => .nan

def isIntegral : Double → Bool
  | .finite x => x.magnitude.units % unitsPerOne == 0
  | _ => false

end Double
end LabRegistry

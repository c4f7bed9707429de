import LabRegistry.Double.Rounding
import LabRegistry.Integer

/-!
# Arithmetic on doubles

Every operation is the exact result rounded once to the nearest double.
-/
namespace LabRegistry

namespace Double

/-- The exact sum, rounded. Two zeros add up to `-0.0` only when both are negative. -/
def add : Double → Double → Double
  | .finite x, .finite y =>
    let sum := x.units + y.units
    if sum = 0 then .finite ⟨x.negative && y.negative && x.magnitude.units == 0, .zero⟩
    else ofRatio (sum < 0) sum.natAbs 1
  | .infinite s, .infinite t => if s == t then .infinite s else .nan
  | .infinite s, .finite _ => .infinite s
  | .finite _, .infinite t => .infinite t
  | _, _ => .nan

def sub (x y : Double) : Double := x.add y.neg

def mul : Double → Double → Double
  | .finite x, .finite y =>
    ofRatio (x.negative != y.negative) (x.magnitude.units * y.magnitude.units) unitsPerOne
  | .infinite s, .infinite t => .infinite (s != t)
  | .infinite s, .finite y => if y.magnitude.units = 0 then .nan else .infinite (s != y.negative)
  | .finite x, .infinite t => if x.magnitude.units = 0 then .nan else .infinite (x.negative != t)
  | _, _ => .nan

def div : Double → Double → Double
  | .finite x, .finite y =>
    if y.magnitude.units = 0 then
      if x.magnitude.units = 0 then .nan else .infinite (x.negative != y.negative)
    else ofRatio (x.negative != y.negative) (x.magnitude.units * unitsPerOne) y.magnitude.units
  | .infinite s, .finite y => .infinite (s != y.negative)
  | .finite x, .infinite t => .finite ⟨x.negative != t, .zero⟩
  | _, _ => .nan

/-- The integer part; numbers beyond the signed 64-bit range go to its ends. -/
def truncInt64 : Double → Integer
  | .finite x =>
    let whole : Int := x.magnitude.units / unitsPerOne
    .clampInt64 (if x.negative then -whole else whole)
  | .infinite negative => if negative then .least else .greatest
  | .nan => .zero

/-- The nearest integer, a half going away from zero; numbers beyond the signed 64-bit range go
to its ends. -/
def roundInt64 : Double → Integer
  | .finite x =>
    let nearest : Int := (2 * x.magnitude.units + unitsPerOne) / (2 * unitsPerOne)
    .clampInt64 (if x.negative then -nearest else nearest)
  | .infinite negative => if negative then .least else .greatest
  | .nan => .zero

end Double
end LabRegistry

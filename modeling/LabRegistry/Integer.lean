/-!
# Integers of numbers

Numbers without fraction range from the least signed to the greatest unsigned 64-bit integer,
from `-2^63` to `2^64 - 1`.
-/
namespace LabRegistry

/-- An integer that a number without fraction can hold. -/
structure Integer where
  val : Int
  lower : -0x8000000000000000 ≤ val := by decide
  upper : val < 0x10000000000000000 := by decide
deriving DecidableEq

namespace Integer

def zero : Integer := { val := 0 }

instance : Inhabited Integer := ⟨zero⟩

/-- The least signed 64-bit integer. -/
def least : Integer := { val := -0x8000000000000000 }

/-- The greatest signed 64-bit integer. -/
def greatest : Integer := { val := 0x7FFFFFFFFFFFFFFF }

def ofInt? (n : Int) : Option Integer :=
  if h : -0x8000000000000000 ≤ n ∧ n < 0x10000000000000000 then some ⟨n, h.1, h.2⟩ else none

/-- The integer if it is in the signed 64-bit range. -/
def ofInt64? (n : Int) : Option Integer :=
  if h : -0x8000000000000000 ≤ n ∧ n < 0x8000000000000000 then
    some ⟨n, h.1, Int.lt_trans h.2 (by decide)⟩
  else none

/-- An integer moved to the nearer end of the signed 64-bit range if it lies outside. -/
def clampInt64 (n : Int) : Integer where
  val := min (max n (-0x8000000000000000)) (0x8000000000000000 - 1)
  lower := by omega
  upper := by omega

end Integer
end LabRegistry

import LabRegistry.Double.Rounding

/-!
# Shortest decimals

`Magnitude.shortest` finds the decimal with the fewest digits that reads back as a given
magnitude and, among those, the nearest. Each count of digits is tried on its own grid, where
only the two neighbours of the exact value have to be tested.
-/
namespace LabRegistry

/-- The number `digits · 10^exponent`. -/
structure Decimal where
  digits : Nat
  exponent : Int
deriving DecidableEq, Repr

/-- Which of two equally near decimals is written. -/
inductive TieRule where
  | evenDigit
  | upward

namespace Decimal

/-- The same number without trailing zeros; `fuel` bounds how many are taken off. -/
def trimZeros : Nat → Decimal → Decimal
  | 0, d => d
  | fuel + 1, d =>
    if d.digits ≠ 0 ∧ d.digits % 10 = 0 then trimZeros fuel ⟨d.digits / 10, d.exponent + 1⟩ else d

def readsAs (d : Decimal) (x : Magnitude) : Bool :=
  Double.ofDecimal false d.digits d.exponent == .finite ⟨false, x⟩

end Decimal

namespace Magnitude

/-- The exact decimal expansion of a magnitude: a unit is `5^1074 · 10^-1074`. -/
def expansion (x : Magnitude) : Decimal := ⟨x.units * Nat.pow 5 1074, -1074⟩

/-- The decimals just below and above `exact` on the grid `cut` places coarser. -/
def neighbours (exact : Decimal) (cut : Nat) : Decimal × Decimal :=
  let floor := exact.digits / Nat.pow 10 cut
  (⟨floor, exact.exponent + cut⟩, ⟨floor + 1, exact.exponent + cut⟩)

def nearer (tie : TieRule) (exact : Decimal) (cut : Nat) : Decimal :=
  let (below, above) := neighbours exact cut
  let doubled := 2 * (exact.digits % Nat.pow 10 cut)
  if doubled < Nat.pow 10 cut then below
  else if Nat.pow 10 cut < doubled then above
  else match tie with
    | .upward => above
    | .evenDigit => if below.digits % 2 = 0 then below else above

/-- The decimal for `x` on one grid, if a neighbour reads back. -/
def onGrid? (tie : TieRule) (x : Magnitude) (cut : Nat) : Option Decimal :=
  let (below, above) := neighbours x.expansion cut
  match below.readsAs x, above.readsAs x with
  | true, true => some (nearer tie x.expansion cut)
  | true, false => some below
  | false, true => some above
  | false, false => none

/-- The first grid that has a decimal for `x`, from the coarsest on; at last the exact expansion. -/
def searchGrids (tie : TieRule) (x : Magnitude) : Nat → Decimal
  | 0 => x.expansion
  | cut + 1 => (onGrid? tie x (cut + 1)).getD (searchGrids tie x cut)

/-- The shortest decimal that reads back as `x`, the nearest of those, without trailing zeros. -/
def shortest (tie : TieRule) (x : Magnitude) : Decimal :=
  let places := (Nat.toDigits 10 x.expansion.digits).length
  Decimal.trimZeros places (searchGrids tie x (places - 1))

end Magnitude
end LabRegistry

import LabRegistry.Double.Shortest

/-!
# Texts of doubles

All texts of a double show its shortest decimal. A `Layout` says where positional writing ends,
whether whole numbers keep a point, how an exponent is written and what the exceptional doubles
are called.
-/
namespace LabRegistry

/-- How the shortest decimal of a double is laid out. -/
structure Layout where
  /-- Least exponent of the first digit that is still written positionally; `none`: any. -/
  lowest : Option Int
  /-- Greatest such exponent; `none`: any. -/
  highest : Option Int
  /-- Whole numbers end in `.0`. -/
  keepsPoint : Bool
  /-- A positive exponent has a plus sign. -/
  signsExponent : Bool
  tie : TieRule

namespace Layout

/-- Numbers inside values: `0.00001` to `1000000000000000.0` positionally, then `1e+16`. -/
def value : Layout := ⟨some (-5), some 15, true, true, .evenDigit⟩

/-- Numbers inside messages are never written with an exponent, and `10.0` is `10`. -/
def plain : Layout := ⟨none, none, false, false, .upward⟩

/-- Numbers inside inspection texts: `0.0001` to below `1e16` positionally. -/
def inspection : Layout := ⟨some (-4), some 15, true, false, .upward⟩

def isPositional (layout : Layout) (first : Int) : Bool :=
  layout.lowest.all (· ≤ first) && layout.highest.all (first ≤ ·)

/-- Digits with the point placed so that the first digit has exponent `first`. -/
def positional (keepsPoint : Bool) (digits : List Char) (first : Int) : List Char :=
  match first with
  | .negSucc zeros => '0' :: '.' :: (List.replicate zeros '0' ++ digits)
  | .ofNat n =>
    if digits.length ≤ n + 1 then
      digits ++ List.replicate (n + 1 - digits.length) '0' ++ (if keepsPoint then ['.', '0'] else [])
    else digits.take (n + 1) ++ '.' :: digits.drop (n + 1)

/-- One digit before the point, then an exponent. -/
def scientific (signsExponent : Bool) (digits : List Char) (first : Int) : List Char :=
  let mantissa := match digits with
    | [] => []
    | d :: [] => [d]
    | d :: rest => d :: '.' :: rest
  let sign := if first < 0 then ['-'] else if signsExponent then ['+'] else []
  mantissa ++ 'e' :: (sign ++ Nat.toDigits 10 first.natAbs)

def magnitudeChars (layout : Layout) (x : Magnitude) : List Char :=
  if x.significand = 0 then if layout.keepsPoint then ['0', '.', '0'] else ['0']
  else
    let decimal := x.shortest layout.tie
    let digits := Nat.toDigits 10 decimal.digits
    let first := decimal.exponent + (digits.length - 1 : Nat)
    if layout.isPositional first then positional layout.keepsPoint digits first
    else scientific layout.signsExponent digits first

def finite (layout : Layout) (x : FiniteDouble) : String :=
  let chars := layout.magnitudeChars x.magnitude
  String.ofList (if x.negative then '-' :: chars else chars)

def text (layout : Layout) : Double → String
  | .finite x => layout.finite x
  | .infinite negative => if negative then "-inf" else "inf"
  | .nan => "NaN"

end Layout
end LabRegistry

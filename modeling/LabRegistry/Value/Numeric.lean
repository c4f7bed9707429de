import LabRegistry.Double.Arithmetic
import LabRegistry.Value.Basic

/-!
# Arithmetic on values

Two signed 64-bit integers give an integer as long as the result stays in that range; in every
other case numbers are combined as doubles.
-/
namespace LabRegistry.Value

/-- The integer result if both values are 64-bit integers and so is it, else the double one. -/
def integerOrDouble? (onIntegers : Int → Int → Int) (onDoubles : Double → Double → Double)
    (a b : Value) : Option Value :=
  let exact := match a.toInt64?, b.toInt64? with
    | some x, some y => Integer.ofInt64? (onIntegers x y)
    | _, _ => none
  match exact, a.toDouble?, b.toDouble? with
  | some n, _, _ => some (ofInteger n)
  | none, some x, some y => some (ofDouble (onDoubles x y))
  | none, _, _ => none

def add? (a b : Value) : Option Value := integerOrDouble? (· + ·) Double.add a b

def sub? (a b : Value) : Option Value := integerOrDouble? (· - ·) Double.sub a b

/-- The exact `value · scale + offset` if all three are integers and each step stays in range. -/
def scaleExactly? (v : Value) (scale offset : Double) : Option Integer :=
  if scale.isIntegral && offset.isIntegral then do
    let x ← v.toInt64?
    let product ← Integer.ofInt64? (x * scale.truncInt64.val)
    Integer.ofInt64? (product.val + offset.truncInt64.val)
  else none

/-- The value times `scale` plus `offset`; anything but a number passes unchanged. -/
def scaleOffset (v : Value) (scale offset : Double) : Value :=
  if scale.eq (.ofInt 1) && offset.eq .zero then v
  else match v.scaleExactly? scale offset, v.toDouble? with
    | some n, _ => ofInteger n
    | none, some x => ofDouble ((x.mul scale).add offset)
    | none, none => v

end LabRegistry.Value

import LabRegistry.Double.Rounding
import LabRegistry.Integer
import LabRegistry.OrderedMap

/-!
# Values of parameters

A value is a JSON document. Numbers are either integers between `-2^63` and `2^64 - 1` or finite
doubles, and the two kinds are never equal. Objects keep the order of their keys, which equality
ignores.
-/
namespace LabRegistry

inductive Number where
  | integer (n : Integer)
  | float (x : FiniteDouble)
deriving DecidableEq, Inhabited

namespace Number

/-- The number as a signed 64-bit integer, if it is one. -/
def toInt64? : Number → Option Int
  | .integer n => if n.val < 0x8000000000000000 then some n.val else none
  | .float _ => none

def toDouble : Number → Double
  | .integer n => .ofInt n.val
  | .float x => .finite x

/-- Equality within a kind; the two zeros among the doubles are equal. -/
def eq : Number → Number → Bool
  | .integer m, .integer n => m.val == n.val
  | .float x, .float y => x.units == y.units
  | _, _ => false

end Number

inductive Value where
  | null
  | bool (b : Bool)
  | number (n : Number)
  | string (s : String)
  | array (items : List Value)
  | object (members : List (String × Value))
deriving Inhabited

namespace Value

def ofInteger (n : Integer) : Value := .number (.integer n)

/-- A finite double as a value; the infinities and `nan` become `null`. -/
def ofDouble (x : Double) : Value :=
  match x.finite? with
  | some x => .number (.float x)
  | none => .null

def isNull : Value → Bool
  | .null => true
  | _ => false

def toInt64? : Value → Option Int
  | .number n => n.toInt64?
  | _ => none

def toDouble? : Value → Option Double
  | .number n => some n.toDouble
  | _ => none

mutual

/-- Equality of values: the order of the members of an object does not matter. -/
def eq : Value → Value → Bool
  | .null, .null => true
  | .bool a, .bool b => a == b
  | .number m, .number n => m.eq n
  | .string s, .string t => s == t
  | .array xs, .array ys => eqItems xs ys
  | .object ms, .object ns => ms.length == ns.length && eqMembers ms ns
  | _, _ => false

def eqItems : List Value → List Value → Bool
  | [], [] => true
  | x :: xs, y :: ys => eq x y && eqItems xs ys
  | _, _ => false

/-- Every member on the left has an equal one of the same key on the right. -/
def eqMembers : List (String × Value) → List (String × Value) → Bool
  | [], _ => true
  | (key, x) :: ms, ns =>
    (match Entries.get? key ns with
      | some y => eq x y
      | none => false) && eqMembers ms ns

end

instance : BEq Value := ⟨eq⟩

end Value
end LabRegistry

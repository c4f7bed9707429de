import LabRegistry.Value.Printer

/-!
# Validators

A validator says which values a parameter takes. Every validator takes `null`, by which a
parameter goes back to having no value.
-/
namespace LabRegistry

inductive Validator where
  | anything
  | bool
  | numbers (min max : Option Double)
  | ints (min max : Option Int)
  | strings
  | oneOf (allowed : List Value)
  | lists (item : Option Validator)
deriving Inhabited

namespace Validator

/-- The bounds of a range are inclusive, and an absent one imposes nothing. -/
def checkRange {α : Type} (lt : α → α → Bool) (text : α → String) (min max : Option α) (x : α)
    (shown : String) : Except String Unit :=
  match min.filter (lt x), max.filter (lt · x) with
  | some min, _ => .error (shown ++ " is smaller than the minimum " ++ text min)
  | none, some max => .error (shown ++ " is larger than the maximum " ++ text max)
  | none, none => .ok ()

def integerText (n : Int) : String := String.ofList (integerChars n)

def validate : Validator → Value → Except String Unit
  | _, .null => .ok ()
  | .anything, _ => .ok ()
  | .bool, .bool _ => .ok ()
  | .bool, v => .error (v.compact ++ " is not a boolean")
  | .numbers min max, v =>
    match v.toDouble? with
    | some x => checkRange Double.lt Layout.plain.text min max x v.compact
    | none => .error (v.compact ++ " is not a number")
  | .ints min max, v =>
    match v.toInt64? with
    | some x => checkRange (fun a b => a < b) integerText min max x v.compact
    | none => .error (v.compact ++ " is not an integer")
  | .strings, .string _ => .ok ()
  | .strings, v => .error (v.compact ++ " is not a string")
  | .oneOf allowed, v =>
    if allowed.any (v == ·) then .ok ()
    else .error (v.compact ++ " is not one of " ++ (Value.array allowed).compact)
  | .lists none, .array _ => .ok ()
  | .lists (some item), .array items => items.forM item.validate
  | .lists _, v => .error (v.compact ++ " is not a list")

def name : Validator → String
  | .anything => "<Anything>"
  | .bool => "<Bool>"
  | .numbers min max =>
    "<Numbers " ++ bound Layout.inspection.text min ++ ".." ++ bound Layout.inspection.text max ++ ">"
  | .ints min max => "<Ints " ++ bound integerText min ++ ".." ++ bound integerText max ++ ">"
  | .strings => "<Strings>"
  | .oneOf allowed => "<Enum " ++ (Value.array allowed).compact ++ ">"
  | .lists (some item) => "<Lists of " ++ item.name ++ ">"
  | .lists none => "<Lists>"
where
  bound {α : Type} (text : α → String) : Option α → String := Text.inspectOption text

end Validator
end LabRegistry

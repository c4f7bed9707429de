import LabRegistry.Registry.State
import LabRegistry.Value.Numeric
import LabRegistry.Value.Printer

/-!
# Arithmetic inside callables

A callable that combines values fails if they are not numbers.
-/
namespace LabRegistry.Value

def requireAdd (a b : Value) : Except RegistryError Value :=
  match add? a b with
  | some v => .ok v
  | none => .error (.callableFailed ("cannot add " ++ a.compact ++ " and " ++ b.compact))

def requireSub (a b : Value) : Except RegistryError Value :=
  match sub? a b with
  | some v => .ok v
  | none => .error (.callableFailed ("cannot subtract " ++ b.compact ++ " from " ++ a.compact))

end LabRegistry.Value

namespace LabRegistry.Act

/-- A computed result as an operation that changes nothing. -/
def ofExcept {ε α : Type} : Except ε α → Act ε α
  | .ok x => pure x
  | .error cause => fail cause

end LabRegistry.Act

import LabRegistry.Registry.Node

/-!
# Errors of the registry

Each error names its cause; the wording is in `RegistryError.message` alone.
-/
namespace LabRegistry

inductive Operation where
  | get
  | set
deriving DecidableEq

inductive RegistryError where
  /-- The name belongs to a member of another kind on the same node. -/
  | nameTaken (node name : String) (existing : MemberKind)
  | readOnly (parameter : String)
  | noAttribute (node name : String)
  /-- A delegated parameter has no owner, or its owner has no delegate for it. -/
  | noDelegate (parameter : String) (operation : Operation)
  | invalidValue (parameter reason : String)
  /-- The node to attach is the holder itself or contains it. -/
  | containsHolder (node name : String)
  | noFunction (node name : String)
  | callableFailed (reason : String)
deriving DecidableEq

def Operation.text : Operation → String
  | .get => "get"
  | .set => "set"

def RegistryError.message : RegistryError → String
  | .nameTaken node name existing =>
    "name '" ++ name ++ "' on node '" ++ node ++ "' is already bound to a " ++ existing.text
  | .readOnly parameter => "parameter '" ++ parameter ++ "' is read-only"
  | .noAttribute node name => "node '" ++ node ++ "' has no attribute '" ++ name ++ "'"
  | .noDelegate parameter operation =>
    "no " ++ operation.text ++ " delegate registered for parameter '" ++ parameter ++ "'"
  | .invalidValue parameter reason =>
    "invalid value for parameter '" ++ parameter ++ "': " ++ reason
  | .containsHolder node name =>
    "cannot attach '" ++ name ++ "' below '" ++ node ++ "': it already contains '" ++ node ++ "'"
  | .noFunction node name => "node '" ++ node ++ "' has no function '" ++ name ++ "'"
  | .callableFailed reason => "delegate failed: " ++ reason

end LabRegistry

import LabRegistry.Registry.Naming

/-!
# Inspection texts

Texts that show what an object is made of: the name of its kind and its fields between braces.
-/
namespace LabRegistry

def inspectRecord (kind : String) (fields : List (String × String)) : String :=
  kind ++ " \x7b " ++ ", ".intercalate (fields.map fun (name, text) => name ++ ": " ++ text) ++ " \x7d"

def inspectBool (b : Bool) : String := if b then "true" else "false"

def GetSource.inspect : GetSource → String
  | .cache => "Stored"
  | .command _ => "Inline(..)"
  | .owner => "Delegated"

def SetSource.inspect : SetSource → String
  | .cache => "Stored"
  | .command _ => "Inline(..)"
  | .owner => "Delegated"
  | .nowhere => "Disabled"

def Parameter.inspect (param : Parameter) : String :=
  inspectRecord "Parameter" [
    ("name", Text.quoted param.name), ("value", param.value.inspect),
    ("get", param.getSource.inspect), ("set", param.setSource.inspect)]

def Node.inspect (node : Node) : String :=
  inspectRecord "ParameterNode" [
    ("name", Text.inspectOption Text.quoted node.name),
    ("class", Text.quoted node.config.classTag),
    ("parameters", Text.inspectList Text.quoted node.parameters.keys),
    ("parameter_nodes", Text.inspectList Text.quoted node.children.keys)]

def Link.inspect (link : Link) : String :=
  inspectRecord "Link" [
    ("offset", Layout.inspection.text link.offset), ("scale", Layout.inspection.text link.scale),
    ("update", inspectBool link.update)]

def ListenerId.inspect (id : ListenerId) : String :=
  "ListenerId(" ++ String.ofList (Nat.toDigits 10 id.number) ++ ")"

/-- A listener, a target being shown by its full name. -/
def Listener.inspect {ε : Type} : Listener → Act ε String
  | .link target options => do
    return inspectRecord "Parameter" [
      ("target", Text.quoted (← target.fullName)), ("link", options.inspect)]
  | .callback _ => return "Callback(..)"

end LabRegistry

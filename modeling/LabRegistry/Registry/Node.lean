import LabRegistry.Registry.Callable

/-!
# Nodes

A node holds parameters, child nodes, submodules, functions and plain fields, each kind in a map
of its own in insertion order, and the delegates of its parameters by name.
-/
namespace LabRegistry

structure NodeConfig where
  /-- Attribute access goes through to the values of parameters. -/
  forwards : Bool := false
  /-- Snapshots have the short form. -/
  shortSnapshots : Bool := false
  /-- Parameters that join for the first time log their changes. -/
  logsChanges : Bool := false
  /-- The class tag in snapshots. -/
  classTag : String := "ParameterNode"
deriving DecidableEq, Inhabited

namespace NodeConfig

def boolField? : Option Value → Option Bool
  | none => some false
  | some (.bool b) => some b
  | some _ => none

def textField? (fallback : String) : Option Value → Option String
  | none => some fallback
  | some (.string s) => some s
  | some _ => none

/-- A configuration from its four fields, a missing one taking its default. -/
def ofFields? (forwards shortSnapshots logsChanges classTag : Option Value) :
    Option NodeConfig := do
  return {
    forwards := ← boolField? forwards
    shortSnapshots := ← boolField? shortSnapshots
    logsChanges := ← boolField? logsChanges
    classTag := ← textField? "ParameterNode" classTag }

/-- Reads a configuration from an object, whose other keys do not matter, or from the array of
its first fields. -/
def ofValue? : Value → Option NodeConfig
  | .object members =>
    ofFields? (Entries.get? "use_as_attributes" members) (Entries.get? "simplify_snapshot" members)
      (Entries.get? "log_changes" members) (Entries.get? "class_name" members)
  | .array items =>
    if items.length ≤ 4 then ofFields? items[0]? items[1]? items[2]? items[3]? else none
  | _ => none

end NodeConfig

/-- The kinds of members, at most one of which a name of a node belongs to. -/
inductive MemberKind where
  | parameter
  | parameterNode
  | function
  | submodule
  | field
deriving DecidableEq

def MemberKind.text : MemberKind → String
  | .parameter => "parameter"
  | .parameterNode => "parameter node"
  | .function => "function"
  | .submodule => "submodule"
  | .field => "field"

structure Delegates where
  getter : Option Callable := none
  setter : Option Callable := none
deriving Inhabited

structure Node where
  name : Option String := none
  config : NodeConfig := {}
  parameters : OrderedMap ParamId := .empty
  children : OrderedMap NodeId := .empty
  submodules : OrderedMap NodeId := .empty
  functions : OrderedMap Callable := .empty
  fields : OrderedMap Value := .empty
  delegates : OrderedMap Delegates := .empty
  parent : Option NodeId := none
deriving Inhabited

namespace Node

/-- The kind of member that a name belongs to, if any. -/
def kindOf (node : Node) (name : String) : Option MemberKind :=
  if node.parameters.contains name then some .parameter
  else if node.children.contains name then some .parameterNode
  else if node.functions.contains name then some .function
  else if node.submodules.contains name then some .submodule
  else if node.fields.contains name then some .field
  else none

/-- The nodes held by a node, its children before its submodules. -/
def held (node : Node) : List NodeId := node.children.values ++ node.submodules.values

def delegatesFor (node : Node) (name : String) : Delegates := (node.delegates.get? name).getD {}

end Node
end LabRegistry

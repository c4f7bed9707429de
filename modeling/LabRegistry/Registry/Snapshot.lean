import LabRegistry.Digest.Fingerprint
import LabRegistry.Registry.Access

/-!
# Snapshots

A snapshot reports a tree of nodes from the cached values, in insertion order. The full form
gives every member of a node; the short form gives the class tag, the shown values of the
parameters and the snapshots of the child nodes. A snapshot that updates gets every shown
parameter first, and a get that fails ends it.
-/
namespace LabRegistry

/-- The key under which snapshots give the class tag. -/
def classKey : String := "__class__"

structure SnapshotOptions where
  /-- The form at the top; each node below chooses its own. -/
  simplify : Option Bool := none
  update : Bool := false

/-- The key of a parameter in the short form: its name, with the unit if there is one. -/
def simplifiedKey (name : String) (unit : Option String) : String :=
  match unit with
  | some unit => if unit.isEmpty then name else name ++ " (" ++ unit ++ ")"
  | none => name

def Parameter.summary (param : Parameter) (fullName : String) : List (String × Value) :=
  [(classKey, .string "Parameter"), ("full_name", .string fullName), ("name", .string param.name),
    ("label", .string param.shownLabel)]
  ++ param.unit.toList.map (fun unit => ("unit", Value.string unit))
  ++ (if param.inSnapshot then [("raw_value", param.raw), ("value", param.value)] else [])
  ++ param.stamp.toList.map (fun stamp => ("timestamp", Value.string stamp.timestamp))

def functionSummary (name : String) : Value :=
  .object [(classKey, .string "Function"), ("name", .string name)]

namespace ParamId

def snapshot (update : Bool) (p : ParamId) : Act RegistryError (List (String × Value)) := do
  p.refreshShown update
  return (← p.state).summary (← p.fullName)

end ParamId

namespace NodeId

/-- Adds the shown value of a parameter to a short form. -/
def addShown (update : Bool) (members : List (String × Value)) (name : String) (p : ParamId) :
    Act RegistryError (List (String × Value)) := do
  if (← p.state).inSnapshot then
    p.refreshShown update
    let param ← p.state
    return Entries.insert (simplifiedKey name param.unit) param.value members
  else return members

/-- Summaries of named objects, in order. -/
def summaries {α : Type} (summary : α → Act RegistryError (List (String × Value)))
    (entries : List (String × α)) : Act RegistryError Value := do
  let members ← entries.mapM fun (name, object) => do
    return (name, Value.object (← summary object))
  return .object members

/-- The snapshot of a node and what it holds, at most `depth` levels deep. -/
def snapshotWithin : Nat → SnapshotOptions → NodeId → Act RegistryError (List (String × Value))
  | 0, _, _ => throw .endless
  | depth + 1, options, n => do
    let node ← n.state
    let below := snapshotWithin depth { update := options.update }
    let tag := (classKey, Value.string node.config.classTag)
    if options.simplify.getD node.config.shortSnapshots then
      let shown ← node.parameters.entries.foldlM
        (fun members (name, p) => addShown options.update members name p) [tag]
      node.children.entries.foldlM
        (fun members (name, child) =>
          return Entries.insert name (Value.object (← below child)) members) shown
    else
      let parameters ← summaries (ParamId.snapshot options.update) node.parameters.entries
      let children ← summaries below node.children.entries
      let functions := Value.object (node.functions.keys.map fun name => (name, functionSummary name))
      let submodules ← summaries below node.submodules.entries
      return [tag, ("name", (node.name.map Value.string).getD .null), ("parameters", parameters),
        ("parameter_nodes", children), ("functions", functions), ("submodules", submodules)]

/-- The snapshot of a node. No chain of nodes that hold each other is longer than their number. -/
def snapshot (n : NodeId) (options : SnapshotOptions) :
    Act RegistryError (List (String × Value)) := do
  snapshotWithin ((← Act.registry).nodes.size + 1) options n

/-- The fingerprint of the snapshot without update. -/
def fingerprint (n : NodeId) : Act RegistryError String := do
  return (Value.object (← n.snapshot {})).fingerprint

end NodeId
end LabRegistry

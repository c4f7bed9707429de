import LabRegistry.Registry.Containment
import LabRegistry.Text.Title

/-!
# Full names

The path of a node lists the names of its named ancestors from the outermost one down to its own.
Names are computed when they are asked for, so they always show the present names of all
ancestors. A chain of parents that comes back to itself gives no path.
-/
namespace LabRegistry

/-- What the parts of a full name are joined with. -/
def nameSeparator : String := "_"

namespace Registry

/-- The path up to a node, if its chain of parents ends within `fuel` nodes. -/
def pathWithin (r : Registry) : Nat → NodeId → Option (List String)
  | 0, _ => none
  | fuel + 1, n => do
    let above ← match r.parent? n with
      | none => some []
      | some parent => r.pathWithin fuel parent
    return above ++ (r.node n).name.toList

/-- The path of a node; a chain without repetition has at most as many nodes as there are. -/
def path? (r : Registry) (n : NodeId) : Option (List String) := r.pathWithin (r.nodes.size + 1) n

/-- The name for messages: the full name or, if that is empty, the class tag. -/
def displayName? (r : Registry) (n : NodeId) : Option String :=
  (r.path? n).map fun path =>
    let full := nameSeparator.intercalate path
    if full.isEmpty then (r.node n).config.classTag else full

/-- The path of the live owner and the parameter's own name. -/
def paramName? (r : Registry) (p : ParamId) : Option String :=
  match r.owner? p with
  | none => some (r.param p).name
  | some owner =>
    (r.path? owner).map fun path => nameSeparator.intercalate (path ++ [(r.param p).name])

end Registry

/-- The label, made from the name if none was given. -/
def Parameter.shownLabel (param : Parameter) : String :=
  param.label.getD (Text.titleLabel param.name)

namespace Act

variable {ε α : Type}

/-- Stops as endless where there is no answer. -/
def orEndless (answer : Registry → Option α) : Act ε α := do
  match answer (← registry) with
  | some x => return x
  | none => throw .endless

end Act

namespace NodeId

variable {ε : Type}

def path (n : NodeId) : Act ε (List String) := Act.orEndless (·.path? n)

def fullName (n : NodeId) : Act ε String := return nameSeparator.intercalate (← n.path)

def displayName (n : NodeId) : Act ε String := Act.orEndless (·.displayName? n)

end NodeId

namespace ParamId

variable {ε : Type}

def fullName (p : ParamId) : Act ε String := Act.orEndless (·.paramName? p)

end ParamId
end LabRegistry

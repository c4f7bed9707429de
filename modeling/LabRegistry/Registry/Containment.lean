import LabRegistry.Registry.State

/-!
# Containment and life

A node holds its children and submodules; a node may be held in several places. A node is alive
while a handle or a running operation reaches it along what nodes hold. The parent of a node and
the owner of a parameter are remembered but do not count once they are dead.
-/
namespace LabRegistry

/-- The nodes that a handle keeps alive. -/
def Registry.heldByObject (r : Registry) : Object → List NodeId
  | .parameter _ => []
  | .node n => [n]
  | .pulse n => [n]
  | .sequence s => [(r.sequence s).node]
  | .instrument n _ => [n]
  | .device _ => []
  | .station station => [station.root, (r.sequence station.sequence).node, station.instrument]

namespace Registry

/-- One step of containment. -/
def held (r : Registry) (n : NodeId) : List NodeId := (r.node n).held

def edgeCount (r : Registry) : Nat :=
  r.nodes.cells.foldl (fun total node => total + node.held.length) 0

/-- Looks for `target` from the pending nodes on, each node being opened once; every step takes
a pending node away, so their number with that of all edges is enough fuel. -/
def search (r : Registry) (target : NodeId) : Nat → List NodeId → List NodeId → Bool
  | 0, _, _ => false
  | _ + 1, _, [] => false
  | fuel + 1, visited, n :: pending =>
    if n = target then true
    else if visited.contains n then search r target fuel visited pending
    else search r target fuel (n :: visited) (r.held n ++ pending)

/-- Some starting node is `target` or contains it. -/
def reaches (r : Registry) (starts : List NodeId) (target : NodeId) : Bool :=
  r.search target (starts.length + r.edgeCount + 1) [] starts

/-- The node is `target` or contains it. -/
def contains (r : Registry) (n target : NodeId) : Bool := r.reaches [n] target

/-- The nodes that are held from outside. -/
def roots (r : Registry) : List NodeId :=
  r.inUse ++ r.bench.handles.values.flatMap r.heldByObject

def isAlive (r : Registry) (n : NodeId) : Bool := r.reaches r.roots n

/-- The parent, if there is one and it is alive. -/
def parent? (r : Registry) (n : NodeId) : Option NodeId := (r.node n).parent.filter r.isAlive

/-- The owner, if there is one and it is alive. -/
def owner? (r : Registry) (p : ParamId) : Option NodeId := (r.param p).owner.filter r.isAlive

end Registry

namespace NodeId

variable {ε : Type}

def parent? (n : NodeId) : Act ε (Option NodeId) := return (← Act.registry).parent? n

def contains (n target : NodeId) : Act ε Bool := return (← Act.registry).contains n target

end NodeId

namespace ParamId

variable {ε : Type}

def owner? (p : ParamId) : Act ε (Option NodeId) := return (← Act.registry).owner? p

/-- Whether the node is the owner; a dead owner stays the owner. -/
def isOwnedBy (p : ParamId) (n : NodeId) : Act ε Bool := return (← p.state).owner == some n

end ParamId
end LabRegistry

import LabRegistry.Registry.Script
import LabRegistry.Value.Canonical

/-!
# The workbench

The user holds objects by handles. A handle keeps its object until it is dropped or stored anew,
and several handles may stand for one object.
-/
namespace LabRegistry

/-- The node that an object is or stands for; a device and a station stand for none. -/
def Registry.nodeOfObject? (r : Registry) : Object → Option NodeId
  | .node n => some n
  | .pulse n => some n
  | .sequence s => some (r.sequence s).node
  | .instrument n _ => some n
  | .parameter _ => none
  | .device _ => none
  | .station _ => none

/-- The device that an object is or works on. -/
def Object.device? : Object → Option DeviceId
  | .device d => some d
  | .instrument _ d => some d
  | _ => none

namespace Registry

/-- The handles of the objects with a property, in ascending order. -/
def handlesOf (r : Registry) (p : Object → Bool) : List String :=
  (Value.sortByKey (r.bench.handles.entries.filter fun entry => p entry.2)).map (·.1)

def nodeHandles (r : Registry) (n : NodeId) : List String :=
  r.handlesOf fun object => r.nodeOfObject? object == some n

def paramHandles (r : Registry) (p : ParamId) : List String :=
  r.handlesOf fun
    | .parameter q => q == p
    | _ => false

end Registry

namespace Act

variable {ε : Type}

/-- Stores an object under a handle, which lets go of what it stood for. -/
def store (handle : String) (object : Object) : Act ε Unit :=
  changeBench fun bench => { bench with handles := bench.handles.insert handle object }

/-- Drops a handle; tells whether it existed. -/
def drop (handle : String) : Act ε Bool := do
  let existed := (← bench).handles.contains handle
  changeBench fun bench => { bench with handles := bench.handles.erase handle }
  return existed

def setCell (name : String) (v : Value) : Act ε Unit :=
  changeBench fun bench => { bench with cells := bench.cells.insert name v }

/-- The value of a cell, `null` if it was never set. -/
def cell (name : String) : Act ε Value := return ((← bench).cells.get? name).getD .null

/-- Stores the number of a listener under a name. -/
def storeListener (name : String) (id : ListenerId) : Act ε Unit :=
  changeBench fun bench => { bench with listeners := bench.listeners.insert name id }

def storeStation (handle : String) (station : Station) : Act ε Unit := do
  store handle (.station station)
  store (handle ++ ".root") (.node station.root)
  store (handle ++ ".seq") (.sequence station.sequence)
  store (handle ++ ".inst") (.instrument station.instrument station.device)

end Act

def Registry.fresh (r : Registry) : Registry :=
  { r with bench := { r.bench with journal := [] }, log := { r.log with lines := [] } }

end LabRegistry

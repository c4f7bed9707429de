import LabRegistry.Registry.Arena
import LabRegistry.Registry.Error
import LabRegistry.Registry.Parameter

/-!
# The state of a registry and the operations on it

A registry holds all objects, the workbench of its user and the log. An operation is an `Act`: it
changes the registry and gives a result or stops. What an operation did before it stopped stays
done.
-/
namespace LabRegistry

/-- A device in memory with registers that are read and written by address. -/
structure Device where
  registers : OrderedMap Value := .empty
  online : Bool := true
  /-- How many writes succeeded. -/
  writes : Nat := 0
deriving Inhabited

/-- A pulse sequence: its node, the duration if it is fixed, and by the name of each pulse the
listener through which its stop reaches the duration. -/
structure Sequence where
  node : NodeId
  fixedDuration : Option Double := none
  stopLinks : OrderedMap ListenerId := .empty
deriving Inhabited

/-- A demonstration station: its root node, its sequence and its instrument. -/
structure Station where
  root : NodeId
  sequence : SequenceId
  instrument : NodeId
  device : DeviceId
deriving DecidableEq, Inhabited

/-- What a handle of the workbench stands for. -/
inductive Object where
  | parameter (p : ParamId)
  | node (n : NodeId)
  | pulse (n : NodeId)
  | sequence (s : SequenceId)
  | instrument (n : NodeId) (device : DeviceId)
  | device (device : DeviceId)
  | station (station : Station)
deriving DecidableEq

/-- What the user holds and what the scripts of the user read and write. -/
structure Workbench where
  handles : OrderedMap Object := .empty
  cells : OrderedMap Value := .empty
  listeners : OrderedMap ListenerId := .empty
  journal : List (String × Value) := []
deriving Inhabited

inductive LogLevel where
  | debug
  | warn
deriving DecidableEq

/-- The log; nothing is composed or kept while it is off. -/
structure Log where
  enabled : Bool := false
  lines : List (LogLevel × String) := []
deriving Inhabited

structure Registry where
  params : Arena Parameter := {}
  nodes : Arena Node := {}
  devices : Arena Device := {}
  sequences : Arena Sequence := {}
  bench : Workbench := {}
  /-- Nodes that running operations hold. -/
  inUse : List NodeId := []
  log : Log := {}
  /-- What the clock shows when it is read next. -/
  now : Instant := default
deriving Inhabited

namespace Registry

def param (r : Registry) (p : ParamId) : Parameter := r.params.get p.index

def node (r : Registry) (n : NodeId) : Node := r.nodes.get n.index

def device (r : Registry) (d : DeviceId) : Device := r.devices.get d.index

def sequence (r : Registry) (s : SequenceId) : Sequence := r.sequences.get s.index

end Registry

/-! ## Operations -/

/-- Why an operation stops without a result. -/
inductive Halt (ε : Type) where
  | failed (cause : ε)
  /-- Listeners, delegates or parents go round without end. -/
  | endless
  /-- A script names a handle that does not exist, or asks for what its caller does not give. -/
  | undefinedName
deriving DecidableEq

def Halt.map {ε ε' : Type} (f : ε → ε') : Halt ε → Halt ε'
  | .failed cause => .failed (f cause)
  | .endless => .endless
  | .undefinedName => .undefinedName

abbrev Act (ε α : Type) : Type := ExceptT (Halt ε) (StateM Registry) α

namespace Act

variable {ε α : Type}

def registry : Act ε Registry := get

def change (f : Registry → Registry) : Act ε Unit := modify f

def fail (cause : ε) : Act ε α := throw (.failed cause)

/-- The operation with its errors seen as those of a larger kind. -/
def mapError {ε' : Type} (f : ε → ε') (act : Act ε α) : Act ε' α := fun r =>
  match act r with
  | (.ok x, r) => (.ok x, r)
  | (.error halt, r) => (.error (halt.map f), r)

/-- What the operation gives, or none if it fails. The error is composed before it is dropped, and
whatever else stops the operation stops this one. -/
def attempt {ε' : Type} (act : Act ε α) : Act ε' (Option α) := fun r =>
  match act r with
  | (.ok x, r) => (.ok (some x), r)
  | (.error (.failed _), r) => (.ok none, r)
  | (.error .endless, r) => (.error .endless, r)
  | (.error .undefinedName, r) => (.error .undefinedName, r)

/-- Runs an operation that holds the node as long as it runs. -/
def holding (n : NodeId) (act : Act ε α) : Act ε α := fun r =>
  let (result, after) := act { r with inUse := n :: r.inUse }
  (result, { after with inUse := r.inUse })

/-- Reads the clock, which moves on, so that two readings are never the same. -/
def readClock : Act ε Instant := do
  let r ← registry
  change fun r => { r with now := r.now.next }
  return r.now

/-- Writes a line into the log if it is on. -/
def writeLog (level : LogLevel) (text : Act ε String) : Act ε Unit := do
  if (← registry).log.enabled then
    let line ← text
    change fun r => { r with log := { r.log with lines := r.log.lines ++ [(level, line)] } }

def debug (text : Act ε String) : Act ε Unit := writeLog .debug text

def warn (text : Act ε String) : Act ε Unit := writeLog .warn text

end Act

namespace ParamId

variable {ε : Type}

def state (p : ParamId) : Act ε Parameter := return (← Act.registry).param p

def change (p : ParamId) (f : Parameter → Parameter) : Act ε Unit :=
  Act.change fun r => { r with params := r.params.change p.index f }

end ParamId

namespace NodeId

variable {ε : Type}

def state (n : NodeId) : Act ε Node := return (← Act.registry).node n

def change (n : NodeId) (f : Node → Node) : Act ε Unit :=
  Act.change fun r => { r with nodes := r.nodes.change n.index f }

end NodeId

namespace DeviceId

variable {ε : Type}

def state (d : DeviceId) : Act ε Device := return (← Act.registry).device d

def change (d : DeviceId) (f : Device → Device) : Act ε Unit :=
  Act.change fun r => { r with devices := r.devices.change d.index f }

end DeviceId

namespace SequenceId

variable {ε : Type}

def state (s : SequenceId) : Act ε Sequence := return (← Act.registry).sequence s

def change (s : SequenceId) (f : Sequence → Sequence) : Act ε Unit :=
  Act.change fun r => { r with sequences := r.sequences.change s.index f }

end SequenceId
end LabRegistry

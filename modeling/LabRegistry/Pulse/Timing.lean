import LabRegistry.Registry.Arithmetic
import LabRegistry.Registry.Transfer

/-!
# Timing of pulses and sequences

The stop of a pulse is its start plus its duration; setting it changes the duration. The duration
of a sequence is the last stop of its enabled pulses unless it is fixed. The delegates here say
so over any handler.
-/
namespace LabRegistry

def pulseClass : String := "Pulse"

namespace Registry

def isPulse (r : Registry) (n : NodeId) : Bool := (r.node n).config.classTag == pulseClass

/-- The child nodes that are pulses, in insertion order. -/
def pulses (r : Registry) (n : NodeId) : List NodeId := (r.node n).children.values.filter r.isPulse

end Registry

namespace NodeId

def pulses {ε : Type} (n : NodeId) : Act ε (List NodeId) := return (← Act.registry).pulses n

/-- A pulse is enabled unless its parameter for this is there and `false`. -/
def isEnabled {ε : Type} (n : NodeId) : Act ε Bool := do
  match ← (n.parameter "enabled").attempt with
  | some p => return (← p.state).value != .bool false
  | none => return true

/-- The stop of a pulse, `null` while its start or duration is not a number. -/
def pulseStop (handler : Handler) (n : NodeId) : Act RegistryError Value := do
  let start ← n.getWith handler "t_start"
  let duration ← n.getWith handler "duration"
  return (start.add? duration).getD .null

/-- Gives a pulse the duration that ends at `stop`. -/
def setPulseStop (handler : Handler) (n : NodeId) (stop : Value) : Act RegistryError Unit := do
  let start ← n.getWith handler "t_start"
  n.setWith handler "duration" (← Act.ofExcept (stop.requireSub start))

/-- The numbers that a parameter has on the enabled ones among some pulses. -/
def timesOf (handler : Handler) (parameter : String) : List NodeId → Act RegistryError (List Double)
  | [] => return []
  | pulse :: rest => do
    if ← pulse.isEnabled then
      let v ← pulse.getWith handler parameter
      return v.toDouble?.toList ++ (← timesOf handler parameter rest)
    else timesOf handler parameter rest

/-- The numbers that a parameter has on the enabled pulses of a node, in ascending order. -/
def pulseTimes (handler : Handler) (n : NodeId) (parameter : String) :
    Act RegistryError (List Double) := do
  let times ← timesOf handler parameter (← n.pulses)
  return times.mergeSort Double.totalLe

end NodeId

namespace SequenceId

/-- The fixed duration or the last stop of the enabled pulses, at least zero. -/
def duration (handler : Handler) (s : SequenceId) (n : NodeId) : Act RegistryError Value := do
  match (← s.state).fixedDuration with
  | some duration => return .ofDouble duration
  | none =>
    let stops ← n.pulseTimes handler "t_stop"
    return .ofDouble (stops.foldl Double.larger .zero)

end SequenceId
end LabRegistry

import LabRegistry.Pulse.Basic

/-!
# Pulse sequences

A sequence is a node whose child nodes are pulses, each under its name. Its duration is the last
stop of its enabled pulses unless it is fixed; adding or removing a pulse frees it. A listener on
the stop of every pulse keeps the duration up to date.
-/
namespace LabRegistry

def sequenceClass : String := "PulseSequence"

/-- The delay after a sequence unless another is set: half a millisecond. -/
def defaultFinalDelay : Double := .ofDecimal false 5 (-4)

namespace SequenceId

def config : NodeConfig where
  forwards := true
  shortSnapshots := true
  classTag := sequenceClass

/-- Adds the parameters of a sequence; both lists of times are for reading only. -/
def equip (s : SequenceId) (n : NodeId) : Act RegistryError Unit := do
  let _ ← n.addPlanned { name := "allow_pulse_overlap", validator := .bool, initial := .bool true }
  let _ ← n.addPlanned {
    name := "final_delay", unit := some "s", validator := .numbers none none
    initial := .ofDouble defaultFinalDelay }
  let _ ← n.addPlanned (ParameterPlan.delegated {
    name := "duration", unit := some "s", validator := .numbers none none })
  let _ ← n.addPlanned (ParameterPlan.delegated { name := "t_start_list" })
  let _ ← n.addPlanned (ParameterPlan.delegated { name := "t_stop_list" })
  n.registerGetter "duration" (.sequenceDuration s)
  n.registerSetter "duration" (.fixDuration s)
  n.registerGetter "t_start_list" (.pulseTimes "t_start")
  n.registerGetter "t_stop_list" (.pulseTimes "t_stop")

def create (name : Option String) : Act DomainError SequenceId := do
  let n ← NodeId.create name config
  let s : SequenceId := ⟨(← Act.registry).sequences.size⟩
  Act.change fun r => { r with sequences := r.sequences.push { node := n } }
  Act.holding n (equip s n)
  return s

def node {ε : Type} (s : SequenceId) : Act ε NodeId := return (← s.state).node

/-- All pulses in insertion order. -/
def pulses {ε : Type} (s : SequenceId) : Act ε (List NodeId) := do (← s.node).pulses

def pulse (s : SequenceId) (name : String) : Act DomainError NodeId := do
  let child ← (← s.node).child name
  if (← Act.registry).isPulse child then return child else Act.fail (.notAPulse name)

/-- Fails at the first of the pulses that is enabled and overlaps with the new one. -/
def refuseOverlap (pulse : NodeId) (name : String) : List NodeId → Act DomainError Unit
  | [] => return ()
  | other :: rest => do
    if ← other.isEnabled then
      if ← Pulse.overlaps pulse other then
        Act.fail (.pulsesOverlap name ((← other.state).name.getD ""))
    refuseOverlap pulse name rest

/-- Frees the duration and brings it up to date. -/
def freeDuration (s : SequenceId) : Act RegistryError Unit := do
  s.change ({ · with fixedDuration := none })
  let _ ← (← (← s.node).parameter "duration").update

/-- Adds a pulse under its name. It must have one that is not taken by a child and, unless pulses
may overlap, its times must be free of those of the enabled pulses. -/
def addPulse (s : SequenceId) (pulse : NodeId) : Act DomainError Unit := do
  let n ← s.node
  let some name := (← pulse.state).name | Act.fail .unnamedPulse
  if (← (n.child name).attempt).isSome then Act.fail (.pulseNameTaken name)
  if (← n.get "allow_pulse_overlap") == .bool false then refuseOverlap pulse name (← s.pulses)
  n.addChild name pulse
  let duration ← n.parameter "duration"
  let link ← (← pulse.parameter "t_stop").listen (.callback (.refreshOwned duration))
  s.change fun seq => { seq with stopLinks := seq.stopLinks.insert name link }
  s.freeDuration
  Act.debug do
    return "added pulse '" ++ name ++ "' to sequence '" ++ (← n.displayName) ++ "'"

/-- Takes the listener of a pulse away, if there is one under the name. -/
def unlink (s : SequenceId) (pulse : NodeId) (name : String) : Act RegistryError Unit := do
  let link := (← s.state).stopLinks.get? name
  s.change fun seq => { seq with stopLinks := seq.stopLinks.erase name }
  if let some link := link then
    let _ ← (← pulse.parameter "t_stop").disconnect link

/-- Takes a pulse out, together with the listener that feeds the duration. -/
def removePulse (s : SequenceId) (name : String) : Act DomainError NodeId := do
  let n ← s.node
  let pulse ← s.pulse name
  Act.holding pulse do
    s.unlink pulse name
    let _ ← n.removeChild name
    s.freeDuration
    Act.debug do
      return "removed pulse '" ++ name ++ "' from sequence '" ++ (← n.displayName) ++ "'"
  return pulse

def clear (s : SequenceId) : Act DomainError Unit := do
  let r ← Act.registry
  let entries := (r.node (← s.node)).children.entries.filter fun (_, child) => r.isPulse child
  entries.forM fun (name, _) => do
    let _ ← s.removePulse name

def addCopy (copy : SequenceId) (pulse : NodeId) : Act DomainError Unit := do
  let pulse ← Pulse.copy pulse
  Act.holding pulse (copy.addPulse pulse)

def copySetting (n copy : NodeId) (name : String) : Act RegistryError Unit := do
  copy.set name (← (← n.parameter name).latest)

/-- An independent copy with copies of all pulses. Overlaps are judged only after the pulses are
in, and a fixed duration stays fixed. -/
def copy (s : SequenceId) : Act DomainError SequenceId := do
  let n ← s.node
  let copy ← create (← n.state).name
  let copyNode ← copy.node
  Act.holding copyNode do
    copySetting n copyNode "final_delay"
    (← s.pulses).forM copy.addCopy
    copySetting n copyNode "allow_pulse_overlap"
    let fixed := (← s.state).fixedDuration
    copy.change ({ · with fixedDuration := fixed })
    let _ ← (← copyNode.parameter "duration").update
  return copy

end SequenceId
end LabRegistry

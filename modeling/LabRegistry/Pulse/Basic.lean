import LabRegistry.Pulse.Error
import LabRegistry.Registry.Snapshot

/-!
# Pulses

A pulse is a node with a start, a duration, a stop, an amplitude and a switch. Start and duration
are cached; the stop is delegated. Whenever start or duration is set, the stop is updated, so its
listeners hear of every change.
-/
namespace LabRegistry

structure PulsePlan where
  name : Option String := none
  start : Option Value := none
  duration : Option Value := none
  stop : Option Value := none
  amplitude : Option Value := none
  enabled : Option Bool := none

/-- One call on the builder of a pulse. -/
inductive PulseEntry where
  | start (v : Value)
  | duration (v : Value)
  | stop (v : Value)
  | amplitude (v : Value)
  | enabled (b : Bool)

/-- The plan with one more entry, which replaces an earlier one of its kind. -/
def PulsePlan.enter (plan : PulsePlan) : PulseEntry → PulsePlan
  | .start v => { plan with start := some v }
  | .duration v => { plan with duration := some v }
  | .stop v => { plan with stop := some v }
  | .amplitude v => { plan with amplitude := some v }
  | .enabled b => { plan with enabled := some b }

/-- What the builder has after all calls, in their order. -/
def PulsePlan.build (name : Option String) (entries : List PulseEntry) : PulsePlan :=
  entries.foldl enter { name }

/-- Equality for queries and conditions: two numbers are compared as doubles. -/
def Value.agrees (actual expected : Value) : Bool :=
  match actual.toDouble?, expected.toDouble? with
  | some a, some b => a.eq b
  | _, _ => actual == expected

namespace NodeId

/-- Makes a parameter as planned and binds it under its name. -/
def addPlanned (n : NodeId) (plan : ParameterPlan) : Act RegistryError ParamId := do
  let p ← plan.create
  n.addParameter p
  return p

/-- The snapshot by which pulses and sequences are compared, none if a get fails. -/
def contents (n : NodeId) : Act RegistryError (Option Value) := do
  return (← (n.snapshot { simplify := some true, update := true }).attempt).map .object

/-- Equality by contents; names and parents do not count. -/
def sameContents (n other : NodeId) : Act RegistryError Bool := do
  let left ← n.contents
  let right ← other.contents
  match left, right with
  | some a, some b => return a == b
  | _, _ => return false

end NodeId

namespace Pulse

def config : NodeConfig where
  forwards := true
  shortSnapshots := true
  classTag := pulseClass

/-- Adds the parameters of a pulse and the rules that keep its stop. -/
def equip (n : NodeId) : Act RegistryError Unit := do
  let _ ← n.addPlanned { name := "enabled", validator := .bool, initial := .bool true }
  let start ← n.addPlanned { name := "t_start", unit := some "s", validator := .numbers none none }
  let duration ← n.addPlanned {
    name := "duration", unit := some "s", validator := .numbers (some .zero) none }
  let stop ← n.addPlanned (ParameterPlan.delegated {
    name := "t_stop", unit := some "s", validator := .numbers none none })
  let _ ← n.addPlanned { name := "amplitude", unit := some "V", validator := .numbers none none }
  n.registerGetter "t_stop" .pulseStop
  n.registerSetter "t_stop" .setPulseStop
  let _ ← start.listen (.callback (.refresh stop))
  let _ ← duration.listen (.callback (.refresh stop))

/-- Makes an enabled pulse without times and amplitude. -/
def create (name : Option String) : Act DomainError NodeId := do
  let n ← NodeId.create name config
  Act.holding n do
    equip n
    Act.debug do return "created pulse '" ++ (← n.displayName) ++ "'"
  return n

def setGiven (n : NodeId) (name : String) (v : Option Value) : Act RegistryError Unit := do
  match v with
  | some v => n.set name v
  | none => return ()

/-- Makes a pulse with its initial values, which may fix the stop or the duration but not both. -/
def createWith (plan : PulsePlan) : Act DomainError NodeId := do
  if plan.duration.isSome && plan.stop.isSome then Act.fail .durationAndStop
  let n ← create plan.name
  Act.holding n do
    setGiven n "t_start" plan.start
    setGiven n "duration" plan.duration
    setGiven n "t_stop" plan.stop
    setGiven n "amplitude" plan.amplitude
    setGiven n "enabled" (plan.enabled.map .bool)
  return n

def number? (n : NodeId) (name : String) : Act DomainError (Option Double) :=
  return (← n.get name).toDouble?

def start? (n : NodeId) : Act DomainError (Option Double) := number? n "t_start"

def duration? (n : NodeId) : Act DomainError (Option Double) := number? n "duration"

def stop? (n : NodeId) : Act DomainError (Option Double) := number? n "t_stop"

/-- Sets a parameter of the copy to the cached value of the pulse, if there is one. -/
def copyValue (n copy : NodeId) (name : String) : Act RegistryError Unit := do
  let v ← (← n.parameter name).latest
  if !v.isNull then copy.set name v

/-- Copies the values that make up a pulse; the stop follows from them. -/
def copyValues (n copy : NodeId) : Act RegistryError Unit :=
  ["enabled", "t_start", "duration", "amplitude"].forM (copyValue n copy)

/-- A copy without parent, with the same name and values. -/
def copy (n : NodeId) : Act DomainError NodeId := do
  let copy ← create (← n.state).name
  Act.holding copy (copyValues n copy)
  return copy

/-- Whether every condition holds; one on a parameter that does not exist does not. -/
def satisfies (n : NodeId) : List (String × Value) → Act DomainError Bool
  | [] => return true
  | (name, expected) :: rest => do
    match ← (n.parameter name).attempt with
    | none => return false
    | some p =>
      if (← p.get).agrees expected then satisfies n rest else return false

def interval? (n : NodeId) : Act DomainError (Option (Double × Double)) := do
  let start ← start? n
  let stop ← stop? n
  return start.bind fun start => stop.map fun stop => (start, stop)

/-- Two half-open intervals have a point in common. -/
def intervalsMeet : Option (Double × Double) → Option (Double × Double) → Bool
  | some (start, stop), some (start', stop') => start.lt stop' && start'.lt stop
  | _, _ => false

/-- Whether the times from start up to, but not including, stop meet those of the other pulse. -/
def overlaps (n other : NodeId) : Act DomainError Bool := do
  let mine ← interval? n
  let theirs ← interval? other
  return intervalsMeet mine theirs

end Pulse
end LabRegistry

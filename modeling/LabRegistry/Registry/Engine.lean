import LabRegistry.Instrument.Device
import LabRegistry.Pulse.Timing
import LabRegistry.Registry.Script

/-!
# The engine

The engine answers requests, those that arise on the way included. Its fuel bounds how deep
requests nest. It grows with the number of parameters, so links that do not go round never use it
up; listeners and delegates that do go round have room for two hundred thousand turns.
-/
namespace LabRegistry

/-- Runs a callable; where no result is wanted, it is `null`. -/
def Callable.run (handler : Handler) (call : Call) : Callable → Act RegistryError Value
  | .script body => body.run handler call
  | .pulseStop => do (← Act.defined call.node).pulseStop handler
  | .setPulseStop => do
    (← Act.defined call.node).setPulseStop handler call.value
    return .null
  | .refresh p => do
    let _ ← handler (.update p)
    return .null
  | .refreshOwned p => do
    match ← p.owner? with
    | some _ =>
      let _ ← handler (.update p)
      return .null
    | none => return .null
  | .sequenceDuration s => do s.duration handler (← Act.defined call.node)
  | .fixDuration s => do
    s.change ({ · with fixedDuration := call.value.toDouble? })
    return .null
  | .pulseTimes parameter => do
    let times ← (← Act.defined call.node).pulseTimes handler parameter
    return .array (times.map .ofDouble)
  | .readRegister device address => device.read address
  | .writeRegister device address => do
    device.write address call.value
    return .null
  | .voltsOfMillivolts => Act.ofExcept call.value.voltsOfMillivolts
  | .millivoltsOfVolts => Act.ofExcept call.value.millivoltsOfVolts
  | .resetChannels device count => do
    device.resetChannels count
    return .null

/-- Answers a request with the help of a handler for those that arise from it. -/
def Request.answer (handler : Handler) : Request → Act RegistryError Value
  | .get p => p.getWith handler
  | .set p v => do
    p.setWith handler v
    return .null
  | .update p => p.updateWith handler
  | .call callable told => callable.run handler told

/-- Answers requests that nest at most `fuel` deep. -/
def engine : Nat → Handler
  | 0, _ => throw .endless
  | fuel + 1, request => request.answer (engine fuel)

def Registry.depthLimit (r : Registry) : Nat := 400000 + 8 * r.params.size

/-- Answers a request of the user. -/
def Request.perform (request : Request) : Act RegistryError Value := do
  engine (← Act.registry).depthLimit request

end LabRegistry

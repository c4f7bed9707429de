import LabRegistry.Application.CommandLine
import LabRegistry.Application.Config
import LabRegistry.Instrument.Basic
import LabRegistry.Registry.Table
import LabRegistry.Sequence.Basic

/-!
# The demonstration station

A root node with a sequence of two pulses, the second starting where the first stops, and a
simulated instrument of two channels.
-/
namespace LabRegistry

namespace NodeId

/-- Lets all parameters of a node and of what it holds log their changes. -/
def logAllWithin : Nat → NodeId → Act RegistryError Unit
  | 0, _ => throw .endless
  | depth + 1, n => do
    let node ← n.state
    node.parameters.values.forM fun p => p.change ({ · with logsChanges := true })
    node.held.forM (logAllWithin depth)

def logAll (n : NodeId) : Act RegistryError Unit := do
  logAllWithin ((← Act.registry).nodes.size + 1) n

end NodeId

namespace Station

def rootName : String := "station"

/-- What the instrument of the station answers when it is asked who it is. -/
def identification : String := "paramtree,SIM-2CH,0001,1.0"

def decimal (digits : Nat) (exponent : Int) : Value := .ofDouble (.ofDecimal false digits exponent)

def addCreationTime (root : NodeId) : Act RegistryError Unit := do
  let now ← Act.readClock
  let _ ← root.addPlanned (ParameterPlan.readOnly {
    name := "created_at", initial := .string now.internetText })

def addPulse (s : SequenceId) (plan : PulsePlan) : Act DomainError NodeId := do
  let pulse ← Pulse.createWith plan
  Act.holding pulse (s.addPulse pulse)
  return pulse

/-- Adds both pulses and links the stop of the first to the start of the second. -/
def addPulses (s : SequenceId) : Act AppError Unit := do
  let plunge ← addPulse s {
    name := some "plunge", start := some (decimal 0 0), duration := some (decimal 5 (-3))
    amplitude := some (decimal 1 0) }
  let read ← addPulse s {
    name := some "read", duration := some (decimal 20 (-3)), amplitude := some (decimal 5 (-1)) }
  (← plunge.parameter "t_stop").connect (← read.parameter "t_start") { update := true }

/-- Makes the instrument and sets its first channel to a quarter volt. -/
def createInstrument (device : DeviceId) : Act DomainError NodeId := do
  let n ← Instrument.create "sim" 2 device
  Act.holding n do (← Instrument.channel n 1).set "voltage" (decimal 25 (-2))
  return n

def assemble (config : AppConfig) (station : Station) : Act RegistryError Unit := do
  let sequence ← station.sequence.node
  station.root.addChild "sequence" sequence
  Act.holding station.instrument (station.root.addChild "sim" station.instrument)
  if config.logsChanges then station.root.logAll
  Act.debug do return "built demo station '" ++ (← station.root.displayName) ++ "'"

def create (config : AppConfig) : Act AppError Station := do
  let root ← NodeId.create (some rootName) config.nodeConfig
  Act.holding root do
    addCreationTime root
    let sequence ← SequenceId.create none
    let sequenceNode ← sequence.node
    Act.holding sequenceNode do
      addPulses sequence
      let device ← DeviceId.create identification
      let instrument ← createInstrument device
      let station : Station := { root, sequence, instrument, device }
      assemble config station
      return station

/-- The document with the time, the fingerprint and the snapshot. -/
def report (now : Instant) (snapshot : Value) : Value :=
  .object [("generated_at", .string now.internetText), ("fingerprint", .string snapshot.fingerprint),
    ("snapshot", snapshot)]

def render (station : Station) (options : RenderOptions) (config : AppConfig) :
    Act RegistryError String := do
  match options.format with
  | .snapshot =>
    let simplify := if options.simplify then some true else none
    let snapshot ← station.root.snapshot { simplify, update := options.update }
    return (report (← Act.readClock) (.object snapshot)).indented
  | .print => station.root.table options.update config.maxChars

end Station
end LabRegistry

import LabRegistry.Pulse.Basic

/-!
# Simulated instruments

An instrument is a node whose parameters read and write the registers of a device. Its channels
are submodules named `ch1`, `ch2` and so on.
-/
namespace LabRegistry.Instrument

def classTag : String := "SimulatedInstrument"

def channelClass : String := "Channel"

/-- The greatest voltage of a channel, in both directions. -/
def voltageLimit : Double := .ofInt 10

/-- A voltage in volts on a register in millivolts. -/
def voltagePlan (device : DeviceId) (index : Nat) : ParameterPlan where
  name := "voltage"
  unit := some "V"
  validator := .numbers (some voltageLimit.neg) (some voltageLimit)
  getSource := .command (.readRegister device (DeviceId.voltageAddress index))
  setSource := some (.command (.writeRegister device (DeviceId.voltageAddress index)))
  getParser := some .voltsOfMillivolts
  setParser := some .millivoltsOfVolts

def couplingPlan (device : DeviceId) (index : Nat) : ParameterPlan where
  name := "output_coupling"
  validator := .oneOf [.string "DC", .string "AC"]
  getSource := .command (.readRegister device (DeviceId.couplingAddress index))
  setSource := some (.command (.writeRegister device (DeviceId.couplingAddress index)))

/-- Makes the node of a channel, whose registers are reset. -/
def createChannel (device : DeviceId) (index : Nat) : Act RegistryError NodeId := do
  let channel ← NodeId.create none { classTag := channelClass }
  Act.holding channel do
    device.resetChannel index
    let _ ← channel.addPlanned (voltagePlan device index)
    let _ ← channel.addPlanned (couplingPlan device index)
  return channel

def addChannel (n : NodeId) (device : DeviceId) (index : Nat) : Act RegistryError Unit := do
  let channel ← createChannel device index
  Act.holding channel (n.addSubmodule (DeviceId.channelName index) channel)

/-- Adds the settings that do not reach the device. -/
def addSettings (n : NodeId) : Act RegistryError Unit := do
  let settings ← NodeId.create none {}
  Act.holding settings do
    n.addChild "additional_settings" settings
    let _ ← settings.addPlanned {
      name := "averages", validator := .ints (some 1) none, initial := .ofInteger { val := 1 } }
    let _ ← settings.addPlanned {
      name := "trigger_source", validator := .oneOf [.string "internal", .string "external"]
      initial := .string "internal" }

/-- Adds the identification, the channels, the reset and the settings. -/
def equip (n : NodeId) (channels : Nat) (device : DeviceId) : Act RegistryError Unit := do
  let _ ← n.addPlanned {
    name := "idn", label := some "Identification", getSource := .command (.readRegister device "*IDN") }
  (List.range' 1 channels).forM (addChannel n device)
  n.addFunction "reset" (.resetChannels device channels)
  addSettings n

def create (name : String) (channels : Nat) (device : DeviceId) : Act DomainError NodeId := do
  let n ← NodeId.create (some name) { classTag := classTag }
  Act.holding n (equip n channels device)
  Act.debug do
    return "created simulated instrument '" ++ name ++ "' with " ++
      String.ofList (Nat.toDigits 10 channels) ++ " channels"
  return n

/-- The node of a channel, counted from one. -/
def channel (n : NodeId) (index : Nat) : Act DomainError NodeId :=
  n.submodule (DeviceId.channelName index)

def reset (n : NodeId) : Act DomainError Unit := do
  let _ ← n.call "reset" []

end LabRegistry.Instrument

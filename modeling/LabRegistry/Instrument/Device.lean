import LabRegistry.Double.Arithmetic
import LabRegistry.Registry.State
import LabRegistry.Value.Printer

/-!
# Devices

A device in memory answers reads and writes of registers by address. While it is offline, every
access fails. Its channels work in whole millivolts, their parameters in volts.
-/
namespace LabRegistry

namespace DeviceId

def create {ε : Type} (identification : String) : Act ε DeviceId := do
  let r ← Act.registry
  let registers := OrderedMap.empty.insert "*IDN" (Value.string identification)
  Act.change fun r => { r with devices := r.devices.push { registers } }
  return ⟨r.devices.size⟩

/-- The value of a register, `null` if nothing was written to it. -/
def read (d : DeviceId) (address : String) : Act RegistryError Value := do
  let device ← d.state
  if device.online then return (device.registers.get? address).getD .null
  else Act.fail (.callableFailed ("backend offline while reading '" ++ address ++ "'"))

def write (d : DeviceId) (address : String) (v : Value) : Act RegistryError Unit := do
  if (← d.state).online then
    d.change fun device => { device with
      registers := device.registers.insert address v
      writes := device.writes + 1 }
  else Act.fail (.callableFailed ("backend offline while writing '" ++ address ++ "'"))

def setOnline {ε : Type} (d : DeviceId) (online : Bool) : Act ε Unit := do
  if !online then Act.warn (return "simulated backend going offline")
  d.change ({ · with online })

/-- The value of a register whether the device is online or not. -/
def peek {ε : Type} (d : DeviceId) (address : String) : Act ε (Option Value) :=
  return (← d.state).registers.get? address

def channelName (index : Nat) : String := "ch" ++ String.ofList (Nat.toDigits 10 index)

def voltageAddress (index : Nat) : String := channelName index ++ ":volt"

def couplingAddress (index : Nat) : String := channelName index ++ ":coupling"

/-- Gives a channel zero volts and direct coupling. -/
def resetChannel (d : DeviceId) (index : Nat) : Act RegistryError Unit := do
  d.write (voltageAddress index) (.ofInteger .zero)
  d.write (couplingAddress index) (.string "DC")

/-- Resets the channels `1` to `count` in order. -/
def resetChannels (d : DeviceId) (count : Nat) : Act RegistryError Unit :=
  (List.range' 1 count).forM d.resetChannel

end DeviceId

namespace Value

/-- A reading in millivolts as volts; no reading stays none. -/
def voltsOfMillivolts (raw : Value) : Except RegistryError Value :=
  match raw.toDouble?, raw.isNull with
  | some millivolts, _ => .ok (.ofDouble (millivolts.div (.ofInt 1000)))
  | none, true => .ok .null
  | none, false => .error (.callableFailed ("unexpected voltage reading " ++ raw.compact))

/-- The whole number of millivolts nearest to a voltage. -/
def millivoltsOfVolts (v : Value) : Except RegistryError Value :=
  match v.toDouble? with
  | some volts => .ok (.ofInteger (volts.mul (.ofInt 1000)).roundInt64)
  | none => .error (.callableFailed ("voltage must be numeric, got " ++ v.compact))

end Value
end LabRegistry

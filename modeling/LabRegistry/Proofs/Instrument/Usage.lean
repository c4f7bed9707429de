import LabRegistry.Proofs.Instrument.Creation

/-!
# Instruments in use

The channels of an instrument stay as they were made whatever is asked of parameters, functions and the
device. So in all states a set of a parameter of a channel is all or nothing: it writes the one register
and the one cache, or it fails and nothing has changed.
-/
namespace LabRegistry

open Instrument

/-- What is done with an instrument and its device. -/
inductive InstrumentCommand where
  | set (channel : Nat) (name : String) (v : Value)
  | get (channel : Nat) (name : String)
  | reset
  | setOnline (online : Bool)
  /-- Whatever else is asked, of the device as well. -/
  | request (asked : Request)

namespace InstrumentCommand

def act (n : NodeId) (d : DeviceId) : InstrumentCommand → Act DomainError Unit
  | set channel name v => do (← Instrument.channel n channel).set name v
  | get channel name => do
    let _ ← (← Instrument.channel n channel).get name
  | reset => Instrument.reset n
  | setOnline online => d.setOnline online
  | request asked => do
    let _ ← asked.perform

/-- Nothing but the channels, the reset and the switch of the device is used. -/
def IsOwn : InstrumentCommand → Prop
  | request _ => False
  | _ => True

end InstrumentCommand

variable {r base after : Registry} {n : NodeId} {d : DeviceId} {first channels k : Nat} {v : Value}
  {c : InstrumentCommand} {commands : List InstrumentCommand}

namespace Registry

def used (r : Registry) (n : NodeId) (d : DeviceId) (commands : List InstrumentCommand) : Registry :=
  commands.foldl (fun r c => (c.act n d r).2) r

def usedTo (r : Registry) (n : NodeId) (d : DeviceId) (commands : List InstrumentCommand) (count : Nat) :
    Registry :=
  r.used n d (commands.take count)

end Registry

open Registry

/-! ## Whatever is asked -/

private theorem Effect.devices_size (h : Effect r after) : after.devices.size = r.devices.size := by
  cases h with
  | device d f => exact Arena.size_change _ _ _
  | _ => rfl

private theorem Effects.devices_size (h : Effects r after) :
    after.devices.size = r.devices.size := by
  induction h with
  | refl => rfl
  | tail _ effect ih => exact effect.devices_size.trans ih

private theorem Instrument.channel_read (n : NodeId) (i : Nat) (r : Registry) :
    (Instrument.channel n i r).2 = r := by
  have lifted : Instrument.channel n i r =
      (n.submodule (DeviceId.channelName i)).mapError DomainError.registry r := rfl
  rw [lifted, Act.mapError_run]
  exact n.find_read _ _ r

theorem InstrumentCommand.effects (c : InstrumentCommand) : (c.act n d).Keeps Effects := by
  have channel (i : Nat) : (Instrument.channel n i).Keeps Effects := .read (channel_read n i)
  have parameter (c : NodeId) (name : String) : (c.parameter name).Keeps Effects :=
    Effects.parameter c name
  cases c with
  | set i name v =>
    exact .bind (channel i) fun c => .mapError (.bind (parameter c name) fun p => Effects.set p v)
  | get i name =>
    exact .bind (channel i) fun c => .bind (.mapError (.bind (parameter c name) fun p => Effects.get p))
      fun _ => .pure _
  | reset =>
    have call : (n.call "reset" []).Keeps Effects := by
      refine .bind (.read fun _ => rfl) fun node => ?_
      cases node.functions.get? "reset" with
      | some function => exact Effects.perform _
      | none => exact .bind (.orEndless _) fun _ => .fail _
    exact .bind (.mapError call) fun _ => .pure _
  | setOnline online =>
    have warned : (Act.warn (return "simulated backend going offline") : Act DomainError Unit).Keeps
        Effects := .writeLog (.pure _) fun r lines => .single (.log r lines)
    have switched : (d.change ({ · with online }) : Act DomainError Unit).Keeps Effects :=
      .change fun r => .single (.device r d _)
    cases online with
    | true => exact switched
    | false => exact .bind warned fun _ => switched
  | request asked => exact .bind (.mapError (Effects.perform asked)) fun _ => .pure _

theorem Registry.Instrumented.reset_eq (h : r.Instrumented n d first channels) :
    Instrument.reset n r = (d.resetChannels channels).mapError DomainError.registry r := by
  obtain ⟨fuel, -, run⟩ := (Request.call (.resetChannels d channels) (.withArgs [])).perform_run r
  have called : n.call "reset" [] r = (do
      d.resetChannels channels
      return .null : Act RegistryError Value) r := by
    rw [NodeId.call, Act.bind_run, NodeId.state_run]
    dsimp only
    rw [h.reset]
    exact run
  have reset : Instrument.reset n = (do
    let _ ← (n.call "reset" []).mapError DomainError.registry : Act DomainError Unit) := rfl
  rw [reset, Act.bind_run, Act.mapError_run, Act.mapError_run, called, Act.bind_run]
  rcases d.resetChannels channels r with ⟨_ | _, _⟩ <;> rfl

theorem Registry.Instrumented.of_effects (h : r.Instrumented n d first channels)
    (effects : Effects r after) :
    after.Instrumented n d first channels where
  toChannelled := h.toChannelled.of_same effects.sameNodes effects.sameSetups effects.devices_size
  reset := by rw [effects.sameNodes.node, h.reset]

namespace Registry

private theorem Instrumented.used (h : r.Instrumented n d first channels)
    (commands : List InstrumentCommand) :
    (r.used n d commands).Instrumented n d first channels := by
  induction commands generalizing r with
  | nil => exact h
  | cons c commands ih => exact ih (h.of_effects (c.effects r))

/-! ## All or nothing -/

/-- A set wrote the value into the cache of a parameter and its raw value on a register. -/
structure Wrote (r : Registry) (d : DeviceId) (address : String) (p : ParamId) (v : Value)
    (after : Registry) : Prop where
  online : (r.device d).online = true
  value : (after.param p).value = v
  register : (after.device d).registers.get? address = some (after.param p).raw
  writes : (after.device d).writes = (r.device d).writes + 1
  registers : ∀ other, other ≠ address →
    (after.device d).registers.get? other = (r.device d).registers.get? other
  params : ∀ q, q ≠ p → after.param q = r.param q
  devices : ∀ e, e ≠ d → after.device e = r.device e

private theorem Recorded.wrote {address : String} {p : ParamId} {raw : Value}
    (h : (r.withRegister d address raw).Recorded p raw v after) (online : (r.device d).online = true)
    (inside : d.index < r.devices.size) (inside' : p.index < r.params.size) :
    r.Wrote d address p v after := by
  have devices : after.devices = (r.withRegister d address raw).devices := by
    obtain ⟨lines, now, stamp⟩ := h
    rfl
  have device : after.device d = _ :=
    (congrArg (·.get d.index) devices).trans (device_withRegister inside address raw)
  obtain ⟨raws, value⟩ := h.param_self inside'
  exact {
    online := online
    value := value
    register := by rw [device, OrderedMap.get?_insert, if_pos rfl, raws]
    writes := by rw [device]
    registers := fun other ne => by rw [device, OrderedMap.get?_insert, if_neg ne]
    params := fun q ne => h.param_of_ne ne
    devices := fun e ne => by
      have index : d.index ≠ e.index := by
        intro same
        cases d
        cases e
        exact ne (congrArg DeviceId.mk same.symm)
      exact (congrArg (·.get e.index) devices).trans (Arena.get_change_of_ne index _ _) }

private theorem result_unique {ε α : Type} {act : Act ε α} {x y : α} {r after : Registry}
    (run : act r = (.ok x, after)) (result : (act r).1.toOption = some y) : x = y := by
  rw [run] at result
  exact Option.some.inj result

end Registry
end LabRegistry

import LabRegistry.Proofs.Engine.Reading
import LabRegistry.Proofs.Instrument.Channels

/-!
# Setting and getting the parameters of a channel

A set of a parameter of a channel that nothing listens to either writes the register, counts the write
and records the value, or it fails with nothing changed. A get writes no register.
-/
namespace LabRegistry

open Instrument

variable {r after : Registry} {n : NodeId} {d : DeviceId} {first count k : Nat} {v raw : Value}

namespace Registry

def withRegister (r : Registry) (d : DeviceId) (address : String) (v : Value) : Registry :=
  { r with devices := r.devices.change d.index fun device => { device with
    registers := device.registers.insert address v
    writes := device.writes + 1 } }

theorem device_withRegister (inside : d.index < r.devices.size) (address : String) (v : Value) :
    (r.withRegister d address v).device d = { r.device d with
      registers := (r.device d).registers.insert address v
      writes := (r.device d).writes + 1 } :=
  Arena.get_change_self inside _

theorem sameWiring_devices (devices : Arena Device) : r.SameWiring { r with devices } :=
  ⟨⟨rfl, roots_of_eq rfl rfl fun _ => rfl⟩, rfl, rfl, rfl, fun _ => rfl⟩

end Registry

open Registry

private theorem Act.ofExcept_run (parsed : Except RegistryError Value) (r : Registry) :
    (∃ x, parsed.toOption = some x ∧ Act.ofExcept parsed r = (.ok x, r)) ∨
    parsed.toOption = none ∧
      ∃ error, (Act.ofExcept parsed : Act RegistryError Value) r = (.error (.failed error), r) := by
  cases parsed with
  | ok x => exact .inl ⟨x, rfl, rfl⟩
  | error error => exact .inr ⟨rfl, error, rfl⟩

theorem DeviceId.write_run (d : DeviceId) (address : String) (v : Value) (r : Registry) :
    (d.write address v) r = if (r.device d).online then (.ok (), r.withRegister d address v)
      else (.error (.failed (.callableFailed
        ("backend offline while writing '" ++ address ++ "'"))), r) := by
  have state : (d.state : Act RegistryError Device) r = (.ok (r.device d), r) := rfl
  rw [write, Act.bind_run, state]
  dsimp only
  cases (r.device d).online <;> rfl

private theorem DeviceId.read_run (d : DeviceId) (address : String) (r : Registry) :
    (d.read address) r = if (r.device d).online then
        (.ok (((r.device d).registers.get? address).getD .null), r)
      else (.error (.failed (.callableFailed
        ("backend offline while reading '" ++ address ++ "'"))), r) := by
  have state : (d.state : Act RegistryError Device) r = (.ok (r.device d), r) := rfl
  rw [read, Act.bind_run, state]
  dsimp only
  cases (r.device d).online <;> rfl

namespace Registry.Channelled

variable (h : r.Channelled n d first count) (hk : k < count) (s : Setting)

include h hk

private theorem quiet : (r.param (s.param first k)).logsChanges = false := by
  refine (congrArg (·.logsChanges) (h.setup k hk s)).trans ?_
  cases s <;> rfl

private theorem rawOf_run (fuel : Nat) (v : Value) :
    (∃ raw, s.sent? v = some raw ∧
      (s.param first k).rawOf (engine (fuel + 1)) v r = (.ok raw, r)) ∨
    s.sent? v = none ∧ ∃ error,
      (s.param first k).rawOf (engine (fuel + 1)) v r = (.error (.failed error), r) := by
  have setup := h.setup k hk s
  have validator : (r.param (s.param first k)).validator = (s.plan d (k + 1)).validator :=
    congrArg (·.validator) setup
  have parser : (r.param (s.param first k)).setParser = (s.plan d (k + 1)).setParser :=
    congrArg (·.setParser) setup
  obtain ⟨name, named⟩ := Option.isSome_iff_exists.mp (h.named hk s)
  rw [ParamId.rawOf, Act.bind_run, ParamId.state_run]
  dsimp only
  rw [validator, parser]
  cases checked : (s.plan d (k + 1)).validator.validate v with
  | error reason =>
    refine .inr ⟨s.sent?_of_refused checked, .invalidValue name reason, ?_⟩
    dsimp only
    rw [Act.bind_run, ParamId.fullName_run, named]
    rfl
  | ok _ =>
    rw [s.sent?_of_accepted checked]
    cases s with
    | voltage => exact Act.ofExcept_run v.millivoltsOfVolts r
    | coupling => exact Act.ofExcept_run (.ok v) r

private theorem write_run (fuel : Nat) (v : Value) :
    (∃ raw after, s.sent? v = some raw ∧ (r.device d).online = true ∧
      (s.param first k).write (engine (fuel + 1)) v r = (.ok (), after) ∧
      (r.withRegister d (s.address (k + 1)) raw).Recorded (s.param first k) raw v after) ∨
    (s.sent? v = none ∨ (r.device d).online = false) ∧
      ∃ error, (s.param first k).write (engine (fuel + 1)) v r = (.error (.failed error), r) := by
  have target : (r.param (s.param first k)).setSource =
      .command (.writeRegister d (s.address (k + 1))) := by
    refine (congrArg (·.setSource) (h.setup k hk s)).trans ?_
    cases s <;> rfl
  have run : (s.param first k).write (engine (fuel + 1)) v r = (do
      let raw ← (s.param first k).rawOf (engine (fuel + 1)) v
      let _ ← engine (fuel + 1) (.call (.writeRegister d (s.address (k + 1))) (.withValue raw))
      (s.param first k).record raw v : Act RegistryError Unit) r := by
    rw [ParamId.write, Act.bind_run, ParamId.state_run]
    dsimp only
    rw [target]
  rw [run, Act.bind_run]
  rcases h.rawOf_run hk s fuel v with ⟨raw, sent, parsed⟩ | ⟨refused, error, parsed⟩
  · have called : engine (fuel + 1) (.call (.writeRegister d (s.address (k + 1))) (.withValue raw)) r =
        (do
          d.write (s.address (k + 1)) raw
          return .null : Act RegistryError Value) r := rfl
    rw [parsed]
    dsimp only
    rw [Act.bind_run, called, Act.bind_run, d.write_run]
    cases online : (r.device d).online with
    | true =>
      obtain ⟨after, recorded, records⟩ := ParamId.record_spoken
        (r := r.withRegister d (s.address (k + 1)) raw) (p := s.param first k) (.inl (h.quiet hk s)) raw v
      exact .inl ⟨raw, after, sent, rfl, recorded, records⟩
    | false => exact .inr ⟨.inr rfl, _, rfl⟩
  · rw [parsed]
    exact .inr ⟨.inl refused, error, rfl⟩

theorem set_run (unheard : (r.param (s.param first k)).listeners = []) (v : Value) :
    (∃ raw after, s.sent? v = some raw ∧ (r.device d).online = true ∧
      (s.param first k).set v r = (.ok (), after) ∧
      (r.withRegister d (s.address (k + 1)) raw).Recorded (s.param first k) raw v after) ∨
    (s.sent? v = none ∨ (r.device d).online = false) ∧
      ∃ error, (s.param first k).set v r = (.error (.failed error), r) := by
  obtain ⟨fuel, enough, run⟩ := (s.param first k).set_run v r
  obtain ⟨fuel, rfl⟩ := Nat.exists_eq_add_of_le' (show 1 ≤ fuel by omega)
  rw [run, ParamId.setWith, Act.bind_run]
  rcases h.write_run hk s fuel v with
    ⟨raw, after, sent, online, written, records⟩ | ⟨refused, error, failed⟩
  · have still : (after.param (s.param first k)).listeners = [] :=
      (records.wiring.listeners _).trans unheard
    have told : (s.param first k).announce (engine (fuel + 1)) after = (.ok (), after) := by
      rw [ParamId.announce, Act.bind_run, ParamId.state_run]
      dsimp only
      rw [still]
      rfl
    rw [written]
    exact .inl ⟨raw, after, sent, online, told, records⟩
  · rw [failed]
    exact .inr ⟨refused, error, rfl⟩

private theorem get_eq : (s.param first k).get r = (do
    let raw ← d.read (s.address (k + 1))
    let value ← Act.ofExcept (s.report raw)
    (s.param first k).record raw value
    return value : Act RegistryError Value) r := by
  have source : (r.param (s.param first k)).getSource =
      .command (.readRegister d (s.address (k + 1))) := by
    refine (congrArg (·.getSource) (h.setup k hk s)).trans ?_
    cases s <;> rfl
  have parser : (r.param (s.param first k)).getParser = (s.plan d (k + 1)).getParser :=
    congrArg (·.getParser) (h.setup k hk s)
  obtain ⟨fuel, enough, run⟩ := (Request.get (s.param first k)).perform_run r
  obtain ⟨fuel, rfl⟩ := Nat.exists_eq_add_of_le' (show 1 ≤ fuel by omega)
  have got : (s.param first k).get r = (do
      let raw ← d.read (s.address (k + 1))
      (s.param first k).receive (engine (fuel + 1)) raw : Act RegistryError Value) r := by
    refine run.trans ?_
    rw [Request.answer, ParamId.getWith, Act.bind_run, ParamId.state_run]
    dsimp only
    rw [source]
    rfl
  rw [got, Act.bind_run, Act.bind_run, d.read_run]
  cases (r.device d).online with
  | false => rfl
  | true =>
    rw [if_pos rfl]
    dsimp only
    rw [ParamId.receive, Act.bind_run, ParamId.state_run]
    dsimp only
    rw [parser]
    cases s <;> rfl

theorem get_run : ∃ result after, (s.param first k).get r = (result, after) ∧
    (after = r ∨ ∃ raw v, r.Recorded (s.param first k) raw v after) := by
  rw [h.get_eq hk s, Act.bind_run, d.read_run]
  cases (r.device d).online with
  | false => exact ⟨_, r, rfl, .inl rfl⟩
  | true =>
    rw [if_pos rfl]
    generalize ((r.device d).registers.get? (s.address (k + 1))).getD .null = raw
    dsimp only
    rw [Act.bind_run]
    rcases Act.ofExcept_run (s.report raw) r with ⟨v, -, run⟩ | ⟨-, error, run⟩
    · obtain ⟨after, recorded, records⟩ :=
        ParamId.record_spoken (p := s.param first k) (.inl (h.quiet hk s)) raw v
      rw [run]
      dsimp only
      rw [Act.bind_run, recorded]
      exact ⟨_, after, rfl, .inr ⟨raw, v, records⟩⟩
    · rw [run]
      exact ⟨_, r, rfl, .inl rfl⟩

/-- A get from a device that is online gives what is made of the value of the register. -/
theorem get_gives {raw v : Value} (online : (r.device d).online = true)
    (held : (r.device d).registers.get? (s.address (k + 1)) = some raw) (shown : s.report raw = .ok v) :
    ∃ after, (s.param first k).get r = (.ok v, after) ∧ r.Recorded (s.param first k) raw v after := by
  obtain ⟨after, recorded, records⟩ :=
    ParamId.record_spoken (p := s.param first k) (.inl (h.quiet hk s)) raw v
  refine ⟨after, ?_, records⟩
  rw [h.get_eq hk s, Act.bind_run, d.read_run, if_pos online, held, Option.getD_some]
  dsimp only
  rw [Act.bind_run, shown, Act.ofExcept, Act.pure_run]
  dsimp only
  rw [Act.bind_run, recorded]
  rfl

end Registry.Channelled
end LabRegistry

import LabRegistry.Proofs.Instrument.Usage

/-!
# Registers of an instrument

If nothing but the instrument writes its registers, those of the voltages always hold whole numbers of
millivolts within the limits. Validators let `null` through, and where that of a voltage goes to a
parser that has to make a number of it, that of a coupling goes to the register.
-/
namespace LabRegistry

open Instrument

variable {r base after : Registry} {n : NodeId} {d : DeviceId} {first channels k : Nat} {v : Value}
  {c : InstrumentCommand} {commands : List InstrumentCommand}

/-- What a register of a channel may hold. -/
def Instrument.Setting.Allows : Setting → Value → Prop
  | voltage, v => ∃ n : Integer, v = .ofInteger n ∧ -10000 ≤ n.val ∧ n.val ≤ 10000
  | coupling, v => v = .string "DC" ∨ v = .string "AC"

private theorem Instrument.Setting.allows_default (s : Setting) : s.Allows s.default := by
  cases s with
  | voltage => exact ⟨.zero, rfl, by decide, by decide⟩
  | coupling => exact .inl rfl

namespace Registry

/-- The register of a setting of a channel. -/
def register? (r : Registry) (d : DeviceId) (k : Nat) (s : Setting) : Option Value :=
  (r.device d).registers.get? (s.address (k + 1))

/-- The register of a setting of a channel holds a value of some kind. -/
def RegisterHolds (r : Registry) (d : DeviceId) (k : Nat) (s : Setting) (P : Value → Prop) : Prop :=
  ∃ v, r.register? d k s = some v ∧ P v

private theorem register?_of_devices (same : after.devices = r.devices) (k : Nat) (s : Setting) :
    after.register? d k s = r.register? d k s := by
  rw [register?, register?, device, device, same]

private theorem register?_withRegister (r : Registry) (d : DeviceId) (i : Nat) (s t : Setting)
    (v : Value)
    (k : Nat) : (r.withRegister d (s.address i) v).register? d k t = some v ∧ i = k + 1 ∧ s = t ∨
      (r.withRegister d (s.address i) v).register? d k t = r.register? d k t := by
  by_cases inside : d.index < r.devices.size
  · rw [register?, device_withRegister inside, OrderedMap.get?_insert]
    split
    case isTrue same =>
      obtain ⟨number, rfl⟩ := Setting.address_inj same
      exact .inl ⟨rfl, number.symm, rfl⟩
    case isFalse => exact .inr rfl
  · refine .inr ?_
    have device : (r.withRegister d (s.address i) v).device d = r.device d :=
      (Arena.get_change _ _ _ _).trans (if_neg fun both => inside both.2)
    rw [register?, device, register?]

/-- An instrument with channels that nothing listens to. -/
structure Unheard (r : Registry) (n : NodeId) (d : DeviceId) (first channels : Nat) : Prop extends
    r.Instrumented n d first channels where
  unheard : ∀ k < channels, ∀ s : Setting, (r.param (s.param first k)).listeners = []

end Registry

open Registry

/-! ## What a command does to the registers -/

private theorem DeviceId.setOnline_run (d : DeviceId) (online : Bool) (r : Registry) :
    ∃ lines, (d.setOnline online : Act DomainError Unit) r = (.ok (), { r with
      devices := r.devices.change d.index ({ · with online })
      log := { r.log with lines } }) := by
  cases online with
  | true => exact ⟨r.log.lines, rfl⟩
  | false =>
    have run : (d.setOnline false : Act DomainError Unit) = (do
      Act.warn (return "simulated backend going offline")
      d.change ({ · with online := false })) := rfl
    rw [run, Act.bind_run, Act.warn, Act.writeLog, Act.bind_run, Act.registry_run]
    dsimp only
    by_cases enabled : r.log.enabled = true
    · rw [if_pos enabled]
      exact ⟨_, rfl⟩
    · rw [if_neg enabled]
      exact ⟨r.log.lines, rfl⟩

namespace InstrumentCommand

/-- A register is as before, or it was reset, or the command sent its value while the device was
online. -/
structure Rewrites (c : InstrumentCommand) (d : DeviceId) (channels : Nat) (r after : Registry) :
    Prop where
  wiring : r.SameWiring after
  devices : after.devices.size = r.devices.size
  registers : ∀ k < channels, ∀ s : Setting, after.register? d k s = r.register? d k s ∨
    after.register? d k s = some s.default ∨
    ∃ v raw, c = set (k + 1) s.name v ∧ s.sent? v = some raw ∧ (r.device d).online = true ∧
      after.register? d k s = some raw

namespace Rewrites

private theorem of_devices (wiring : r.SameWiring after) (same : after.devices = r.devices) :
    c.Rewrites d channels r after :=
  ⟨wiring, congrArg Arena.size same, fun k _ s => .inl (register?_of_devices same k s)⟩

private theorem same (c : InstrumentCommand) (d : DeviceId) (channels : Nat) (r : Registry) :
    c.Rewrites d channels r r :=
  of_devices (refl r) rfl

/-- What comes after a reset of registers decides for those it writes. -/
instance : IsPreorder Registry (reset.Rewrites d channels) where
  refl := same reset d channels
  trans r mid after h h' := by
    refine ⟨IsTrans.trans _ _ _ h.wiring h'.wiring, h'.devices.trans h.devices, fun k hk s => ?_⟩
    rcases h'.registers k hk s with kept | cleared | ⟨v, raw, other, -⟩
    · rcases h.registers k hk s with earlier | cleared | ⟨v, raw, other, -⟩
      · exact .inl (kept.trans earlier)
      · exact .inr (.inl (kept.trans cleared))
      · cases other
    · exact .inr (.inl cleared)
    · cases other

end Rewrites

private theorem write_rewrites (d : DeviceId) (i : Nat) (s : Setting) :
    (d.write (s.address i) s.default).Keeps (reset.Rewrites d channels) := by
  intro r
  rw [d.write_run]
  cases (r.device d).online with
  | false => exact refl r
  | true =>
    refine ⟨sameWiring_devices _, Arena.size_change _ _ _, fun k _ t => ?_⟩
    rcases register?_withRegister r d i s t s.default k with ⟨written, -, rfl⟩ | kept
    · exact .inr (.inl written)
    · exact .inl kept

private theorem resetChannels_rewrites (d : DeviceId) (count : Nat) :
    (d.resetChannels count).Keeps (reset.Rewrites d channels) :=
  .forM (fun i => .bind (write_rewrites d i .voltage) fun _ => write_rewrites d i .coupling) _

end InstrumentCommand

namespace Registry.Unheard

open InstrumentCommand

variable (h : r.Unheard n d first channels)

include h

private theorem of_rewrites (rewrites : c.Rewrites d channels r after) :
    after.Unheard n d first channels where
  toChannelled := h.toChannelled.of_same rewrites.wiring.nodes rewrites.wiring.setups rewrites.devices
  reset := by rw [rewrites.wiring.nodes.node, h.reset]
  unheard k hk s := (rewrites.wiring.listeners _).trans (h.unheard k hk s)

/-- What is done with a parameter of a channel by its name is done with one of those that were planned,
or nothing is done as there is none of that name. -/
theorem access_rewrites {α : Type} {i : Nat} {name : String} (f : ParamId → Act RegistryError α)
    (raised : Act RegistryError α → Act DomainError Unit)
    (same : ∀ act r, (raised act r).2 = (act r).2)
    (hf : ∀ k < channels, ∀ s : Setting, i = k + 1 → name = s.name →
      c.Rewrites d channels r (f (s.param first k) r).2) :
    c.Rewrites d channels r ((do
      let c ← Instrument.channel n i
      raised do f (← c.parameter name)) r).2 := by
  rw [Act.bind_run]
  by_cases known : ∃ k < channels, i = k + 1
  · obtain ⟨k, hk, rfl⟩ := known
    rw [h.channel_run hk]
    dsimp only
    rw [same, Act.bind_run]
    by_cases named : ∃ s : Setting, name = s.name
    · obtain ⟨s, rfl⟩ := named
      rw [h.parameter_run hk s]
      exact hf k hk s rfl rfl
    · obtain ⟨halt, missing⟩ := h.parameter_missing hk fun s same => named ⟨s, same⟩
      rw [missing]
      exact .same c d channels r
  · obtain ⟨halt, missing⟩ := h.channel_missing fun k hk same => known ⟨k, hk, same⟩
    rw [missing]
    exact .same c d channels r

section

variable (hk : k < channels) (s : Setting)

include hk

private theorem set_rewrites (v : Value) :
    (set (k + 1) s.name v).Rewrites d channels r ((s.param first k).set v r).2 := by
  rcases h.set_run hk s (h.unheard k hk s) v with
    ⟨raw, after, sent, online, run, records⟩ | ⟨-, error, run⟩
  · rw [run]
    have devices : after.devices = (r.withRegister d (s.address (k + 1)) raw).devices := by
      obtain ⟨lines, now, stamp⟩ := records
      rfl
    refine ⟨IsTrans.trans _ _ _ (sameWiring_devices _) records.wiring,
      (congrArg Arena.size devices).trans (Arena.size_change _ _ _), fun j hj t => ?_⟩
    rw [register?_of_devices devices]
    rcases register?_withRegister r d (k + 1) s t raw j with ⟨written, number, rfl⟩ | kept
    · obtain rfl := Nat.succ.inj number
      exact .inr (.inr ⟨v, raw, rfl, sent, online, written⟩)
    · exact .inl kept
  · rw [run]
    exact .same _ d channels r

private theorem null_run (online : (r.device d).online = true) :
    ((InstrumentCommand.set (k + 1) "output_coupling" .null).act n d r).2.register? d k .coupling =
      some .null := by
  have set_run : ((InstrumentCommand.set (k + 1) "output_coupling" .null).act n d r).2 =
      ((Setting.coupling.param first k).set .null r).2 := by
    have act : (InstrumentCommand.set (k + 1) "output_coupling" .null).act n d = (do
      let c ← Instrument.channel n (k + 1)
      (do (← c.parameter Setting.coupling.name).set .null : Act RegistryError Unit).mapError
        DomainError.registry) := rfl
    rw [act, Act.bind_run, h.channel_run hk]
    dsimp only
    rw [Act.mapError_run, Act.bind_run, h.parameter_run hk .coupling]
  rw [set_run]
  rcases h.set_run hk .coupling (h.unheard k hk .coupling) .null with
    ⟨raw, after, sent, -, run, records⟩ | ⟨refused | offline, -⟩
  · cases sent
    have devices :
        after.devices = (r.withRegister d (Setting.coupling.address (k + 1)) .null).devices := by
      obtain ⟨lines, now, stamp⟩ := records
      rfl
    rw [run, register?_of_devices devices, register?, device_withRegister h.device,
      OrderedMap.get?_insert, if_pos rfl]
  · cases refused
  · rw [online] at offline
    cases offline

private theorem get_rewrites : c.Rewrites d channels r ((s.param first k).get r).2 := by
  obtain ⟨result, after, run, same | ⟨raw, v, records⟩⟩ := h.get_run hk s
  · rw [run, same]
    exact .same c d channels r
  · rw [run]
    refine .of_devices records.wiring ?_
    obtain ⟨lines, now, stamp⟩ := records
    rfl

end

private theorem reset_rewrites : reset.Rewrites d channels r (reset.act n d r).2 := by
  have act : reset.act n d = Instrument.reset n := rfl
  rw [act, h.toInstrumented.reset_eq, Act.mapError_run]
  exact resetChannels_rewrites d channels r

omit h in
private theorem setOnline_rewrites (r : Registry) (online : Bool) :
    (setOnline online).Rewrites d channels r ((setOnline online).act n d r).2 := by
  obtain ⟨lines, run⟩ := d.setOnline_run online r
  have act : (setOnline online).act n d = d.setOnline online := rfl
  rw [act, run]
  refine ⟨⟨⟨rfl, roots_of_eq rfl rfl fun _ => rfl⟩, rfl, rfl, rfl, fun _ => rfl⟩,
    Arena.size_change _ _ _, fun k _ s => .inl ?_⟩
  rw [register?, Registry.device, Arena.get_change]
  split <;> rfl

private theorem own_rewrites (own : c.IsOwn) : c.Rewrites d channels r (c.act n d r).2 := by
  cases c with
  | set i name v =>
    refine h.access_rewrites (·.set v) (·.mapError .registry)
      (fun act r => congrArg Prod.snd (Act.mapError_run _ act r)) fun k hk s number named => ?_
    rw [number, named]
    exact h.set_rewrites hk s v
  | get i name =>
    refine h.access_rewrites (·.get) (fun act => do let _ ← act.mapError DomainError.registry)
      (fun act r => ?_) fun k hk s _ _ => h.get_rewrites hk s
    exact (Act.discard_run _ r).trans (congrArg Prod.snd (Act.mapError_run _ act r))
  | reset => exact h.reset_rewrites
  | setOnline online => exact setOnline_rewrites r online
  | request asked => cases own

end Registry.Unheard

/-! ## Runs -/

namespace Registry

open InstrumentCommand

private theorem RegisterHolds.step {s : Setting} {P : Value → Prop}
    (holds : r.RegisterHolds d k s P)
    (rewrites : c.Rewrites d channels r after) (hk : k < channels) (default : P s.default)
    (sent : ∀ v raw, c = .set (k + 1) s.name v → s.sent? v = some raw →
      (r.device d).online = true → P raw) : after.RegisterHolds d k s P := by
  rcases rewrites.registers k hk s with kept | cleared | ⟨v, raw, same, taken, online, written⟩
  · rw [RegisterHolds, kept]
    exact holds
  · exact ⟨s.default, cleared, default⟩
  · exact ⟨raw, written, sent v raw same taken online⟩

private theorem usedTo_succ (r : Registry) (n : NodeId) (d : DeviceId)
    (commands : List InstrumentCommand)
    (j : Nat) : r.usedTo n d commands (j + 1) =
      (r.usedTo n d commands j).used n d commands[j]?.toList := by
  rw [usedTo, used, List.take_add_one, List.foldl_append]
  rfl

section

variable (h : r.Unheard n d first channels) (own : ∀ c ∈ commands, c.IsOwn)

include h own

private theorem Unheard.usedTo (j : Nat) :
    (r.usedTo n d commands j).Unheard n d first channels := by
  induction j with
  | zero => exact h
  | succ j ih =>
    rw [usedTo_succ]
    cases next : commands[j]? with
    | none => exact ih
    | some c => exact ih.of_rewrites (ih.own_rewrites (own c (List.mem_of_getElem? next)))

private theorem Unheard.holds_usedTo {s : Setting} {P : Value → Prop} (hk : k < channels)
    (start : r.RegisterHolds d k s P) (default : P s.default)
    (sent : ∀ j v raw, commands[j]? = some (.set (k + 1) s.name v) → s.sent? v = some raw →
      ((r.usedTo n d commands j).device d).online = true → P raw) (j : Nat) :
    (r.usedTo n d commands j).RegisterHolds d k s P := by
  induction j with
  | zero => exact start
  | succ j ih =>
    rw [usedTo_succ]
    cases next : commands[j]? with
    | none => exact ih
    | some c =>
      refine ih.step ((h.usedTo own j).own_rewrites (own c (List.mem_of_getElem? next))) hk default ?_
      rintro v raw rfl
      exact sent j v raw next

end

/-- As long as nothing but an instrument writes the registers of its channels, that of the voltage of a
channel holds a whole number from -10000 to 10000 in all states. That of the coupling holds one of the
two or `null`, which all validators let through. It holds one of the two in all states exactly if the
coupling is not set to `null` while the device is online. -/
theorem registers_of_own_use (name : String) (channels : Nat) (inside : d.index < base.devices.size)
    (ready : channels = 0 ∨ (base.device d).online = true) (commands : List InstrumentCommand)
    (own : ∀ c ∈ commands, c.IsOwn) :
    ∃ n made, Instrument.create name channels d base = (.ok n, made) ∧
      let state := made.usedTo n d commands
      ∀ k < channels,
        (∀ j, (state j).RegisterHolds d k .voltage Setting.voltage.Allows) ∧
        (∀ j, (state j).RegisterHolds d k .coupling fun v => v = .null ∨ Setting.coupling.Allows v) ∧
        ((∀ j, (state j).RegisterHolds d k .coupling Setting.coupling.Allows) ↔
          ∀ j, commands[j]? = some (.set (k + 1) "output_coupling" .null) →
            ((state j).device d).online = false) := by
  obtain ⟨made, created, delivered⟩ := Instrument.create_run name channels inside ready
  have h : made.Unheard _ d _ channels := ⟨delivered.toInstrumented, delivered.unheard⟩
  refine ⟨_, made, created, fun k hk => ⟨?_, ?_, fun always j next => ?_, fun decided => ?_⟩⟩
  · exact h.holds_usedTo own hk ⟨_, delivered.registers k hk .voltage, Setting.allows_default _⟩
      (Setting.allows_default _) fun _ _ _ _ taken _ => Setting.sent_voltage taken
  · refine h.holds_usedTo own hk ⟨_, delivered.registers k hk .coupling, .inr (Setting.allows_default _)⟩
      (.inr (Setting.allows_default _)) fun _ v raw _ taken _ => ?_
    obtain ⟨rfl, coupled⟩ := Setting.sent_coupling taken
    exact coupled
  · by_contra offline
    obtain ⟨v, held, allowed⟩ := always (j + 1)
    rw [usedTo_succ, next] at held
    have null := (h.usedTo own j).null_run hk (Bool.eq_true_of_not_eq_false offline)
    cases held.symm.trans null
    rcases allowed with direct | alternating
    · cases direct
    · cases alternating
  · refine h.holds_usedTo own hk ⟨_, delivered.registers k hk .coupling, Setting.allows_default _⟩
      (Setting.allows_default _) fun j v raw next taken online => ?_
    obtain ⟨rfl, rfl | coupled⟩ := Setting.sent_coupling taken
    · rw [decided j next] at online
      cases online
    · exact coupled

/-- Settings that are taken and settings that are refused keep to what registers may hold, and so do
switching off and on again and a reset. -/
theorem registers_of_settings :
    let base := ((DeviceId.create "X" : Act DomainError DeviceId) {}).2
    let commands : List InstrumentCommand := [.set 2 "voltage" (.ofInteger { val := 7 }),
      .set 1 "voltage" .null, .setOnline false, .set 1 "output_coupling" (.string "AC"), .setOnline true,
      .set 1 "output_coupling" (.string "AC"), .set 2 "output_coupling" .null, .reset]
    ∃ n made, Instrument.create "i" 2 ⟨0⟩ base = (.ok n, made) ∧
      ∀ j, (made.usedTo n ⟨0⟩ commands j).RegisterHolds ⟨0⟩ 0 .coupling Setting.coupling.Allows := by
  intro base commands
  obtain ⟨n, made, created, holds⟩ := @registers_of_own_use base ⟨0⟩ "i" 2 (by decide +kernel)
    (.inr (by decide +kernel)) commands (by simp [commands, InstrumentCommand.IsOwn])
  refine ⟨n, made, created, (holds 0 (by decide)).2.2.mpr fun j next => ?_⟩
  have mem := List.mem_of_getElem? next
  simp [commands] at mem

/-- A coupling that is set to `null` is taken, and its register holds `null`. -/
theorem null_reaches_register :
    let base := ((DeviceId.create "X" : Act DomainError DeviceId) {}).2
    let made := (Instrument.create "i" 1 ⟨0⟩ base).2
    let command : InstrumentCommand := .set 1 "output_coupling" .null
    let after := (command.act ⟨0⟩ ⟨0⟩ made).2
    (command.act ⟨0⟩ ⟨0⟩ made).1.toOption = some () ∧
      (after.register? ⟨0⟩ 0 .coupling).any Value.isNull = true ∧
      ¬ after.RegisterHolds ⟨0⟩ 0 .coupling Setting.coupling.Allows := by
  intro base made command after
  have null : (after.register? ⟨0⟩ 0 .coupling).any Value.isNull = true := by decide +kernel
  refine ⟨by decide +kernel, null, fun holds => ?_⟩
  obtain ⟨v, held, rfl | rfl⟩ := holds
  all_goals
    rw [held] at null
    cases null

end Registry
end LabRegistry

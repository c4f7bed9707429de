import LabRegistry.Proofs.Instrument.Usage

/-!
# Resetting an instrument

A reset of an instrument writes the two registers of each of its channels and no other, or none at all
if the device is offline. Others may share the device: what they write neither matters to a reset nor is
it lost by one, as the addresses of channels and settings differ.
-/
namespace LabRegistry

open Instrument

variable {r base made mid after : Registry} {n : NodeId} {d : DeviceId} {first channels k : Nat}

/-! ## The writes of a reset -/

namespace Registry

/-- A reset of some channels wrote each of their registers once, and nothing else has changed. -/
structure Cleared (r : Registry) (d : DeviceId) (channels : Nat) (after : Registry) : Prop where
  registers : ∀ k < channels, ∀ s : Setting,
    (after.device d).registers.get? (s.address (k + 1)) = some s.default
  others : ∀ address, (∀ k < channels, ∀ s : Setting, address ≠ s.address (k + 1)) →
    (after.device d).registers.get? address = (r.device d).registers.get? address
  writes : (after.device d).writes = (r.device d).writes + 2 * channels
  online : (after.device d).online = (r.device d).online
  devices : ∀ e, e ≠ d → after.device e = r.device e
  size : after.devices.size = r.devices.size
  rest : after = { r with devices := after.devices }

private theorem device_withRegister_of_ne {e : DeviceId} (ne : e ≠ d) (address : String)
    (v : Value) :
    (r.withRegister d address v).device e = r.device e := by
  have index : d.index ≠ e.index := by
    intro same
    cases d
    cases e
    exact ne (congrArg DeviceId.mk same.symm)
  exact Arena.get_change_of_ne index _ _

namespace Cleared

private theorem refl (r : Registry) (d : DeviceId) : r.Cleared d 0 r where
  registers k hk := absurd hk (Nat.not_lt_zero k)
  others _ _ := rfl
  writes := rfl
  online := rfl
  devices _ _ := rfl
  size := rfl
  rest := rfl

private theorem next (h : r.Cleared d channels mid) (inside : d.index < r.devices.size) :
    r.Cleared d (channels + 1) (mid.withReset d (channels + 1)) := by
  have inside' : d.index < mid.devices.size := inside.trans_eq h.size.symm
  have device := device_withReset inside' (channels + 1)
  have register (address : String) :
      ((mid.withReset d (channels + 1)).device d).registers.get? address =
        if address = Setting.coupling.address (channels + 1) then some Setting.coupling.default
        else if address = Setting.voltage.address (channels + 1) then some Setting.voltage.default
        else (mid.device d).registers.get? address := by
    rw [device, OrderedMap.get?_insert, OrderedMap.get?_insert]
  have same {k : Nat} {s t : Setting} :
      s.address (k + 1) = t.address (channels + 1) ↔ k = channels ∧ s = t := by
    constructor
    · intro equal
      obtain ⟨number, kind⟩ := Setting.address_inj equal
      exact ⟨Nat.succ.inj number, kind⟩
    · rintro ⟨rfl, rfl⟩
      rfl
  exact {
    registers := fun k hk s => by
      rw [register]
      simp only [same]
      rcases Nat.lt_succ_iff_lt_or_eq.mp hk with old | rfl
      · rw [if_neg fun both => old.ne both.1, if_neg fun both => old.ne both.1]
        exact h.registers k old s
      · cases s <;> simp
    others := fun address none => by
      rw [register, if_neg (none channels (Nat.lt_succ_self _) .coupling),
        if_neg (none channels (Nat.lt_succ_self _) .voltage)]
      exact h.others address fun k hk s => none k (Nat.lt_succ_of_lt hk) s
    writes := by
      rw [device, h.writes, Nat.mul_succ, Nat.add_assoc]
    online := by rw [device, h.online]
    devices := fun e ne => by
      rw [withReset, device_withRegister_of_ne ne, device_withRegister_of_ne ne, h.devices e ne]
    size := ((Arena.size_change _ _ _).trans (Arena.size_change _ _ _)).trans h.size
    rest := by
      rw [h.rest]
      rfl }

end Cleared
end Registry

open Registry

private theorem DeviceId.resetChannels_run (inside : d.index < r.devices.size)
    (online : (r.device d).online = true) (channels : Nat) :
    ∃ after, d.resetChannels channels r = (.ok (), after) ∧ r.Cleared d channels after := by
  induction channels with
  | zero => exact ⟨r, rfl, .refl r d⟩
  | succ channels ih =>
    obtain ⟨mid, run, cleared⟩ := ih
    have last := DeviceId.resetChannel_run (inside.trans_eq cleared.size.symm)
      (cleared.online.trans online) (channels + 1)
    refine ⟨_, ?_, cleared.next inside⟩
    rw [resetChannels, List.range'_concat, List.forM_eq_forM, List.forM_append]
    refine Act.bind_eq_ok.mpr ⟨(), mid, run, ?_⟩
    rw [Nat.one_mul, Nat.add_comm 1]
    exact Act.bind_eq_ok.mpr ⟨(), _, last, rfl⟩

private theorem DeviceId.resetChannels_offline (offline : (r.device d).online = false)
    (some : 0 < channels) :
    d.resetChannels channels r = (.error (.failed (.callableFailed
      ("backend offline while writing '" ++ Setting.voltage.address 1 ++ "'"))), r) := by
  obtain ⟨channels, rfl⟩ := Nat.exists_eq_add_of_le' some
  have refused := d.write_run (Setting.voltage.address 1) Setting.voltage.default r
  rw [offline, if_neg Bool.false_ne_true] at refused
  have first : d.resetChannel 1 = (do
    d.write (Setting.voltage.address 1) Setting.voltage.default
    d.write (Setting.coupling.address 1) Setting.coupling.default) := rfl
  have split : d.resetChannels (channels + 1) = (do
    d.resetChannel 1
    (List.range' 2 channels).forM d.resetChannel) := by
    rw [resetChannels, List.range'_succ]
    rfl
  rw [split, Act.bind_run, first, Act.bind_run, refused]

/-! ## Gets after a reset -/

def Instrument.Setting.rest : Setting → Value
  | voltage => .ofDouble (.finite ⟨false, .zero⟩)
  | coupling => .string "DC"

private theorem Instrument.Setting.report_default (s : Setting) :
    s.report s.default = .ok s.rest := by
  cases s with
  | voltage =>
    have zero : (Double.ofInt 0).div (.ofInt 1000) = .finite ⟨false, .zero⟩ := by decide +kernel
    rw [rest, ← zero]
    rfl
  | coupling => rfl

namespace Instrument

def getSetting (n : NodeId) (k : Nat) (s : Setting) : Act DomainError Value := do
  (← Instrument.channel n (k + 1)).get s.name

end Instrument

namespace Registry

/-- The device is online, and all registers of the channels are reset. -/
structure AtRest (r : Registry) (n : NodeId) (d : DeviceId) (first channels : Nat) : Prop extends
    r.Channelled n d first channels where
  online : (r.device d).online = true
  registers : ∀ k < channels, ∀ s : Setting,
    (r.device d).registers.get? (s.address (k + 1)) = some s.default

private theorem AtRest.getSetting_run (h : r.AtRest n d first channels) (hk : k < channels)
    (s : Setting) :
    ∃ after, getSetting n k s r = (.ok s.rest, after) ∧ after.AtRest n d first channels := by
  obtain ⟨after, run, records⟩ :=
    h.get_gives hk s h.online (h.registers k hk s) s.report_default
  have devices : after.devices = r.devices := by
    obtain ⟨lines, now, stamp⟩ := records
    rfl
  have device : after.device d = r.device d := congrArg (·.get d.index) devices
  refine ⟨after, ?_, ?_⟩
  · have act : getSetting n k s = (do
      let c ← Instrument.channel n (k + 1)
      (do (← c.parameter s.name).get : Act RegistryError Value).mapError DomainError.registry) := rfl
    rw [act, Act.bind_run, h.channel_run hk]
    dsimp only
    refine Act.mapError_eq_ok.mpr ?_
    rw [Act.bind_run, h.parameter_run hk s]
    exact run
  · exact {
      toChannelled := h.toChannelled.of_same records.wiring.nodes records.wiring.setups
        (congrArg Arena.size devices)
      online := device ▸ h.online
      registers := device ▸ h.registers }

private theorem AtRest.gets_run (h : r.AtRest n d first channels) (asked : List (Nat × Setting))
    (known : ∀ q ∈ asked, q.1 < channels) :
    ∃ after, asked.mapM (fun q => getSetting n q.1 q.2) r =
      (.ok (asked.map fun q => q.2.rest), after) := by
  induction asked generalizing r with
  | nil => exact ⟨r, rfl⟩
  | cons q asked ih =>
    obtain ⟨mid, run, rests⟩ := h.getSetting_run (known q List.mem_cons_self) q.2
    obtain ⟨after, others⟩ := ih rests fun p mem => known p (List.mem_cons_of_mem q mem)
    refine ⟨after, ?_⟩
    rw [List.mapM_cons]
    exact Act.bind_eq_ok.mpr ⟨_, mid, run, Act.bind_eq_ok.mpr ⟨_, after, others, rfl⟩⟩

/-! ## Shared devices -/

/-- There may be nodes, parameters and devices besides, and the devices may be in any state. -/
structure Besides (r after : Registry) : Prop where
  node : ∀ m : NodeId, m.index < r.nodes.size → after.node m = r.node m
  params : r.params.size ≤ after.params.size
  param : ∀ p : ParamId, p.index < r.params.size → after.param p = r.param p
  devices : r.devices.size ≤ after.devices.size

/-- The registries that come of one with an instrument, while the instrument and its device are used and
others make what they need, instruments on the same device among it, and use the devices as well. -/
inductive Shared (made : Registry) (n : NodeId) (d : DeviceId) : Registry → Prop
  | made : Shared made n d made
  | used {r : Registry} (earlier : Shared made n d r) (c : InstrumentCommand) :
    Shared made n d (c.act n d r).2
  | besides {r after : Registry} (earlier : Shared made n d r) (besides : r.Besides after) :
    Shared made n d after

private theorem Channelled.inside (h : r.Channelled n d first channels) (hk : k < channels) :
    (channelNode n k).index < r.nodes.size := by
  by_contra beyond
  have entries := h.entries k hk
  rw [node_of_size_le (Nat.not_lt.mp beyond)] at entries
  cases entries

private theorem Instrumented.of_besides (h : r.Instrumented n d first channels)
    (besides : r.Besides after) :
    after.Instrumented n d first channels := by
  have inside : n.index < r.nodes.size := by
    by_contra beyond
    have reset := h.reset
    rw [node_of_size_le (Nat.not_lt.mp beyond)] at reset
    cases reset
  have owner : after.node n = r.node n := besides.node n inside
  have channel (k : Nat) (hk : k < channels) :
      after.node (channelNode n k) = r.node (channelNode n k) :=
    besides.node _ (h.inside hk)
  have kept : ({ after with devices := r.devices } : Registry).Channelled n d first channels :=
    h.toChannelled.of_old ⟨congrArg (·.submodules) owner, congrArg (·.parent) owner⟩ channel
      besides.param besides.params rfl
  exact {
    kept with
    device := h.device.trans_le besides.devices
    reset := by rw [owner, h.reset] }

private theorem Shared.instrumented (h : made.Shared n d r)
    (new : made.Instrumented n d first channels) :
    r.Instrumented n d first channels := by
  induction h with
  | made => exact new
  | used earlier c ih => exact ih.of_effects (c.effects _)
  | besides earlier besides ih => exact ih.of_besides besides

end Registry
end LabRegistry

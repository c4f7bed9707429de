import LabRegistry.Proofs.Fitting.Planned
import LabRegistry.Proofs.Instrument.Setting
import LabRegistry.Proofs.Naming.Chain

/-!
# Channels of an instrument

The channels of an instrument were made one after the other, so their nodes and their parameters have
consecutive numbers. Whatever changes caches, listeners and devices only leaves the channels as they
are.
-/
namespace LabRegistry

open Instrument

/-- The node of a channel, the first one having the number zero. -/
def Instrument.channelNode (n : NodeId) (k : Nat) : NodeId := ⟨n.index + 1 + k⟩

/-- The parameter of a channel, where `first` is that of the first channel. -/
def Instrument.Setting.param (first k : Nat) (s : Setting) : ParamId := ⟨first + 2 * k + s.place⟩

theorem Instrument.Setting.param_inj {first j k : Nat} {s t : Setting}
    (same : s.param first j = t.param first k) : j = k ∧ s = t := by
  have number : first + 2 * j + s.place = first + 2 * k + t.place := congrArg ParamId.index same
  cases s <;> cases t <;> simp [place] at number ⊢ <;> omega

namespace Registry

/-- The first channels of an instrument on a device: each is a submodule of the instrument with its
two parameters, which are set up as planned. -/
structure Channelled (r : Registry) (n : NodeId) (d : DeviceId) (first count : Nat) : Prop where
  device : d.index < r.devices.size
  top : (r.node n).parent = none
  submodules : (r.node n).submodules.entries =
    (List.range count).map fun k => (DeviceId.channelName (k + 1), channelNode n k)
  parent : ∀ k < count, ∀ p, (r.node (channelNode n k)).parent = some p → p = n
  entries : ∀ k < count, (r.node (channelNode n k)).parameters.entries =
    ParameterPlan.entries (first + 2 * k) (channelPlans d (k + 1))
  size : first + 2 * count ≤ r.params.size
  setup : ∀ k < count, ∀ s : Setting,
    (r.param (s.param first k)).setup = (s.plan d (k + 1)).ownedBy (channelNode n k)

namespace Channelled

variable {r after : Registry} {n : NodeId} {d : DeviceId} {first count k : Nat}
  (h : r.Channelled n d first count)

include h

theorem of_same (nodes : r.SameNodes after) (setups : r.SameSetups after)
    (devices : after.devices.size = r.devices.size) : after.Channelled n d first count where
  device := devices ▸ h.device
  top := by rw [nodes.node, h.top]
  submodules := by rw [nodes.node, h.submodules]
  parent k hk := by
    rw [nodes.node]
    exact h.parent k hk
  entries k hk := by rw [nodes.node, h.entries k hk]
  size := setups.size ▸ h.size
  setup k hk s := (setups.setup _).trans (h.setup k hk s)

theorem of_old (owner : (after.node n).submodules = (r.node n).submodules ∧
      (after.node n).parent = (r.node n).parent)
    (node : ∀ k < count, after.node (channelNode n k) = r.node (channelNode n k))
    (old : ∀ p : ParamId, p.index < r.params.size → after.param p = r.param p)
    (size : r.params.size ≤ after.params.size) (devices : after.devices = r.devices) :
    after.Channelled n d first count where
  device := devices ▸ h.device
  top := owner.2.trans h.top
  submodules := owner.1 ▸ h.submodules
  parent k hk := by
    rw [node k hk]
    exact h.parent k hk
  entries k hk := by rw [node k hk, h.entries k hk]
  size := h.size.trans size
  setup k hk s := by
    have bound := h.size
    rw [old _ (by cases s <;> simp only [Setting.param, Setting.place] <;> omega), h.setup k hk s]

theorem channel_run (hk : k < count) :
    Instrument.channel n (k + 1) r = (.ok (channelNode n k), r) := by
  have mem : (DeviceId.channelName (k + 1), channelNode n k) ∈ (r.node n).submodules.entries := by
    rw [h.submodules]
    exact List.mem_map_of_mem (List.mem_range.mpr hk)
  have found := Entries.get?_of_mem (r.node n).submodules.nodup_keys mem
  have run : n.submodule (DeviceId.channelName (k + 1)) r = (.ok (channelNode n k), r) :=
    NodeId.find_run found
  exact Act.mapError_eq_ok.mpr run

theorem channel_missing {i : Nat} (none : ∀ k < count, i ≠ k + 1) :
    ∃ halt, Instrument.channel n i r = (.error halt, r) := by
  have absent : (r.node n).submodules.get? (DeviceId.channelName i) = Option.none := by
    rw [← Option.not_isSome_iff_eq_none, OrderedMap.get?, Entries.isSome_get?_iff, Entries.keys,
      h.submodules]
    intro mem
    simp only [List.map_map, List.mem_map, List.mem_range] at mem
    obtain ⟨k, hk, same⟩ := mem
    exact none k hk (DeviceId.channelName_injective same).symm
  have run : n.submodule (DeviceId.channelName i) r =
      (.error (r.refusal n (.noAttribute · (DeviceId.channelName i))), r) :=
    NodeId.find_missing absent
  have lifted : Instrument.channel n i r =
      (n.submodule (DeviceId.channelName i)).mapError DomainError.registry r := rfl
  rw [lifted, Act.mapError_run, run]
  exact ⟨_, rfl⟩

section

variable (hk : k < count) (s : Setting)

include hk

theorem param_lt_size : (s.param first k).index < r.params.size := by
  have size := h.size
  cases s <;> simp only [Setting.param, Setting.place] <;> omega

private theorem fitted : r.Fitted (channelNode n k) (first + 2 * k) (channelPlans d (k + 1)) where
  entries := h.entries k hk
  inside := by
    have size := h.size
    simp only [channelPlans, List.length_cons, List.length_nil]
    omega
  setup i plan hi := by
    have short : i < 2 := (List.getElem?_eq_some_iff.mp hi).1
    obtain rfl | rfl : i = 0 ∨ i = 1 := by omega
    · cases hi
      exact congrArg Parameter.muted (h.setup k hk .voltage)
    · cases hi
      exact congrArg Parameter.muted (h.setup k hk .coupling)
  speaks i hi := by
    obtain rfl | rfl : i = 0 ∨ i = 1 := by
      simp only [channelPlans, List.length_cons, List.length_nil] at hi
      omega
    · exact .inl (congrArg (·.logsChanges) (h.setup k hk .voltage))
    · exact .inl (congrArg (·.logsChanges) (h.setup k hk .coupling))

theorem parameter_run : (channelNode n k).parameter s.name r = (.ok (s.param first k), r) := by
  rw [← s.name_plan (d := d) (i := k + 1)]
  exact (h.fitted hk).parameter_run s.plan_mem

omit s in
theorem parameter_missing {name : String} (unknown : ∀ s : Setting, name ≠ s.name) :
    ∃ halt, (channelNode n k).parameter name r = (.error halt, r) := by
  have absent : (r.node (channelNode n k)).parameters.get? name = none := by
    rw [← Option.not_isSome_iff_eq_none, OrderedMap.get?, Entries.isSome_get?_iff, h.entries k hk,
      ParameterPlan.keys_entries]
    intro mem
    rcases List.mem_cons.mp mem with same | mem
    · exact unknown .voltage same
    · exact unknown .coupling (List.mem_singleton.mp mem)
  exact ⟨_, NodeId.find_missing absent⟩

theorem named : (r.paramName? (s.param first k)).isSome := by
  have owner : (r.param (s.param first k)).owner = some (channelNode n k) :=
    congrArg (·.owner) (h.setup k hk s)
  cases live : r.owner? (s.param first k) with
  | none =>
    rw [paramName?, live]
    rfl
  | some m =>
    have same : m = channelNode n k := by
      have found := live
      rw [owner?, owner, Option.filter_eq_some_iff] at found
      exact (Option.some.inj found.1).symm
    rw [paramName?_isSome_iff live, same]
    refine .of_parent fun p above => ?_
    rw [h.parent k hk p above]
    refine .of_parent fun q beyond => ?_
    rw [h.top] at beyond
    cases beyond

end

end Channelled
/-- An instrument with all its channels. -/
structure Instrumented (r : Registry) (n : NodeId) (d : DeviceId) (first channels : Nat) : Prop extends
    r.Channelled n d first channels where
  reset : (r.node n).functions.get? "reset" = some (.resetChannels d channels)

end Registry
end LabRegistry

import LabRegistry.Proofs.Instrument.Access
import LabRegistry.Proofs.Naming.Joining

/-!
# Making an instrument

An instrument is made on every device that is online: its channels come one after the other, each with
registers that are reset, and nothing is in the way of any of them.
-/
namespace LabRegistry

open Instrument

variable {r base after : Registry} {n : NodeId} {d : DeviceId} {k count : Nat}

def Instrument.Setting.default : Setting → Value
  | voltage => .ofInteger .zero
  | coupling => .string "DC"

namespace Registry

def withReset (r : Registry) (d : DeviceId) (i : Nat) : Registry :=
  (r.withRegister d (Setting.voltage.address i) Setting.voltage.default).withRegister d
    (Setting.coupling.address i) Setting.coupling.default

theorem device_withReset (inside : d.index < r.devices.size) (i : Nat) :
    (r.withReset d i).device d = { r.device d with
      registers := ((r.device d).registers.insert (Setting.voltage.address i)
        Setting.voltage.default).insert (Setting.coupling.address i) Setting.coupling.default
      writes := (r.device d).writes + 2 } := by
  have inside' : d.index < (r.withRegister d (Setting.voltage.address i)
      Setting.voltage.default).devices.size :=
    inside.trans_eq (Arena.size_change _ _ _).symm
  rw [withReset, device_withRegister inside', device_withRegister inside]

end Registry

open Registry

theorem DeviceId.resetChannel_run (inside : d.index < r.devices.size)
    (online : (r.device d).online = true) (i : Nat) :
    d.resetChannel i r = (.ok (), r.withReset d i) := by
  have online' : ((r.withRegister d (Setting.voltage.address i)
      Setting.voltage.default).device d).online = true := by
    rw [device_withRegister inside, online]
  have first := d.write_run (voltageAddress i) (.ofInteger .zero) r
  have second := d.write_run (couplingAddress i) (.string "DC")
    (r.withRegister d (Setting.voltage.address i) Setting.voltage.default)
  rw [if_pos online] at first
  rw [if_pos online'] at second
  rw [resetChannel, Act.bind_run, first]
  exact second

namespace Registry

/-- An instrument got one more channel, whose registers are reset. -/
structure Extended (r : Registry) (n : NodeId) (d : DeviceId) (i : Nat) (after : Registry) : Prop where
  size : after.nodes.size = r.nodes.size + 1
  owner : after.node n = { r.node n with
    submodules := (r.node n).submodules.insert (DeviceId.channelName i) ⟨r.nodes.size⟩ }
  node : ∀ m, m ≠ n → m.index ≠ r.nodes.size → after.node m = r.node m
  parameters : (after.node ⟨r.nodes.size⟩).parameters.entries =
    ParameterPlan.entries r.params.size (channelPlans d i)
  parent : (after.node ⟨r.nodes.size⟩).parent = some n
  leaf : after.held ⟨r.nodes.size⟩ = []
  params : after.params.size = r.params.size + 2
  old : ∀ p : ParamId, p.index < r.params.size → after.param p = r.param p
  fresh : ∀ s : Setting,
    (after.param ⟨r.params.size + s.place⟩).uncached = (s.plan d i).ownedBy ⟨r.nodes.size⟩
  devices : after.devices = (r.withReset d i).devices

end Registry

private theorem Instrument.addChannel_run (inside : n.index < r.nodes.size)
    (top : (r.node n).parent = none)
    (device : d.index < r.devices.size) (online : (r.device d).online = true) {i : Nat}
    (free : (r.node n).kindOf (DeviceId.channelName i) = none) :
    ∃ after, addChannel n d i r = (.ok (), after) ∧ r.Extended n d i after := by
  let c : NodeId := ⟨r.nodes.size⟩
  let made : Registry := { r with
    nodes := r.nodes.push { config := { classTag := channelClass } }
    inUse := c :: r.inUse }
  let reset : Registry := made.withReset d i
  have self : reset.node c = { config := { classTag := channelClass } } := by
    have pushed := node_push r { config := { classTag := channelClass } } c
    rwa [if_pos rfl] at pushed
  have others (m : NodeId) (hm : m.index ≠ r.nodes.size) : reset.node m = r.node m := by
    have pushed := node_push r { config := { classTag := channelClass } } m
    rwa [if_neg hm] at pushed
  have size : reset.nodes.size = r.nodes.size + 1 := Arena.size_push _ _
  have bare : reset.Bare c := ⟨size ▸ Nat.lt_succ_self _, by rw [self], by rw [self]⟩
  obtain ⟨half, first, fits⟩ :=
    NodeId.addPlanned_run (voltagePlan d i) (Fitting.start bare) bare rfl List.not_mem_nil
  obtain ⟨fitted, second, fits⟩ :=
    NodeId.addPlanned_run (couplingPlan d i) fits bare rfl (by simp [voltagePlan, couplingPlan])
  have created : createChannel d i r = (.ok c, { fitted with inUse := r.inUse }) := by
    have planned : (do
        d.resetChannel i
        let _ ← c.addPlanned (voltagePlan d i)
        let _ ← c.addPlanned (couplingPlan d i) : Act RegistryError Unit) made = (.ok (), fitted) := by
      have cleared : d.resetChannel i made = (.ok (), reset) :=
        DeviceId.resetChannel_run (r := made) device online i
      rw [Act.bind_run, cleared]
      dsimp only
      rw [Act.bind_run, first]
      dsimp only
      rw [Act.bind_run, second]
      rfl
    have held := Act.holding_eq_ok (n := c) (r := { made with inUse := r.inUse }) |>.mpr
      ⟨fitted, planned, rfl⟩
    exact Act.bind_eq_ok.mpr ⟨c, _, rfl, Act.bind_eq_ok.mpr ⟨(), _, held, rfl⟩⟩
  let held : Registry := { fitted with inUse := c :: r.inUse }
  have inside' : n.index ≠ r.nodes.size := inside.ne
  have other : c ≠ n := fun same => inside' (congrArg NodeId.index same).symm
  have owner : fitted.node n = r.node n := by rw [fits.others n other.symm, others n inside']
  have node : fitted.node c = { config := { classTag := channelClass }
                                parameters := (fitted.node c).parameters
                                delegates := (fitted.node c).delegates } := by
    rw [fits.node, self]
  have leaf : fitted.held c = [] := by
    rw [Registry.held, node]
    rfl
  have bigger : fitted.nodes.size = r.nodes.size + 1 := fits.size.trans size
  obtain ⟨after, attached, entered⟩ := NodeId.attach_free_entered (r := held) n .submodule
    (DeviceId.channelName i) c (fun node => { node with
      submodules := node.submodules.insert (DeviceId.channelName i) c })
    (.inl (by change (fitted.node n).kindOf _ = none; rw [owner, free]))
    (not_encloses_of_leaf leaf other) (by change r.nodes.size < fitted.nodes.size; omega)
    (by change n.index < fitted.nodes.size; omega)
    (by change (fitted.node c).parent = none; rw [node])
    (by change (fitted.node n).parent = none; rw [owner, top])
  have run := Act.holding_eq_ok (n := c) (r := { fitted with inUse := r.inUse }) |>.mpr
    ⟨after, attached, rfl⟩
  refine ⟨_, Act.bind_eq_ok.mpr ⟨c, _, created, run⟩, ?_⟩
  have params (p : ParamId) : after.param p = fitted.param p :=
    congrArg (·.get p.index) entered.params
  exact {
    size := entered.size.trans bigger
    owner := entered.holder.trans (by rw [← owner]; rfl)
    node := fun m ne new => by
      have ne' : m ≠ c := fun same => new (congrArg NodeId.index same)
      exact (entered.others m ne ne').trans ((fits.others m ne').trans (others m new))
    parameters := (congrArg (·.parameters.entries) entered.entrant).trans fits.entries
    parent := congrArg (·.parent) entered.entrant
    leaf := (congrArg Node.held entered.entrant).trans leaf
    params := (congrArg Arena.size entered.params).trans fits.params
    old := fun p hp => (params p).trans (fits.old p hp)
    fresh := fun s => by
      have unused := fits.fresh s.place (s.plan d i) s.plan_mem
      exact (congrArg Parameter.uncached (params _)).trans unused.uncached
    devices := entered.devices.trans fits.devices }

namespace Registry

/-- A new instrument on a device has its identification and its first channels, to which nothing
listens; their registers are reset. -/
structure Assembling (base r : Registry) (d : DeviceId) (count : Nat) : Prop extends
    r.Channelled ⟨base.nodes.size⟩ d (base.params.size + 1) count where
  nodes : r.nodes.size = base.nodes.size + 1 + count
  params : r.params.size = base.params.size + 1 + 2 * count
  names : (r.node ⟨base.nodes.size⟩).parameters.keys = ["idn"]
  children : (r.node ⟨base.nodes.size⟩).children = .empty
  functions : (r.node ⟨base.nodes.size⟩).functions = .empty
  fields : (r.node ⟨base.nodes.size⟩).fields = .empty
  unheard : ∀ k < count, ∀ s : Setting, (r.param (s.param (base.params.size + 1) k)).listeners = []
  online : (r.device d).online = (base.device d).online
  registers : ∀ k < count, ∀ s : Setting,
    (r.device d).registers.get? (s.address (k + 1)) = some s.default
  others : ∀ m : NodeId, m.index < base.nodes.size → r.node m = base.node m
  leaf : ∀ m : NodeId, base.nodes.size < m.index → r.held m = []

namespace Assembling

variable (h : base.Assembling r d count)

include h

private theorem free {name : String} (own : name ≠ "idn")
    (channel : ∀ k < count, name ≠ DeviceId.channelName (k + 1)) :
    (r.node ⟨base.nodes.size⟩).parameters.contains name = false ∧
      (r.node ⟨base.nodes.size⟩).submodules.contains name = false := by
  constructor
  · rw [Bool.eq_false_iff, ne_eq, OrderedMap.contains_iff_mem_keys, h.names, List.mem_singleton]
    exact own
  · rw [Bool.eq_false_iff, ne_eq, OrderedMap.contains_iff_mem_keys, OrderedMap.keys, Entries.keys,
      h.submodules, List.map_map, List.mem_map]
    rintro ⟨k, mem, rfl⟩
    exact channel k (List.mem_range.mp mem) rfl

private theorem kindOf_of_fresh {name : String} (own : name ≠ "idn")
    (channel : ∀ k < count, name ≠ DeviceId.channelName (k + 1)) :
    (r.node ⟨base.nodes.size⟩).kindOf name = none := by
  obtain ⟨parameters, submodules⟩ := h.free own channel
  rw [Node.kindOf, parameters, submodules, h.children, h.functions, h.fields]
  rfl

private theorem extend (extended : r.Extended ⟨base.nodes.size⟩ d (count + 1) after) :
    base.Assembling after d (count + 1) := by
  let n : NodeId := ⟨base.nodes.size⟩
  have last : channelNode n count = ⟨r.nodes.size⟩ := by
    rw [channelNode, h.nodes]
  have node {k : Nat} (hk : k < count) : after.node (channelNode n k) = r.node (channelNode n k) := by
    have number := h.nodes
    refine extended.node _ (fun same => ?_) ?_
    · have same : n.index + 1 + k = n.index := congrArg NodeId.index same
      omega
    · change base.nodes.size + 1 + k ≠ _
      omega
  have param {k : Nat} (hk : k < count) (s : Setting) : after.param (s.param (base.params.size + 1) k) =
      r.param (s.param (base.params.size + 1) k) :=
    extended.old _ (h.param_lt_size hk s)
  have new (s : Setting) : (after.param (s.param (base.params.size + 1) count)).uncached =
      (s.plan d (count + 1)).ownedBy (channelNode n count) := by
    rw [last, Setting.param, ← h.params]
    exact extended.fresh s
  have device : after.device d = (r.withReset d (count + 1)).device d :=
    congrArg (·.get d.index) extended.devices
  rw [device_withReset h.device] at device
  have registers (k : Nat) (s : Setting) : (after.device d).registers.get? (s.address (k + 1)) =
      if k = count then some s.default else (r.device d).registers.get? (s.address (k + 1)) := by
    have same (t : Setting) : s.address (k + 1) = t.address (count + 1) ↔ k = count ∧ s = t := by
      constructor
      · intro equal
        obtain ⟨number, kind⟩ := Setting.address_inj equal
        exact ⟨Nat.succ.inj number, kind⟩
      · rintro ⟨rfl, rfl⟩
        rfl
    rw [device, OrderedMap.get?_insert, OrderedMap.get?_insert]
    simp only [same]
    cases s <;> by_cases last : k = count <;> simp [last]
  exact {
    device := by
      rw [extended.devices]
      exact h.device.trans_eq ((Arena.size_change _ _ _).trans (Arena.size_change _ _ _)).symm
    top := by rw [extended.owner, h.top]
    submodules := by
      have fresh : DeviceId.channelName (count + 1) ∉ Entries.keys (r.node n).submodules.entries := by
        rw [Entries.keys, h.submodules, List.map_map, List.mem_map]
        rintro ⟨k, mem, same⟩
        have number := DeviceId.channelName_injective same
        rw [List.mem_range] at mem
        omega
      rw [extended.owner, List.range_succ, List.map_append, List.map_singleton, last, ← h.submodules]
      exact Entries.insert_of_notMem fresh
    parent := fun k hk p above => by
      rcases Nat.lt_succ_iff_lt_or_eq.mp hk with old | rfl
      · exact h.parent k old p (node old ▸ above)
      · rw [last, extended.parent] at above
        exact (Option.some.inj above).symm
    entries := fun k hk => by
      rcases Nat.lt_succ_iff_lt_or_eq.mp hk with old | rfl
      · rw [node old, h.entries k old]
      · rw [last, extended.parameters, h.params]
    size := (extended.params.trans (by rw [h.params]; omega)).ge
    setup := fun k hk s => by
      rcases Nat.lt_succ_iff_lt_or_eq.mp hk with old | rfl
      · rw [param old, h.setup k old]
      · exact congrArg (fun param : Parameter => { param with listeners := [], nextListener := 0 }) (new s)
    nodes := extended.size.trans (by rw [h.nodes]; omega)
    params := extended.params.trans (by rw [h.params]; omega)
    names := by rw [extended.owner, h.names]
    children := by rw [extended.owner, h.children]
    functions := by rw [extended.owner, h.functions]
    fields := by rw [extended.owner, h.fields]
    unheard := fun k hk s => by
      rcases Nat.lt_succ_iff_lt_or_eq.mp hk with old | rfl
      · rw [param old, h.unheard k old]
      · exact congrArg Parameter.listeners (new s)
    online := by rw [device, h.online]
    registers := fun k hk s => by
      rw [registers]
      split
      · rfl
      · exact h.registers k (by omega) s
    others := fun m hm => by
      have number := h.nodes
      refine (extended.node m (fun same => hm.ne (congrArg NodeId.index same)) (by omega)).trans ?_
      exact h.others m hm
    leaf := fun m hm => by
      by_cases new : m.index = r.nodes.size
      · rw [show m = ⟨r.nodes.size⟩ from congrArg NodeId.mk new, extended.leaf]
      · have same := extended.node m (fun same => hm.ne' (congrArg NodeId.index same)) new
        exact (congrArg Node.held same).trans (h.leaf m hm) }

end Assembling
end Registry

private theorem Instrument.addChannels_run (more : Nat) (h : base.Assembling r d count)
    (ready : more = 0 ∨ (base.device d).online = true) : ∃ after,
      (List.range' (count + 1) more).forM (addChannel ⟨base.nodes.size⟩ d) r = (.ok (), after) ∧
        base.Assembling after d (count + more) := by
  induction more generalizing r count with
  | zero => exact ⟨r, rfl, h⟩
  | succ more ih =>
    have online : (r.device d).online = true := by
      rw [h.online]
      exact ready.resolve_left (Nat.succ_ne_zero more)
    have inside : base.nodes.size < r.nodes.size := by
      rw [h.nodes]
      omega
    have fresh (k : Nat) (hk : k < count) :
        DeviceId.channelName (count + 1) ≠ DeviceId.channelName (k + 1) := by
      intro same
      have number := DeviceId.channelName_injective same
      omega
    have own : DeviceId.channelName (count + 1) ≠ "idn" := DeviceId.channelName_ne (by decide)
    obtain ⟨mid, added, extended⟩ := addChannel_run inside h.top h.device online
      (h.kindOf_of_fresh own fresh)
    obtain ⟨after, rest, assembled⟩ := ih (h.extend extended) (.inr (h.online.symm.trans online))
    refine ⟨after, ?_, by rwa [Nat.add_assoc, Nat.add_comm 1] at assembled⟩
    rw [List.range'_succ]
    exact Act.bind_eq_ok.mpr ⟨(), mid, added, rest⟩

private theorem Instrument.addSettings_run (inside : n.index < r.nodes.size)
    (top : (r.node n).parent = none)
    (free : (r.node n).kindOf "additional_settings" = none) :
    ∃ after, addSettings n r = (.ok (), after) ∧ after.nodes.size = r.nodes.size + 1 ∧
      after.node n = { r.node n with
        children := (r.node n).children.insert "additional_settings" ⟨r.nodes.size⟩ } ∧
      (∀ m : NodeId, m ≠ n → m.index < r.nodes.size → after.node m = r.node m) ∧
      after.held ⟨r.nodes.size⟩ = [] ∧ r.params.size ≤ after.params.size ∧
      (∀ p : ParamId, p.index < r.params.size → after.param p = r.param p) ∧
      after.devices = r.devices := by
  let s : NodeId := ⟨r.nodes.size⟩
  let held : Registry := { r with nodes := r.nodes.push {}, inUse := s :: r.inUse }
  have pushed (m : NodeId) : held.node m = if m.index = r.nodes.size then {} else r.node m :=
    node_push r {} m
  have self : held.node s = {} := by rw [pushed, if_pos rfl]
  have old {m : NodeId} (hm : m.index < r.nodes.size) : held.node m = r.node m := by
    rw [pushed, if_neg hm.ne]
  have size : held.nodes.size = r.nodes.size + 1 := Arena.size_push _ _
  have other : s ≠ n := fun same => inside.ne' (congrArg NodeId.index same)
  obtain ⟨hung, run, entered⟩ := NodeId.attach_free_entered (r := held) n .parameterNode
    "additional_settings" s (fun node => { node with
      children := node.children.insert "additional_settings" s })
    (.inl (by rw [old inside, free])) (not_encloses_of_leaf (by rw [Registry.held, self]; rfl) other)
    (size ▸ Nat.lt_succ_self _) (size ▸ Nat.lt_succ_of_lt inside) (by rw [self])
    (by rw [old inside, top])
  have node : hung.node s = { name := some "additional_settings", parent := some n } := by
    rw [entered.entrant, self]
  have above : (hung.node n).parent = none := by
    rw [entered.holder, old inside, top]
  have known {final : Registry} (same : (final.node s).parent = some n)
      (top : (final.node n).parent = none) : (final.path? s).isSome := by
    refine path?_isSome_iff.mpr (.of_parent fun p up => .of_parent fun q beyond => ?_)
    obtain rfl : n = p := Option.some.inj (same.symm.trans up)
    rw [top] at beyond
    cases beyond
  let averages : ParameterPlan := {
    name := "averages", validator := .ints (some 1) none, initial := .ofInteger { val := 1 } }
  let trigger : ParameterPlan := {
    name := "trigger_source", validator := .oneOf [.string "internal", .string "external"]
    initial := .string "internal" }
  obtain ⟨half, first, grown⟩ := NodeId.addPlanned_grown (n := s) averages rfl
    (known (congrArg (·.parent) node) above) (by rw [node]; rfl)
  have inside' : s.index < hung.nodes.size := entered.size.symm ▸ size ▸ Nat.lt_succ_self _
  have node' := grown.node s
  rw [if_pos ⟨rfl, inside'⟩, node] at node'
  obtain ⟨last, second, grown'⟩ := NodeId.addPlanned_grown (n := s) trigger rfl
    (known (congrArg (·.parent) node') (by rw [grown.others other.symm, above]))
    (by rw [node']; simp [Node.kindOf, OrderedMap.contains, OrderedMap.get?_insert, averages, trigger])
  have filled : (do
      n.addChild "additional_settings" s
      let _ ← s.addPlanned averages
      let _ ← s.addPlanned trigger : Act RegistryError Unit) held = (.ok (), last) := by
    rw [Act.bind_run, NodeId.addChild, run]
    dsimp only
    rw [Act.bind_run, first]
    dsimp only
    rw [Act.bind_run, second]
    rfl
  have settled := Act.holding_eq_ok (n := s) (r := { r with nodes := r.nodes.push {} }) |>.mpr
    ⟨last, filled, rfl⟩
  refine ⟨_, Act.bind_eq_ok.mpr ⟨s, _, rfl, settled⟩, ?_⟩
  have kept {m : NodeId} (ne : m ≠ s) : last.node m = hung.node m :=
    (grown'.others ne).trans (grown.others ne)
  have leaf : last.held s = [] := by
    have grownTwice := grown'.node s
    rw [if_pos ⟨rfl, grown.size.symm ▸ inside'⟩, node'] at grownTwice
    rw [Registry.held, grownTwice]
    rfl
  have more : hung.params = r.params := entered.params
  refine ⟨?_, ?_, fun m ne hm => ?_, leaf, ?_, fun p hp => ?_, ?_⟩
  · exact grown'.size.trans (grown.size.trans (entered.size.trans size))
  · exact (kept other.symm).trans (entered.holder.trans (by rw [old inside]))
  · have ne' : m ≠ s := fun same => hm.ne (congrArg NodeId.index same)
    exact (kept ne').trans ((entered.others m ne ne').trans (old hm))
  · change r.params.size ≤ last.params.size
    rw [grown'.params, grown.params, more]
    omega
  · have bound : p.index < hung.params.size := more ▸ hp
    refine (grown'.param_of_lt (grown.params ▸ Nat.lt_succ_of_lt bound)).trans ?_
    exact (grown.param_of_lt bound).trans (congrArg (·.get p.index) more)
  · exact grown'.devices.trans (grown.devices.trans entered.devices)

/-- There is a new instrument. Nothing listens to its channels, its registers are reset, what it holds
holds nothing, and all other nodes are as they were. -/
structure Registry.Delivered (base : Registry) (d : DeviceId) (channels : Nat) (made : Registry) :
    Prop extends
    made.Instrumented ⟨base.nodes.size⟩ d (base.params.size + 1) channels where
  unheard : ∀ k < channels, ∀ s : Setting, (made.param (s.param (base.params.size + 1) k)).listeners = []
  registers : ∀ k < channels, ∀ s : Setting,
    (made.device d).registers.get? (s.address (k + 1)) = some s.default
  online : (made.device d).online = (base.device d).online
  inside : base.nodes.size < made.nodes.size
  others : ∀ m : NodeId, m.index < base.nodes.size → made.node m = base.node m
  below : ∀ m ∈ made.held ⟨base.nodes.size⟩, base.nodes.size < m.index
  leaf : ∀ m : NodeId, base.nodes.size < m.index → made.held m = []

def Registry.withInstrument (r : Registry) (name : String) : Registry :=
  { r with
    nodes := r.nodes.push { name := some name, config := { classTag := classTag } }
    inUse := ⟨r.nodes.size⟩ :: r.inUse }

namespace Instrument

private theorem identify_run (name : String) (inside : d.index < base.devices.size) : ∃ begun,
    NodeId.addPlanned ⟨base.nodes.size⟩ {
      name := "idn", label := some "Identification", getSource := .command (.readRegister d "*IDN") }
        (base.withInstrument name) = (.ok ⟨base.params.size⟩, begun) ∧ base.Assembling begun d 0 := by
  let n : NodeId := ⟨base.nodes.size⟩
  have pushed (m : NodeId) := node_push base { name := some name, config := { classTag := classTag } } m
  have self : (base.withInstrument name).node n =
      { name := some name, config := { classTag := classTag } } := (pushed n).trans (if_pos rfl)
  have size : (base.withInstrument name).nodes.size = base.nodes.size + 1 := Arena.size_push _ _
  have bare : (base.withInstrument name).Bare n :=
    ⟨size ▸ Nat.lt_succ_self _, by rw [self], by rw [self]⟩
  obtain ⟨begun, run, fits⟩ := NodeId.addPlanned_run {
      name := "idn", label := some "Identification", getSource := .command (.readRegister d "*IDN") }
    (Fitting.start bare) bare rfl List.not_mem_nil
  have node : begun.node n = { name := some name, config := { classTag := classTag }
                               parameters := (begun.node n).parameters
                               delegates := (begun.node n).delegates } := by
    rw [fits.node, self]
  refine ⟨begun, run, ?_⟩
  exact {
    device := fits.devices ▸ inside
    top := by rw [node]
    submodules := by
      rw [node]
      rfl
    parent := fun k hk => absurd hk (Nat.not_lt_zero k)
    entries := fun k hk => absurd hk (Nat.not_lt_zero k)
    size := fits.params.ge
    setup := fun k hk => absurd hk (Nat.not_lt_zero k)
    nodes := fits.size.trans size
    params := fits.params
    names := by
      rw [OrderedMap.keys, fits.entries]
      rfl
    children := by rw [node]
    functions := by rw [node]
    fields := by rw [node]
    unheard := fun k hk => absurd hk (Nat.not_lt_zero k)
    online := congrArg (fun devices : Arena Device => (devices.get d.index).online) fits.devices
    registers := fun k hk => absurd hk (Nat.not_lt_zero k)
    others := fun m hm => by
      have other : m ≠ n := fun same => hm.ne (congrArg NodeId.index same)
      exact (fits.others m other).trans ((pushed m).trans (if_neg hm.ne))
    leaf := fun m hm => by
      rw [held_of_size_le]
      exact (fits.size.trans size).trans_le hm }

private theorem finish_run (h : base.Assembling r d count) : ∃ after,
    (do
      NodeId.addFunction ⟨base.nodes.size⟩ "reset" (.resetChannels d count)
      addSettings ⟨base.nodes.size⟩ : Act RegistryError Unit) r = (.ok (), after) ∧
    ∀ inUse log, base.Delivered d count { after with inUse, log } := by
  let n : NodeId := ⟨base.nodes.size⟩
  have number := h.nodes
  have inside : n.index < r.nodes.size := by
    change base.nodes.size < _
    omega
  have noChannel {name : String} (other : name.toList.head? ≠ some 'c') (k : Nat) (_ : k < count) :
      name ≠ DeviceId.channelName (k + 1) := (DeviceId.channelName_ne other).symm
  let mid : Registry := { r with nodes := r.nodes.change n.index fun node =>
    { node with functions := node.functions.insert "reset" (.resetChannels d count) } }
  have changed (m : NodeId) := node_change r n m fun node =>
    { node with functions := node.functions.insert "reset" (.resetChannels d count) }
  have owner : mid.node n = { r.node n with
      functions := (r.node n).functions.insert "reset" (.resetChannels d count) } :=
    (changed n).trans (if_pos ⟨rfl, inside⟩)
  have size : mid.nodes.size = r.nodes.size := Arena.size_change _ _ _
  have first : n.addFunction "reset" (.resetChannels d count) r = (.ok (), mid) := by
    rw [NodeId.addFunction, Act.bind_run, NodeId.requireFree_of_admits
      (.inl (h.kindOf_of_fresh (by decide) (noChannel (by decide))))]
    rfl
  have free : (mid.node n).kindOf "additional_settings" = none := by
    obtain ⟨parameters, submodules⟩ :=
      h.free (show "additional_settings" ≠ "idn" by decide) (noChannel (by decide))
    rw [owner, Node.kindOf, parameters, submodules, h.children, h.functions, h.fields]
    rfl
  obtain ⟨after, second, bigger, whole, others, settingsLeaf, more, old, devices⟩ :=
    addSettings_run (size ▸ inside) (by rw [owner, h.top]) free
  rw [owner] at whole
  have stays {m : NodeId} (ne : m ≠ n) (below : m.index < r.nodes.size) : after.node m = r.node m :=
    (others m ne (size ▸ below)).trans ((changed m).trans (if_neg fun both => ne both.1))
  have channel (k : Nat) (hk : k < count) : after.node (channelNode n k) = r.node (channelNode n k) := by
    refine stays (fun same => ?_) ?_
    · have index : base.nodes.size + 1 + k = base.nodes.size := congrArg NodeId.index same
      omega
    · change base.nodes.size + 1 + k < _
      omega
  have holds : after.held n = [⟨mid.nodes.size⟩] ++ ((List.range count).map fun k => channelNode n k) := by
    rw [Registry.held, whole, Node.held, h.children, OrderedMap.values, OrderedMap.values, h.submodules,
      List.map_map]
    rfl
  have same : after.device d = r.device d := congrArg (·.get d.index) devices
  refine ⟨after, by rw [Act.bind_run, first]; exact second, fun inUse log => ?_⟩
  exact {
    toChannelled := h.toChannelled.of_old
      ⟨congrArg (·.submodules) whole, congrArg (·.parent) whole⟩ channel old more devices
    reset := by
      refine (congrArg (fun node : Node => node.functions.get? "reset") whole).trans ?_
      exact (OrderedMap.get?_insert _ _ _ _).trans (if_pos rfl)
    unheard := fun k hk s =>
      (congrArg (·.listeners) (old _ (h.param_lt_size hk s))).trans (h.unheard k hk s)
    registers := fun k hk s =>
      (congrArg (fun device : Device => device.registers.get? (s.address (k + 1))) same).trans
        (h.registers k hk s)
    online := (congrArg (·.online) same).trans h.online
    inside := by
      change base.nodes.size < after.nodes.size
      omega
    others := fun m hm =>
      (stays (fun same => hm.ne (congrArg NodeId.index same)) (by omega)).trans (h.others m hm)
    below := fun m mem => by
      have mem : m ∈ after.held n := mem
      rw [holds, List.mem_append, List.mem_singleton, List.mem_map] at mem
      rcases mem with rfl | ⟨k, -, rfl⟩
      · change _ < mid.nodes.size
        omega
      · change base.nodes.size < base.nodes.size + 1 + k
        omega
    leaf := fun m hm => by
      change after.held m = []
      rcases lt_trichotomy m.index mid.nodes.size with below | new | beyond
      · have kept := stays (fun same => hm.ne' (congrArg NodeId.index same)) (size ▸ below)
        exact (congrArg Node.held kept).trans (h.leaf m hm)
      · rw [show m = ⟨mid.nodes.size⟩ from congrArg NodeId.mk new, settingsLeaf]
      · exact held_of_size_le (bigger.trans_le beyond) }

/-- On a device that is online an instrument with any number of channels can be made, and without
channels on every device. -/
theorem create_run (name : String) (channels : Nat) (inside : d.index < base.devices.size)
    (ready : channels = 0 ∨ (base.device d).online = true) :
    ∃ made, create name channels d base = (.ok ⟨base.nodes.size⟩, made) ∧
      base.Delivered d channels made := by
  let n : NodeId := ⟨base.nodes.size⟩
  obtain ⟨begun, first, start⟩ := identify_run name inside
  obtain ⟨channelled, added, assembled⟩ := addChannels_run channels start ready
  rw [Nat.zero_add] at assembled added
  obtain ⟨equipped, finished, delivered⟩ := finish_run assembled
  have run : equip n channels d (base.withInstrument name) = (.ok (), equipped) := by
    rw [equip, Act.bind_run, first]
    dsimp only
    rw [Act.bind_run, added]
    exact finished
  have composed : (return "created simulated instrument '" ++ name ++ "' with " ++
      String.ofList (Nat.toDigits 10 channels) ++ " channels" : Act DomainError String)
        { equipped with inUse := base.inUse } = (.ok _, { equipped with inUse := base.inUse }) := rfl
  obtain ⟨lines, logged⟩ := Act.debug_ok composed
  have made := Act.holding_eq_ok (n := n)
    (r := { base.withInstrument name with inUse := base.inUse }) |>.mpr
      ⟨equipped, Act.mapError_eq_ok (f := DomainError.registry).mpr run, rfl⟩
  exact ⟨_, Act.bind_eq_ok.mpr ⟨n, _, rfl, Act.bind_eq_ok.mpr ⟨(), _, made,
    Act.bind_eq_ok.mpr ⟨(), _, logged, rfl⟩⟩⟩, delivered _ _⟩

end Instrument
end LabRegistry

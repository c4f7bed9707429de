import LabRegistry.Proofs.Instrument.Creation
import LabRegistry.Proofs.Sequence.Working
import LabRegistry.Station

/-!
# Putting a station together

Nothing is in the way of what a station does below its root: the names are free, no node that is entered
contains the root, and going down from it ends soon, so that all parameters can be told to log their
changes.
-/
namespace LabRegistry

open Registry Instrument

variable {r base after : Registry} {d : DeviceId} {station : Station}
  {root n m : NodeId} {low depth : Nat}

/-! ## Going down -/

namespace Registry

/-- Going down from the node never leads below a number, and it ends within a depth. -/
def Shallow (r : Registry) (low : Nat) : Nat → NodeId → Prop
  | 0, _ => False
  | depth + 1, n => low ≤ n.index ∧ ∀ m ∈ r.held n, r.Shallow low depth m

namespace Shallow

private theorem mono {low' : Nat} (h : r.Shallow low depth n) (le : low' ≤ low) :
    r.Shallow low' depth n := by
  induction depth generalizing n with
  | zero => exact h
  | succ depth ih => exact ⟨le.trans h.1, fun m mem => ih (h.2 m mem)⟩

private theorem of_held (h : r.Shallow low depth n)
    (same : ∀ m : NodeId, low ≤ m.index → after.held m = r.held m) : after.Shallow low depth n := by
  induction depth generalizing n with
  | zero => exact h
  | succ depth ih =>
    refine ⟨h.1, fun m mem => ih (h.2 m ?_)⟩
    rwa [same n h.1] at mem

private theorem low_le (h : r.Shallow low depth n) (path : r.Encloses n m) : low ≤ m.index := by
  induction path using Relation.ReflTransGen.head_induction_on generalizing depth with
  | refl =>
    cases depth with
    | zero => exact h.elim
    | succ depth => exact h.1
  | head edge _ ih =>
    cases depth with
    | zero => exact h.elim
    | succ depth => exact ih (h.2 _ edge)

private theorem not_encloses (h : r.Shallow low depth n) (below : m.index < low) :
    ¬ r.Encloses n m :=
  fun path => absurd (h.low_le path) (not_le.mpr below)

private theorem ne (h : r.Shallow low depth n) (below : m.index < low) : n ≠ m :=
  fun same => h.not_encloses below (same ▸ .refl)

end Shallow
end Registry

private theorem Act.forM_run {ε α : Type} (P : Registry → Prop) {f : α → Act ε PUnit} {xs : List α}
    (h : ∀ x ∈ xs, ∀ r, P r → ∃ after, f x r = (.ok (), after) ∧ P after) (holds : P r) :
    ∃ after, xs.forM f r = (.ok (), after) ∧ P after := by
  induction xs generalizing r with
  | nil => exact ⟨r, rfl, holds⟩
  | cons x xs ih =>
    obtain ⟨mid, first, holds⟩ := h x List.mem_cons_self r holds
    obtain ⟨after, rest, holds⟩ := ih (fun y mem => h y (List.mem_cons_of_mem _ mem)) holds
    exact ⟨after, bind_eq_ok.mpr ⟨(), mid, first, rest⟩, holds⟩

namespace NodeId

private theorem logAllWithin_run {limit : Nat} (h : r.Shallow low depth n) (le : depth ≤ limit) :
    ∃ after, logAllWithin limit n r = (.ok (), after) ∧ after.nodes = r.nodes := by
  induction depth generalizing limit n r with
  | zero => exact h.elim
  | succ depth ih =>
    obtain ⟨limit, rfl⟩ := Nat.exists_eq_add_of_lt le
    have own (p : ParamId) (_ : p ∈ (r.node n).parameters.values) (mid : Registry)
        (same : mid.nodes = r.nodes) : ∃ after,
          (p.change ({ · with logsChanges := true }) : Act RegistryError Unit) mid = (.ok (), after) ∧
            after.nodes = r.nodes :=
      ⟨_, rfl, same⟩
    have held (m : NodeId) (mem : m ∈ r.held n) (mid : Registry) (same : mid.nodes = r.nodes) : ∃ after,
        logAllWithin (depth + limit) m mid = (.ok (), after) ∧ after.nodes = r.nodes := by
      have shallow : mid.Shallow low depth m := (h.2 m mem).of_held fun k _ =>
        congrArg (fun nodes => (nodes.get k.index).held) same
      obtain ⟨after, run, nodes⟩ := ih shallow (Nat.le_add_right depth limit)
      exact ⟨after, run, nodes.trans same⟩
    obtain ⟨mid, logged, same⟩ := Act.forM_run (fun mid => mid.nodes = r.nodes) own rfl
    obtain ⟨after, below, same'⟩ := Act.forM_run (fun mid => mid.nodes = r.nodes) held same
    refine ⟨after, ?_, same'⟩
    exact Act.bind_eq_ok.mpr ⟨_, r, rfl, Act.bind_eq_ok.mpr ⟨(), mid, logged, below⟩⟩

private theorem logAll_run (h : r.Shallow low depth n) (le : depth ≤ r.nodes.size + 1) :
    ∃ after, n.logAll r = (.ok (), after) ∧ after.nodes = r.nodes :=
  logAllWithin_run h le

end NodeId

/-! ## The instrument -/

namespace Station

theorem createInstrument_run (inside : d.index < base.devices.size)
    (online : (base.device d).online = true) : ∃ made after, base.Delivered d 2 made ∧
      createInstrument d base = (.ok ⟨base.nodes.size⟩, after) ∧ after.nodes = made.nodes := by
  let n : NodeId := ⟨base.nodes.size⟩
  obtain ⟨made, created, delivered⟩ := Instrument.create_run "sim" 2 inside (.inr online)
  let held : Registry := { made with inUse := n :: made.inUse }
  have channelled : held.Channelled n d (base.params.size + 1) 2 :=
    delivered.toChannelled.of_old ⟨rfl, rfl⟩ (fun _ _ => rfl) (fun _ _ => rfl) le_rfl rfl
  have taken : (Setting.voltage.sent? (decimal 25 (-2))).isSome := by decide +kernel
  have first : 0 < 2 := Nat.zero_lt_two
  have set : ∃ after, (Setting.voltage.param (base.params.size + 1) 0).set (decimal 25 (-2)) held =
      (.ok (), after) := by
    rcases channelled.set_run first .voltage (delivered.unheard 0 first .voltage) (decimal 25 (-2)) with
      ⟨-, after, -, -, run, -⟩ | ⟨refused | offline, -⟩
    · exact ⟨after, run⟩
    · rw [refused] at taken
      cases taken
    · cases offline.symm.trans (delivered.online.trans online)
  obtain ⟨after, set⟩ := set
  have nodes : after.nodes = made.nodes := by
    have effects := Effects.set (Setting.voltage.param (base.params.size + 1) 0) (decimal 25 (-2)) held
    rw [set] at effects
    exact effects.sameNodes.nodes
  have named : (channelNode n 0).set "voltage" (decimal 25 (-2)) held = (.ok (), after) :=
    Act.bind_eq_ok.mpr ⟨_, held, channelled.parameter_run first .voltage, set⟩
  have channel :
      (do (← Instrument.channel n 1).set "voltage" (decimal 25 (-2)) : Act DomainError Unit) held =
        (.ok (), after) :=
    Act.bind_eq_ok.mpr ⟨channelNode n 0, held, channelled.channel_run first, Act.lift_ok named⟩
  have settled := Act.holding_eq_ok (n := n) (r := made) |>.mpr ⟨after, channel, rfl⟩
  exact ⟨made, _, delivered,
    Act.bind_eq_ok.mpr ⟨n, made, created, Act.bind_eq_ok.mpr ⟨(), _, settled, rfl⟩⟩, nodes⟩

end Station

/-! ## The root -/

private theorem Node.kindOf_insertChild {node : Node} {name key : String} {child : NodeId}
    (other : key ≠ name) :
    kindOf { node with children := node.children.insert name child } key = node.kindOf key := by
  have same : (node.children.insert name child).contains key = node.children.contains key := by
    rw [OrderedMap.contains, OrderedMap.get?_insert, if_neg other, OrderedMap.contains]
  rw [kindOf, kindOf]
  dsimp only
  rw [same]

private theorem Node.mem_held_insertChild {node : Node} {name : String} {child : NodeId}
    (mem : m ∈ held { node with children := node.children.insert name child }) :
    m = child ∨ m ∈ node.held := by
  rcases List.mem_append.mp mem with mem | mem
  · exact (OrderedMap.mem_of_mem_values_insert mem).imp_right (List.mem_append_left _)
  · exact .inr (List.mem_append_right _ mem)

namespace Station

/-- The root is at the top and holds nothing, and the names of what is to come are free. -/
structure Vacant (r : Registry) (root : NodeId) : Prop where
  inside : root.index < r.nodes.size
  top : (r.node root).parent = none
  leaf : r.held root = []
  sequence : (r.node root).kindOf "sequence" = none
  sim : (r.node root).kindOf "sim" = none

theorem Vacant.of_node (h : Vacant r root) (node : after.node root = r.node root)
    (size : r.nodes.size ≤ after.nodes.size) : Vacant after root where
  inside := h.inside.trans_le size
  top := node ▸ h.top
  leaf := (congrArg Node.held node).trans h.leaf
  sequence := node ▸ h.sequence
  sim := node ▸ h.sim

theorem addCreationTime_run {name : String} {given : NodeConfig} (inside : root.index < r.nodes.size)
    (bare : r.node root = { name := some name, config := given }) : ∃ after,
      addCreationTime root r = (.ok (), after) ∧ Vacant after root ∧ after.nodes.size = r.nodes.size ∧
        after.sequences = r.sequences := by
  let later : Registry := { r with now := r.now.next }
  have nodes : later.nodes = r.nodes := rfl
  have node : later.node root = { name := some name, config := given } :=
    (congrArg (·.get root.index) nodes).trans bare
  let plan := ParameterPlan.readOnly { name := "created_at", initial := .string r.now.internetText }
  have accepted (text : String) : Validator.anything.validate (.string text) = .ok () := rfl
  obtain ⟨after, added, grown⟩ := NodeId.addPlanned_grown (r := later) (n := root) plan (accepted _)
    (by rw [path?_of_top (by rw [node])]; rfl) (by rw [node]; rfl)
  have owner := grown.node root
  rw [if_pos ⟨rfl, inside⟩, node] at owner
  refine ⟨after, Act.bind_eq_ok.mpr ⟨r.now, later, rfl, Act.bind_eq_ok.mpr ⟨_, after, added, rfl⟩⟩,
    ?_, grown.size, grown.sequences⟩
  exact {
    inside := grown.size.symm ▸ inside
    top := by rw [owner]
    leaf := (congrArg Node.held owner).trans rfl
    sequence := by
      rw [owner]
      simp [Node.kindOf, OrderedMap.contains, OrderedMap.get?_insert, plan, ParameterPlan.readOnly]
    sim := by
      rw [owner]
      simp [Node.kindOf, OrderedMap.contains, OrderedMap.get?_insert, plan, ParameterPlan.readOnly] }

/-- The root is at the top, and going down from it ends within three levels. -/
structure RootReady (r : Registry) (root : NodeId) : Prop where
  inside : root.index < r.nodes.size
  top : (r.node root).parent = none
  below : ∀ m ∈ r.held root, r.Shallow (root.index + 1) 2 m

/-- The node hangs nowhere, and going down from it leads to new nodes only and ends within two levels. -/
structure Loose (r : Registry) (root n : NodeId) : Prop where
  inside : n.index < r.nodes.size
  top : (r.node n).parent = none
  shallow : r.Shallow (root.index + 1) 2 n

theorem Loose.of_nodes (h : Loose r root n) (nodes : after.nodes = r.nodes) : Loose after root n where
  inside := nodes ▸ h.inside
  top := (congrArg (fun nodes => (nodes.get n.index).parent) nodes).trans h.top
  shallow := h.shallow.of_held fun k _ => congrArg (fun nodes => (nodes.get k.index).held) nodes

namespace RootReady

variable (h : RootReady r root)

include h

private theorem shallow : r.Shallow root.index 3 root :=
  ⟨le_rfl, fun m mem => (h.below m mem).mono (Nat.le_succ _)⟩

private theorem of_nodes (nodes : after.nodes = r.nodes) : RootReady after root where
  inside := nodes ▸ h.inside
  top := (congrArg (fun nodes => (nodes.get root.index).parent) nodes).trans h.top
  below m mem := by
    have held (k : NodeId) : after.held k = r.held k :=
      congrArg (fun nodes => (nodes.get k.index).held) nodes
    rw [held] at mem
    exact (h.below m mem).of_held fun k _ => held k

private theorem addChild_run {name : String} {child : NodeId}
    (free : (r.node root).kindOf name = none)
    (loose : Loose r root child) : ∃ after,
      root.addChild name child r = (.ok (), after) ∧ RootReady after root ∧
        r.Entered root child name (fun node => { node with children := node.children.insert name child })
          after := by
  obtain ⟨after, run, entered⟩ := NodeId.attach_free_entered root .parameterNode name child
    (fun node => { node with children := node.children.insert name child }) (.inl free)
    (loose.shallow.not_encloses (Nat.lt_succ_self _)) loose.inside h.inside loose.top h.top
  have still (m : NodeId) (hm : root.index + 1 ≤ m.index) : after.held m = r.held m :=
    entered.held fun same => absurd hm (same ▸ Nat.not_succ_le_self _)
  refine ⟨after, run, ⟨entered.size.symm ▸ h.inside, ?_, fun m mem => ?_⟩, entered⟩
  · exact (congrArg (·.parent) entered.holder).trans h.top
  · rw [Registry.held, entered.holder] at mem
    rcases Node.mem_held_insertChild mem with rfl | old
    · exact loose.shallow.of_held still
    · exact (h.below m old).of_held still

private theorem finish_run (config : AppConfig) (large : 2 ≤ r.nodes.size) : ∃ after, (do
    if config.logsChanges then root.logAll
    Act.debug do return "built demo station '" ++ (← root.displayName) ++ "'" :
      Act RegistryError Unit) r = (.ok (), after) := by
  have note {logged : Registry} (ready : RootReady logged root) : ∃ after,
      (Act.debug do return "built demo station '" ++ (← root.displayName) ++ "'" :
        Act RegistryError Unit) logged = (.ok (), after) := by
    obtain ⟨shown, named⟩ := Option.isSome_iff_exists.mp (displayName?_of_top ready.top)
    have composed : (do return "built demo station '" ++ (← root.displayName) ++ "'" :
        Act RegistryError String) logged = (.ok ("built demo station '" ++ shown ++ "'"), logged) := by
      rw [Act.bind_run, NodeId.displayName, Act.orEndless_run, named]
      rfl
    obtain ⟨lines, noted⟩ := Act.debug_ok composed
    exact ⟨_, noted⟩
  cases config.logsChanges with
  | false => exact note h
  | true =>
    obtain ⟨logged, logs, nodes⟩ := NodeId.logAll_run h.shallow (by omega)
    obtain ⟨after, noted⟩ := note (h.of_nodes nodes)
    exact ⟨after, Act.bind_eq_ok.mpr ⟨(), logged, logs, noted⟩⟩

end RootReady

private theorem Vacant.ready (h : Vacant r root) : RootReady r root where
  inside := h.inside
  top := h.top
  below m mem := by
    rw [h.leaf] at mem
    cases mem

theorem assemble_run (config : AppConfig) (vacant : Vacant r station.root)
    (sequence : Loose r station.root (r.nodeOf station.sequence))
    (instrument : Loose r station.root station.instrument)
    (distinct : station.instrument ≠ r.nodeOf station.sequence) :
    ∃ after, assemble config station r = (.ok (), after) := by
  obtain ⟨mid, sequenced, ready, entered⟩ := vacant.ready.addChild_run vacant.sequence sequence
  let held : Registry := { mid with inUse := station.instrument :: mid.inUse }
  have other : station.instrument ≠ station.root := instrument.shallow.ne (Nat.lt_succ_self _)
  have free : (held.node station.root).kindOf "sim" = none :=
    (congrArg (Node.kindOf · "sim") entered.holder).trans
      ((Node.kindOf_insertChild (by decide)).trans vacant.sim)
  have still : Loose mid station.root station.instrument := {
    inside := entered.size.symm ▸ instrument.inside
    top := (congrArg (·.parent) (entered.others _ other distinct)).trans instrument.top
    shallow := instrument.shallow.of_held fun m hm =>
      entered.held fun same => absurd hm (same ▸ Nat.not_succ_le_self _) }
  obtain ⟨last, hung, ready, entered'⟩ :=
    (ready.of_nodes (rfl : held.nodes = mid.nodes)).addChild_run free (still.of_nodes rfl)
  have kept := Act.holding_eq_ok (n := station.instrument) (r := mid) |>.mpr ⟨last, hung, rfl⟩
  let final : Registry := { last with inUse := mid.inUse }
  have size : final.nodes.size = r.nodes.size := entered'.size.trans entered.size
  have large : 2 ≤ final.nodes.size := by
    have beyond := sequence.shallow.1
    have inside := sequence.inside
    omega
  obtain ⟨after, finished⟩ := (ready.of_nodes (rfl : final.nodes = last.nodes)).finish_run config large
  exact ⟨after, Act.bind_eq_ok.mpr ⟨_, r, rfl, Act.bind_eq_ok.mpr ⟨(), mid, sequenced,
    Act.bind_eq_ok.mpr ⟨(), final, kept, finished⟩⟩⟩⟩

end Station
end LabRegistry

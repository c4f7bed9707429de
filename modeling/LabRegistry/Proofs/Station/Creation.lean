import LabRegistry.Proofs.Station.Assembling
import LabRegistry.Proofs.Station.Building

/-!
# Making a station

A station can be made whatever its configuration is. Its sequence hangs below its root and is held from
then on, and the pulses in it are linked.
-/
namespace LabRegistry

open Registry

variable {r base after : Registry} {config : AppConfig} {station : Station} {root first second : NodeId}
  {s : SequenceId}

namespace Registry

/-- The pulses of a station are linked and found under their names. -/
structure Playing (r : Registry) (s : SequenceId) (plunge read : NodeId) : Prop
    extends r.Linked s plunge read where
  children : (r.node (r.nodeOf s)).children.entries = [("plunge", plunge), ("read", read)]

/-- The only sequence came, with two linked pulses in it. It hangs nowhere yet, the pulses hang below it
if they hang anywhere, and all other nodes are as they were. -/
structure Sequenced (r : Registry) (s : SequenceId) (first second : NodeId) (after : Registry) :
    Prop where
  linked : after.Linked s first second
  only : ∀ t : SequenceId, t.index < after.sequences.size → t = s
  owner : after.nodeOf s = ⟨r.nodes.size⟩
  children : (after.node ⟨r.nodes.size⟩).children.entries = [("plunge", first), ("read", second)]
  submodules : (after.node ⟨r.nodes.size⟩).submodules.entries = []
  new : ∀ n ∈ [first, second], r.nodes.size < n.index ∧ n.index < after.nodes.size
  top : (after.node ⟨r.nodes.size⟩).parent = none
  below : ∀ n ∈ [first, second], ∀ p, (after.node n).parent = some p → p = ⟨r.nodes.size⟩
  others : ∀ n : NodeId, n.index < r.nodes.size → after.node n = r.node n

end Registry

private theorem Station.sequence_run (empty : r.sequences.size = 0) : ∃ made s first second after,
    SequenceId.create none r = (.ok s, made) ∧ made.nodeOf s = ⟨r.nodes.size⟩ ∧
      Station.addPulses s { made with inUse := made.nodeOf s :: made.inUse } = (.ok (), after) ∧
      r.Sequenced s first second after := by
  let s : SequenceId := ⟨r.sequences.size⟩
  let n : NodeId := ⟨r.nodes.size⟩
  obtain ⟨arranged, settled⟩ : r.Arranged ∅ ∅ ∧ r.Settled ∅ :=
    arranged_of_none empty fun _ => Set.notMem_empty _
  obtain ⟨made, created, fitting, owner, extended, inOrder⟩ := arranged.createSequence settled none
  let held : Registry := { made with inUse := made.nodeOf s :: made.inUse }
  have sequences : held.sequences.size = 1 := by
    change made.sequences.size = 1
    rw [fitting.sequences, withSequence, Arena.size_push, empty]
  have nodes : held.nodes.size = r.nodes.size + 1 := by
    change made.nodes.size = _
    rw [fitting.size, withSequence, Arena.size_push]
  have inside : s.index < held.sequences.size := by
    rw [sequences]
    exact empty.trans_lt Nat.zero_lt_one
  obtain ⟨arranged', settled', -, fresh⟩ := inOrder (made.nodeOf s :: made.inUse) made.bench
    ⟨fun _ mem => absurd mem (Set.notMem_empty _),
      fun t ht => absurd ht (by rw [empty]; exact Nat.not_lt_zero _)⟩
    (List.mem_append_left _ (owner ▸ List.mem_cons_self))
  have free : ∀ name ∈ ["plunge", "read"], (held.node (held.nodeOf s)).kindOf name = none := by
    have unplanned : ∀ name ∈ ["plunge", "read"], name ∉ SequenceId.plans.map (·.name) := by
      decide +kernel
    intro name mem
    have kind := fitting.kindOf_of_fresh (r.bare_withSequence _) (unplanned name mem)
    rwa [← owner] at kind
  have overlap : (held.param ⟨held.firstParam (held.nodeOf s)⟩).value = .bool true := by
    have fitted := fitting.fitted (by simp [SequenceId.plans, ParameterPlan.delegated])
    have first : held.firstParam (held.nodeOf s) = r.params.size := by
      change made.firstParam (made.nodeOf s) = _
      rw [owner]
      exact fitted.firstParam
    rw [first]
    exact (fitting.fresh 0 _ rfl).value
  obtain ⟨first, second, after, added, linked, furnished⟩ :=
    arranged'.addPulses_run settled' inside fresh.empty free overlap
  have owner' : held.nodeOf s = n := owner
  have children := furnished.children
  have below := furnished.below
  have node := furnished.owner
  have top := (congrArg (·.parent) node).trans fresh.top
  rw [owner'] at children below top node
  refine ⟨made, s, first, second, after, created, owner, added, ?_⟩
  exact {
    linked := linked
    only := fun t ht => by
      rw [furnished.sequences, sequences] at ht
      rw [SequenceId.mk.injEq]
      omega
    owner := furnished.nodeOf.trans owner'
    children := children
    submodules := by
      rw [node]
      refine (congrArg (·.submodules.entries) fitting.node).trans ?_
      exact congrArg (·.submodules.entries) (r.bare_withSequence none).node
    new := fun m mem => by
      have within := furnished.new m mem
      rw [nodes] at within
      exact within
    top := top
    below := below
    others := fun m hm => by
      have away : m ≠ held.nodeOf s := fun same => hm.ne (congrArg NodeId.index (same.trans owner'))
      exact (furnished.others m (nodes ▸ Nat.lt_succ_of_lt hm) away).trans (extended.node m hm) }

private theorem Registry.Sequenced.hold (h : r.Sequenced s first second base)
    (beside : base.Beside root after)
    (inside : root.index < r.nodes.size) (top : (r.node root).parent = none)
    (kept : after.isAlive ⟨r.nodes.size⟩ = true) :
    after.Linked s first second ∧
      (after.node (after.nodeOf s)).children.entries = [("plunge", first), ("read", second)] := by
  let n : NodeId := ⟨r.nodes.size⟩
  have below {m : NodeId} (hm : m ∈ [first, second]) : n.index < m.index := (h.new m hm).1
  have within {m : NodeId} (hm : m ∈ [first, second]) : m.index < base.nodes.size := (h.new m hm).2
  have inside' : n.index < base.nodes.size := (below List.mem_cons_self).trans (within List.mem_cons_self)
  have other : n ≠ root := fun same => absurd inside (same ▸ lt_irrefl _)
  have children : (after.node n).children = (base.node n).children :=
    congrArg (·.children) (beside.node n inside' other)
  -- What hangs somewhere hangs below the node of the sequence or below the root, which is at the top.
  have rootEnds : after.ParentsEnd root := .of_parent fun p parent => by
    rcases beside.parent root (inside.trans inside') with same | ⟨ne, -⟩
    · rw [same, h.others root inside, top] at parent
      cases parent
    · exact absurd rfl ne
  have ends {m : NodeId} (hm : m.index < base.nodes.size)
      (old : ∀ p, (base.node m).parent = some p → after.ParentsEnd p) : after.ParentsEnd m :=
    .of_parent fun p parent => by
      rcases beside.parent m hm with same | ⟨-, placed⟩
      · exact old p (same ▸ parent)
      · rw [placed] at parent
        cases parent
        exact rootEnds
  have owner : base.Stands root after n :=
    ⟨inside', other, kept, ends inside' fun p parent => by rw [h.top] at parent; cases parent⟩
  have pulse {m : NodeId} (hm : m ∈ [first, second]) : base.Stands root after m := by
    refine ⟨within hm, fun same => absurd inside (same ▸ not_lt.mpr (below hm).le), ?_, ?_⟩
    · obtain ⟨start, held, path⟩ := isAlive_iff.mp kept
      refine isAlive_iff.mpr ⟨start, held, path.tail (List.mem_append_left _ ?_)⟩
      rw [children, OrderedMap.values, h.children]
      exact hm
    · refine ends (within hm) fun p parent => ?_
      rw [h.below m hm p parent]
      exact owner.ends
  refine ⟨beside.linked h.linked (fun m hm => pulse (by simpa using hm)) fun t ht => ?_, ?_⟩
  · rw [h.only t ht, h.owner]
    exact owner
  · rw [beside.nodeOf, h.owner, children, h.children]

/-- What the station makes once its pulses are linked. -/
def Station.complete (config : AppConfig) (root : NodeId) (s : SequenceId) : Act AppError Station := do
  let device ← DeviceId.create identification
  let instrument ← createInstrument device
  let station : Station := { root, sequence := s, instrument, device }
  assemble config station
  return station

private theorem Station.complete_beside (config : AppConfig) (other : base.nodeOf s ≠ root) :
    (complete config root s).Upholds (base.Beside root) fun station =>
      station.root = root ∧ station.sequence = s := by
  have device : (DeviceId.create identification : Act AppError DeviceId).Upholds (base.Beside root)
      fun _ => True := by
    intro r d after beside run
    cases run
    exact ⟨beside.elsewhere rfl rfl rfl, trivial⟩
  refine .followed device fun device => .bind (.mapError (createInstrument_beside device))
    fun instrument new => ?_
  let station : Station := { root, sequence := s, instrument, device }
  have new : base.nodes.size ≤ station.instrument.index := new
  have other : (base.sequence station.sequence).node ≠ station.root := other
  exact .followed (.mapError (assemble_beside config new other)) fun _ => .pure ⟨rfl, rfl⟩

namespace Station

def furnish (config : AppConfig) (root : NodeId) : Act AppError Station := do
  addCreationTime root
  let s ← SequenceId.create none
  let n ← s.node
  Act.holding n do
    addPulses s
    complete config root s

private theorem create_eq (config : AppConfig) : create config = (do
    let root ← NodeId.create (some rootName) config.nodeConfig
    Act.holding root (furnish config root)) :=
  rfl

private theorem Sequenced.loose (h : r.Sequenced s first second base)
    (inside : root.index < r.nodes.size)
    (old : ∀ m : NodeId, m.index < base.nodes.size → after.node m = base.node m)
    (size : base.nodes.size ≤ after.nodes.size) : Loose after root ⟨r.nodes.size⟩ := by
  have new := h.new first List.mem_cons_self
  have small : r.nodes.size < base.nodes.size := new.1.trans new.2
  have same : after.node ⟨r.nodes.size⟩ = base.node ⟨r.nodes.size⟩ := old _ small
  refine ⟨small.trans_le size, (congrArg (·.parent) same).trans h.top, inside, fun m mem => ?_⟩
  rw [Registry.held, same, Node.held, OrderedMap.values, OrderedMap.values, h.children,
    h.submodules] at mem
  have within := h.new m mem
  have leaf : after.held m = [] := by
    refine (congrArg Node.held (old m within.2)).trans ?_
    exact (h.linked.working.pulse m (by simpa using mem)).leaf
  refine ⟨inside.trans within.1, fun k below => ?_⟩
  rw [leaf] at below
  cases below

private theorem Delivered.loose {d : DeviceId} {channels : Nat}
    (h : base.Delivered d channels after)
    (inside : root.index < base.nodes.size) : Loose after root ⟨base.nodes.size⟩ := by
  refine ⟨h.inside, h.top, inside, fun m mem => ?_⟩
  have beyond := h.below m mem
  refine ⟨inside.trans beyond, fun k below => ?_⟩
  rw [h.leaf m beyond] at below
  cases below

private theorem complete_run (config : AppConfig) (h : r.Sequenced s first second base)
    (vacant : Vacant r root) :
    ∃ station built, complete config root s base = (.ok station, built) := by
  let d : DeviceId := ⟨base.devices.size⟩
  let sequence : NodeId := ⟨r.nodes.size⟩
  let instrument : NodeId := ⟨base.nodes.size⟩
  let registers := OrderedMap.empty.insert "*IDN" (Value.string identification)
  let equipped : Registry := { base with devices := base.devices.push { registers } }
  have device : equipped.device d = { registers } := Arena.get_push_size _ _
  have provided : (DeviceId.create identification : Act AppError DeviceId) base = (.ok d, equipped) := rfl
  obtain ⟨made, mid, delivered, created, nodes⟩ := @createInstrument_run equipped d
    ((Nat.lt_succ_self _).trans_eq (Arena.size_push _ _).symm) (by rw [device])
  have owner : mid.nodeOf s = sequence := by
    obtain ⟨beside, -⟩ := createInstrument_beside d _ _ _ (Beside.refl equipped root) created
    exact (beside.nodeOf s).trans h.owner
  have old (m : NodeId) (hm : m.index < base.nodes.size) : mid.node m = base.node m :=
    (congrArg (·.get m.index) nodes).trans (delivered.others m hm)
  have inside := vacant.inside
  have new := h.new first List.mem_cons_self
  have small : r.nodes.size < base.nodes.size := new.1.trans new.2
  have size : base.nodes.size ≤ mid.nodes.size := nodes ▸ delivered.inside.le
  have vacant' : Vacant mid root := vacant.of_node
    ((old root (inside.trans small)).trans (h.others root inside)) (small.le.trans size)
  have distinct : instrument ≠ sequence := fun same => small.ne' (congrArg NodeId.index same)
  have loose : Loose mid root sequence := Sequenced.loose h inside old size
  have loose' : Loose mid root instrument :=
    (Delivered.loose delivered (inside.trans small)).of_nodes nodes
  rw [← owner] at loose distinct
  let station : Station := { root, sequence := s, instrument, device := d }
  obtain ⟨built, assembled⟩ : ∃ built, assemble config station mid = (.ok (), built) :=
    assemble_run config vacant' loose loose' distinct
  have last := Act.mapError_eq_ok (f := AppError.registry) |>.mpr assembled
  exact ⟨station, built, Act.bind_eq_ok.mpr ⟨d, equipped, provided, Act.bind_eq_ok.mpr ⟨instrument, mid,
    Act.mapError_eq_ok.mpr created, Act.bind_eq_ok.mpr ⟨(), built, last, rfl⟩⟩⟩⟩

private theorem furnish_run (config : AppConfig) {name : String} {given : NodeConfig}
    (inside : root.index < r.nodes.size) (bare : r.node root = { name := some name, config := given })
    (empty : r.sequences.size = 0) :
    ∃ station built, furnish config root r = (.ok station, built) ∧
      ∃ first second, ∀ after : Registry, after.nodes = built.nodes →
        after.params = built.params → after.sequences = built.sequences →
        after.isAlive (after.nodeOf station.sequence) = true →
          after.Linked station.sequence first second ∧
            (after.node (after.nodeOf station.sequence)).children.entries =
              [("plunge", first), ("read", second)] := by
  obtain ⟨mid, timed, vacant, -, sequences⟩ := addCreationTime_run inside bare
  obtain ⟨made, s, first, second, base, created, owner, added, sequenced⟩ :=
    sequence_run (r := mid) ((congrArg Arena.size sequences).trans empty)
  have other : base.nodeOf s ≠ root := by
    rw [sequenced.owner]
    exact fun same => absurd vacant.inside (same ▸ lt_irrefl _)
  obtain ⟨station, last, completed⟩ := complete_run config sequenced vacant
  obtain ⟨beside, rfl, rfl⟩ :=
    complete_beside config other base station last (Beside.refl base _) completed
  have held : Act.holding (made.nodeOf station.sequence) (do
      addPulses station.sequence
      complete config station.root station.sequence : Act AppError Station) made =
        (.ok station, { last with inUse := made.inUse }) :=
    Act.holding_eq_ok.mpr ⟨last, Act.bind_eq_ok.mpr ⟨(), base, added, completed⟩, rfl⟩
  refine ⟨station, _, Act.bind_eq_ok.mpr ⟨(), mid, Act.mapError_eq_ok.mpr timed,
    Act.bind_eq_ok.mpr ⟨station.sequence, made, Act.mapError_eq_ok.mpr created,
      Act.bind_eq_ok.mpr ⟨made.nodeOf station.sequence, made, rfl, held⟩⟩⟩, first, second, ?_⟩
  intro after nodes params sequences alive
  have beside' : base.Beside station.root after := beside.elsewhere nodes params sequences
  refine sequenced.hold beside' vacant.inside vacant.top ?_
  rwa [beside'.nodeOf, sequenced.owner] at alive

theorem create_run (config : AppConfig) (handle : String) (empty : r.sequences.size = 0) :
    ∃ station built, create config r = (.ok station, built) ∧ ∃ plunge read,
      (built.keep handle (.station station)).Playing station.sequence plunge read := by
  let root : NodeId := ⟨r.nodes.size⟩
  let bare : Node := { name := some rootName, config := config.nodeConfig }
  let begun : Registry := { r with nodes := r.nodes.push bare }
  have pushed := node_push r bare root
  rw [if_pos rfl] at pushed
  obtain ⟨station, last, furnished, plunge, read, linked⟩ := furnish_run config
    (r := { begun with inUse := root :: begun.inUse })
    ((Nat.lt_succ_self _).trans_eq (Arena.size_push _ _).symm) pushed empty
  have held := Act.holding_eq_ok (n := root) (r := begun) |>.mpr ⟨last, furnished, rfl⟩
  let built : Registry := { last with inUse := begun.inUse }
  have created : create config r = (.ok station, built) := by
    rw [create_eq]
    exact Act.bind_eq_ok.mpr ⟨root, begun, rfl, held⟩
  refine ⟨station, built, created, plunge, read, ?_⟩
  have kept : (built.keep handle (.station station)).isAlive (built.nodeOf station.sequence) = true :=
    isAlive_keep (List.mem_cons_of_mem _ List.mem_cons_self)
  obtain ⟨linked, children⟩ := linked (built.keep handle (.station station)) rfl rfl rfl kept
  exact ⟨linked, children⟩

end Station
end LabRegistry

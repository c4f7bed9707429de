import LabRegistry.Proofs.Sequence.Setting

/-!
# Arranged pulses

Pulses are arranged in sequences if they have no listeners but those that come with pulses and with
membership: start and duration of a pulse refresh its stop, and its stop refreshes the duration of
every sequence that the pulse is in, and of no other. Stops may have other listeners besides, the
guests, which refresh no sequence. A pulse is kept by the user or by a sequence.
-/
namespace LabRegistry

/-- Listeners of some kinds may have come and gone. The others stay in order, and what came has a
number that had never been given out. -/
structure Parameter.Relistened (kinds : Set Listener) (param after : Parameter) : Prop where
  kept : ∀ keep : Listener → Bool, (∀ kind ∈ kinds, keep kind = false) →
    after.listeners.filter (keep ·.2) = param.listeners.filter (keep ·.2)
  next : param.nextListener ≤ after.nextListener
  fresh : ∀ entry ∈ after.listeners, entry ∈ param.listeners ∨ param.nextListener ≤ entry.1.number

namespace Parameter.Relistened

variable {kinds more : Set Listener} {param mid after : Parameter}

theorem of_uncached (same : after.uncached = param.uncached) : param.Relistened kinds after := by
  have listeners : after.listeners = param.listeners := congrArg (·.listeners) same
  have next : after.nextListener = param.nextListener := congrArg (·.nextListener) same
  exact ⟨fun _ _ => by rw [listeners], next.ge, fun _ mem => .inl (listeners ▸ mem)⟩

theorem mono (h : param.Relistened kinds after) (le : kinds ⊆ more) : param.Relistened more after :=
  { h with kept := fun keep spared => h.kept keep fun kind mem => spared kind (le mem) }

theorem trans (h : param.Relistened kinds mid) (h' : mid.Relistened kinds after) :
    param.Relistened kinds after where
  kept keep spared := (h'.kept keep spared).trans (h.kept keep spared)
  next := h.next.trans h'.next
  fresh entry mem := by
    rcases h'.fresh entry mem with old | new
    · exact h.fresh entry old
    · exact .inr (h.next.trans new)

theorem mem_iff (h : param.Relistened kinds after) {entry : ListenerId × Listener}
    (other : entry.2 ∉ kinds) : entry ∈ after.listeners ↔ entry ∈ param.listeners := by
  classical
  have kept := h.kept (decide <| · ∉ kinds) fun kind mem => by simpa using mem
  have mem (entries : List (ListenerId × Listener)) :
      entry ∈ entries ↔ entry ∈ entries.filter (decide <| ·.2 ∉ kinds) := by
    simp [other]
  rw [mem, kept, ← mem]

theorem addListener (param : Parameter) {listener : Listener} (among : listener ∈ kinds) :
    param.Relistened kinds (param.addListener listener) where
  kept keep spared := by simp [Parameter.addListener, spared listener among]
  next := Nat.le_succ _
  fresh entry mem := by
    rcases List.mem_append.mp mem with old | new
    · exact .inl old
    · rw [List.mem_singleton.mp new]
      exact .inr le_rfl

theorem removeListener {id : ListenerId}
    (among : ∀ entry ∈ param.listeners, entry.1 = id → entry.2 ∈ kinds) :
    param.Relistened kinds (param.removeListener id) where
  kept keep spared := by
    rw [Parameter.removeListener, List.filter_filter]
    refine List.filter_congr fun entry mem => ?_
    by_cases same : entry.1 = id
    · simp [spared _ (among entry mem same)]
    · simp [same]
  next := le_rfl
  fresh _ mem := .inl (List.mem_of_mem_filter mem)

end Parameter.Relistened

namespace Registry

/-- The node exists, and its parameters do not log their changes. -/
structure Placed (r : Registry) (n : NodeId) : Prop where
  inside : n.index < r.nodes.size
  quiet : ∀ i < 5, (r.param ⟨r.firstParam n + i⟩).logsChanges = false

/-- The node is held from outside or by a sequence. -/
def Rooted (r : Registry) (n : NodeId) : Prop :=
  n ∈ r.roots ∨ ∃ s : SequenceId, s.index < r.sequences.size ∧ n ∈ r.membersOf s

/-- All sequences have their members among some pulses, each under its name, which is none of a
parameter, and are refreshed by the stops of their members; these stops refresh no other sequences, and
whatever else listens to them is a guest. -/
structure Arranged (r : Registry) (guests : Set Listener) (pulses : Set NodeId) : Prop where
  foreign : ∀ p, .callback (.refreshOwned p) ∉ guests
  pulse : ∀ n ∈ pulses, r.PulseReady n
  placed : ∀ n ∈ pulses, r.Placed n
  rooted : ∀ n ∈ pulses, r.Rooted n
  numbered : ∀ n ∈ pulses, (r.param (r.stopOf n)).Numbered
  sequence : ∀ s : SequenceId, s.index < r.sequences.size → r.SequenceReady s
  owner : ∀ s : SequenceId, s.index < r.sequences.size → r.Placed (r.nodeOf s)
  root : ∀ s : SequenceId, s.index < r.sequences.size → r.nodeOf s ∈ r.roots
  top : ∀ s : SequenceId, s.index < r.sequences.size → (r.node (r.nodeOf s)).parent = none
  member : ∀ s : SequenceId, s.index < r.sequences.size →
    ∀ name n, (name, n) ∈ (r.node (r.nodeOf s)).children.entries →
      n ∈ pulses ∧ (r.node n).name = some name ∧
        ∃ link, (r.sequence s).stopLinks.get? name = some link ∧
          (link, r.refresher s) ∈ (r.param (r.stopOf n)).listeners
  linked : ∀ s : SequenceId, s.index < r.sequences.size → ∀ name link,
    (r.sequence s).stopLinks.get? name = some link →
      name ∈ (r.node (r.nodeOf s)).children.keys
  apart : ∀ s : SequenceId, s.index < r.sequences.size →
    ∀ name ∈ (r.node (r.nodeOf s)).children.keys, name ∉ SequenceId.plans.map (·.name)
  heard : ∀ n ∈ pulses, ∀ entry ∈ (r.param (r.stopOf n)).listeners, entry.2 ∉ guests →
    ∃ s : SequenceId, s.index < r.sequences.size ∧ entry.2 = r.refresher s ∧
      ∃ name, (name, n) ∈ (r.node (r.nodeOf s)).children.entries ∧
        (r.sequence s).stopLinks.get? name = some entry.1

variable {r after : Registry} {n : NodeId} {s t : SequenceId} {guests : Set Listener}
  {pulses : Set NodeId} {touched : Set SequenceId} {stops : Set ParamId}

private theorem Rooted.alive (h : r.Rooted n)
    (root : ∀ s : SequenceId, s.index < r.sequences.size → r.nodeOf s ∈ r.roots) :
    r.isAlive n = true := by
  rcases h with kept | ⟨s, hs, mem⟩
  · exact isAlive_iff.mpr ⟨n, kept, .refl⟩
  · exact isAlive_iff.mpr ⟨_, root s hs, .single (List.mem_append_left _ mem)⟩

private theorem Placed.speaks (h : r.Placed n) {i : Nat} (hi : i < 5) :
    r.Speaks ⟨r.firstParam n + i⟩ :=
  .inl (h.quiet i hi)

namespace Arranged

variable (h : r.Arranged guests pulses)

include h

theorem working : r.Working pulses where
  pulse := h.pulse
  sequence := h.sequence
  member s hs n mem := by
    obtain ⟨⟨name, _⟩, entry, rfl⟩ := List.mem_map.mp mem
    obtain ⟨hn, -, link, -, told⟩ := h.member s hs name _ entry
    exact ⟨hn, _, told, rfl⟩

omit h in
theorem onlyRefreshes (h : r.Arranged ∅ pulses) (hn : n ∈ pulses) : r.OnlyRefreshes n := by
  intro entry mem
  obtain ⟨s, hs, told, -⟩ := h.heard n hn entry mem (Set.notMem_empty _)
  exact ⟨s, hs, told⟩

theorem refresher_notMem (s : SequenceId) : r.refresher s ∉ guests := h.foreign _

theorem mem_hearers_iff (hn : n ∈ pulses) (hs : s.index < r.sequences.size) :
    s ∈ r.hearers n ↔ n ∈ r.membersOf s := by
  refine ⟨?_, fun mem => (h.working.member s hs n mem).2⟩
  rintro ⟨entry, mem, told⟩
  obtain ⟨t, ht, told', name, among, -⟩ :=
    h.heard n hn entry mem (told ▸ h.refresher_notMem s)
  rw [(h.sequence s hs).refresher_inj (h.sequence t ht) (told.symm.trans told')]
  exact List.mem_map.mpr ⟨_, among, rfl⟩

theorem mem_of_member (hs : s.index < r.sequences.size) (mem : n ∈ r.membersOf s) : n ∈ pulses :=
  h.working.mem_of_member hs mem

theorem ne_nodeOf (hn : n ∈ pulses) (hs : s.index < r.sequences.size) : n ≠ r.nodeOf s :=
  (h.sequence s hs).ne_nodeOf (h.pulse n hn)

theorem nodeOf_inj (hs : s.index < r.sequences.size) (ht : t.index < r.sequences.size)
    (same : r.nodeOf s = r.nodeOf t) : s = t :=
  (h.sequence s hs).nodeOf_inj (h.sequence t ht) same

theorem mono {fewer : Set NodeId} (le : fewer ⊆ pulses)
    (member : ∀ s : SequenceId, s.index < r.sequences.size → ∀ m ∈ r.membersOf s, m ∈ fewer) :
    r.Arranged guests fewer :=
  { h with
    pulse := fun m hm => h.pulse m (le hm)
    placed := fun m hm => h.placed m (le hm)
    rooted := fun m hm => h.rooted m (le hm)
    numbered := fun m hm => h.numbered m (le hm)
    member := fun s hs name m mem => by
      obtain ⟨-, named, told⟩ := h.member s hs name m mem
      exact ⟨member s hs m (List.mem_map.mpr ⟨_, mem, rfl⟩), named, told⟩
    heard := fun m hm => h.heard m (le hm) }

end Arranged

/-! ## What other changes keep -/

/-- Whatever there is is wired as before, except that some sequences may have other members and
some parameters other listeners. -/
structure Preserves (r : Registry) (touched : Set SequenceId) (stops : Set ParamId)
    (after : Registry) : Prop where
  nodes : r.nodes.size ≤ after.nodes.size
  node : ∀ n : NodeId, n.index < r.nodes.size → (∀ s ∈ touched, n ≠ r.nodeOf s) →
    (after.node n).orphan = (r.node n).orphan
  params : r.params.size ≤ after.params.size
  setup : ∀ p : ParamId, p.index < r.params.size → (after.param p).setup = (r.param p).setup
  param : ∀ p : ParamId, p.index < r.params.size → p ∉ stops →
    (after.param p).uncached = (r.param p).uncached
  sequences : r.sequences.size ≤ after.sequences.size
  owner : ∀ s : SequenceId, s.index < r.sequences.size → after.nodeOf s = r.nodeOf s
  owned : ∀ s : SequenceId, s.index < r.sequences.size → after.node (r.nodeOf s) =
    { r.node (r.nodeOf s) with children := (after.node (r.nodeOf s)).children }
  links : ∀ s : SequenceId, s.index < r.sequences.size → s ∉ touched →
    (after.sequence s).stopLinks = (r.sequence s).stopLinks

namespace Preserves

variable (h : r.Preserves touched stops after)

include h

theorem mono {touched' : Set SequenceId} (le : touched ⊆ touched') :
    r.Preserves touched' stops after :=
  { h with
    node := fun n inside free => h.node n inside fun s hs => free s (le hs)
    links := fun s inside free => h.links s inside fun hs => free (le hs) }

theorem parameters (inside : n.index < r.nodes.size) (free : ∀ s ∈ touched, n ≠ r.nodeOf s) :
    (after.node n).parameters = (r.node n).parameters :=
  congrArg (·.parameters) (h.node n inside free)

private theorem parameters_nodeOf (inside : s.index < r.sequences.size) :
    (after.node (r.nodeOf s)).parameters = (r.node (r.nodeOf s)).parameters := by
  rw [h.owned s inside]

private theorem listeners {p : ParamId} (inside : p.index < r.params.size) (free : p ∉ stops) :
    (after.param p).listeners = (r.param p).listeners :=
  congrArg (·.listeners) (h.param p inside free)

private theorem numbered {p : ParamId} (inside : p.index < r.params.size) (free : p ∉ stops)
    (numbered : (r.param p).Numbered) : (after.param p).Numbered :=
  numbered.of_same (h.listeners inside free) (congrArg (·.nextListener) (h.param p inside free))

private theorem placed {plan : ParameterPlan} {plans : List ParameterPlan} (placed : r.Placed n)
    (parameters : (after.node n).parameters = (r.node n).parameters)
    (fitted : r.Fitted n (r.firstParam n) (plan :: plans)) (five : plans.length = 4) :
    after.Placed n where
  inside := placed.inside.trans_le h.nodes
  quiet i hi := by
    have inside : r.firstParam n + i < r.params.size :=
      (Nat.add_lt_add_left (show i < plans.length + 1 by omega) _).trans_le fitted.inside
    rw [firstParam_of_node parameters]
    exact (congrArg (·.logsChanges) (h.setup ⟨_⟩ inside)).trans (placed.quiet i hi)

private theorem pulseReady (ready : r.PulseReady n) (placed : r.Placed n)
    (free : ∀ s ∈ touched, n ≠ r.nodeOf s)
    (feeds : ∀ i < 5, i ≠ 3 → ⟨r.firstParam n + i⟩ ∉ stops) (alive : after.isAlive n = true) :
    after.PulseReady n ∧ after.Placed n := by
  have parameters := h.parameters placed.inside free
  have first := firstParam_of_node parameters
  have placed' := h.placed placed parameters ready.fitted rfl
  refine ⟨⟨?_, fun i hi ne => ?_⟩, placed'⟩
  · rw [first]
    have node : (after.node n).unplaced = (r.node n).unplaced :=
      congrArg (fun node : Node => { node with name := none }) (h.node n placed.inside free)
    exact ready.of_old node h.params (fun p hp => congrArg Parameter.muted (h.setup p hp))
      (fun i hi => first ▸ placed'.speaks hi) alive
  · rw [first, h.listeners (ready.param_inside hi) (feeds i hi ne)]
    exact ready.feeds i hi ne

theorem durationOf (inside : s.index < r.sequences.size) :
    after.durationOf s = r.durationOf s :=
  durationOf_of_node (h.owner s inside) (h.parameters_nodeOf inside)

private theorem refresher (inside : s.index < r.sequences.size) :
    after.refresher s = r.refresher s := by
  rw [Registry.refresher, h.durationOf inside, Registry.refresher]

private theorem sequenceReady (ready : r.SequenceReady s) (placed : r.Placed (r.nodeOf s))
    (inside : s.index < r.sequences.size)
    (silent : ∀ i < 5, ⟨r.firstParam (r.nodeOf s) + i⟩ ∉ stops)
    (root : r.nodeOf s ∈ after.roots) :
    after.SequenceReady s ∧ after.Placed (after.nodeOf s) := by
  have owner := h.owner s inside
  have parameters := h.parameters_nodeOf inside
  have first := firstParam_of_node parameters
  have placed' := h.placed placed parameters ready.fitted rfl
  rw [owner]
  refine ⟨⟨?_, ?_, ?_, ?_, fun name timed => ?_, fun i hi => ?_⟩, placed'⟩
  · rw [owner]
    exact isAlive_iff.mpr ⟨_, root, .refl⟩
  · rw [owner, h.owned s inside, ← ready.config]
  · rw [owner, first]
    exact ready.fitted.of_old parameters h.params
      (fun p hp => congrArg Parameter.muted (h.setup p hp)) fun i hi => first ▸ placed'.speaks hi
  · rw [owner, h.owned s inside, ← ready.delegates]
    rfl
  · rw [owner, h.owned s inside, ← ready.lists name timed]
    rfl
  · have inside : r.firstParam (r.nodeOf s) + i < r.params.size :=
      (Nat.add_lt_add_left hi _).trans_le ready.fitted.inside
    rw [owner, first, h.listeners inside (silent i hi), ready.silent i hi]

end Preserves

/-- The pulses and the nodes of the sequences are held. -/
structure Retains (r : Registry) (pulses : Set NodeId) (after : Registry) : Prop where
  pulse : ∀ n ∈ pulses, after.Rooted n
  node : ∀ s : SequenceId, s.index < r.sequences.size → r.nodeOf s ∈ after.roots

/-- A sequence that came is ready, has no members and is held. -/
structure Fresh (r : Registry) (s : SequenceId) : Prop where
  ready : r.SequenceReady s
  placed : r.Placed (r.nodeOf s)
  root : r.nodeOf s ∈ r.roots
  top : (r.node (r.nodeOf s)).parent = none
  empty : (r.node (r.nodeOf s)).children.entries = []
  unlinked : (r.sequence s).stopLinks.entries = []

namespace Arranged

variable (h : r.Arranged guests pulses)

include h

/-- What is arranged stays so if sequences that may have other members have them among the pulses,
and if stops that may have other listeners refresh the sequences that their pulses are in. -/
theorem of_preserves (same : r.Preserves touched stops after)
    (kept : r.Retains pulses after)
    (numbered : ∀ p ∈ stops, (after.param p).Numbered)
    (areStops : ∀ p ∈ stops, ∃ n ∈ pulses, p = r.stopOf n)
    (inside : ∀ s ∈ touched, s.index < r.sequences.size)
    (fresh : ∀ s : SequenceId, r.sequences.size ≤ s.index → s.index < after.sequences.size →
      after.Fresh s)
    (member : ∀ s : SequenceId, s.index < r.sequences.size → ∀ name n,
      (name, n) ∈ (after.node (r.nodeOf s)).children.entries →
        n ∈ pulses ∧ (r.node n).name = some name ∧
          ∃ link, (after.sequence s).stopLinks.get? name = some link ∧
            (link, r.refresher s) ∈ (after.param (r.stopOf n)).listeners)
    (linked : ∀ s : SequenceId, s.index < r.sequences.size → ∀ name link,
      (after.sequence s).stopLinks.get? name = some link →
        name ∈ (after.node (r.nodeOf s)).children.keys)
    (apart : ∀ s : SequenceId, s.index < r.sequences.size →
      ∀ name ∈ (after.node (r.nodeOf s)).children.keys, name ∉ SequenceId.plans.map (·.name))
    (heard : ∀ n ∈ pulses, ∀ entry ∈ (after.param (r.stopOf n)).listeners, entry.2 ∉ guests →
      ∃ s : SequenceId, s.index < r.sequences.size ∧ entry.2 = r.refresher s ∧
        ∃ name, (name, n) ∈ (after.node (r.nodeOf s)).children.entries ∧
          (after.sequence s).stopLinks.get? name = some entry.1) :
    after.Arranged guests pulses := by
  have free {n : NodeId} (hn : n ∈ pulses) : ∀ s ∈ touched, n ≠ r.nodeOf s :=
    fun s hs => h.ne_nodeOf hn (inside s hs)
  have stopOf {n : NodeId} (hn : n ∈ pulses) : after.stopOf n = r.stopOf n :=
    stopOf_of_node (same.parameters (h.placed n hn).inside (free hn))
  have root (s : SequenceId) (hs : s.index < after.sequences.size) :
      after.nodeOf s ∈ after.roots := by
    by_cases old : s.index < r.sequences.size
    · rw [same.owner s old]
      exact kept.node s old
    · exact (fresh s (not_lt.mp old) hs).root
  have pulse (n : NodeId) (hn : n ∈ pulses) : after.PulseReady n ∧ after.Placed n := by
    refine same.pulseReady (h.pulse n hn) (h.placed n hn) (free hn) (fun i hi ne mem => ?_)
      ((kept.pulse n hn).alive root)
    obtain ⟨m, hm, equal⟩ := areStops _ mem
    exact (h.pulse n hn).param_ne_of (h.pulse m hm) ne hi (j := 3) (by decide) equal
  have sequence (s : SequenceId) (hs : s.index < after.sequences.size) :
      after.SequenceReady s ∧ after.Placed (after.nodeOf s) := by
    by_cases old : s.index < r.sequences.size
    · refine same.sequenceReady (h.sequence s old) (h.owner s old) old (fun i hi mem => ?_)
        (kept.node s old)
      obtain ⟨m, hm, equal⟩ := areStops _ mem
      exact (h.sequence s old).ne_param (h.pulse m hm) (i := 3) (by decide) hi equal.symm
    · exact ⟨(fresh s (not_lt.mp old) hs).ready, (fresh s (not_lt.mp old) hs).placed⟩
  exact {
    foreign := h.foreign
    pulse := fun n hn => (pulse n hn).1
    placed := fun n hn => (pulse n hn).2
    rooted := kept.pulse
    numbered := fun n hn => by
      rw [stopOf hn]
      by_cases mem : r.stopOf n ∈ stops
      · exact numbered _ mem
      · exact same.numbered (h.pulse n hn).stop_inside mem (h.numbered n hn)
    sequence := fun s hs => (sequence s hs).1
    owner := fun s hs => (sequence s hs).2
    root := root
    top := fun s hs => by
      by_cases old : s.index < r.sequences.size
      · rw [same.owner s old, same.owned s old]
        exact h.top s old
      · exact (fresh s (not_lt.mp old) hs).top
    member := fun s hs name n mem => by
      by_cases old : s.index < r.sequences.size
      · rw [same.owner s old] at mem
        obtain ⟨hn, named, link, found, told⟩ := member s old name n mem
        have name : (after.node n).name = (r.node n).name :=
          congrArg (·.name) (same.node n (h.placed n hn).inside (free hn))
        rw [name, same.refresher old, stopOf hn]
        exact ⟨hn, named, link, found, told⟩
      · rw [(fresh s (not_lt.mp old) hs).empty] at mem
        cases mem
    linked := fun s hs name link found => by
      by_cases old : s.index < r.sequences.size
      · rw [same.owner s old]
        exact linked s old name link found
      · rw [OrderedMap.get?, (fresh s (not_lt.mp old) hs).unlinked] at found
        cases found
    apart := fun s hs name mem => by
      by_cases old : s.index < r.sequences.size
      · rw [same.owner s old] at mem
        exact apart s old name mem
      · rw [OrderedMap.keys, (fresh s (not_lt.mp old) hs).empty] at mem
        cases mem
    heard := fun n hn entry mem native => by
      rw [stopOf hn] at mem
      obtain ⟨s, hs, told, name, among, link⟩ := heard n hn entry mem native
      refine ⟨s, hs.trans_le same.sequences, told.trans (same.refresher hs).symm, name, ?_, link⟩
      rw [same.owner s hs]
      exact among }

theorem preserved (same : r.Preserves ∅ ∅ after) (kept : r.Retains pulses after)
    (fresh : ∀ s : SequenceId, r.sequences.size ≤ s.index → s.index < after.sequences.size →
      after.Fresh s) : after.Arranged guests pulses := by
  have listeners {n : NodeId} (hn : n ∈ pulses) :
      (after.param (r.stopOf n)).listeners = (r.param (r.stopOf n)).listeners :=
    same.listeners (h.pulse n hn).stop_inside (Set.notMem_empty _)
  have children {s : SequenceId} (hs : s.index < r.sequences.size) :
      (after.node (r.nodeOf s)).children = (r.node (r.nodeOf s)).children :=
    congrArg (·.children) (same.node _ (h.owner s hs).inside nofun)
  refine h.of_preserves same kept nofun nofun nofun fresh (fun s hs name n mem => ?_)
    (fun s hs name link found => ?_) (fun s hs name mem => ?_) fun n hn entry mem native => ?_
  · rw [children hs] at mem
    obtain ⟨hn, named, told⟩ := h.member s hs name n mem
    rw [listeners hn, same.links s hs (Set.notMem_empty _)]
    exact ⟨hn, named, told⟩
  · rw [same.links s hs (Set.notMem_empty _)] at found
    rw [children hs]
    exact h.linked s hs name link found
  · rw [children hs] at mem
    exact h.apart s hs name mem
  · rw [listeners hn] at mem
    obtain ⟨s, hs, told, name, among, link⟩ := h.heard n hn entry mem native
    exact ⟨s, hs, told, name, by rwa [children hs], by rwa [same.links s hs (Set.notMem_empty _)]⟩

theorem retains (roots : ∀ n ∈ r.roots, n ∈ after.roots)
    (sequences : r.sequences.size ≤ after.sequences.size)
    (members : ∀ s : SequenceId, s.index < r.sequences.size →
      ∀ n ∈ r.membersOf s, n ∈ after.roots ∨ n ∈ after.membersOf s) : r.Retains pulses after where
  pulse n hn := by
    rcases h.rooted n hn with kept | ⟨s, hs, mem⟩
    · exact .inl (roots n kept)
    · rcases members s hs n mem with kept | mem
      · exact .inl kept
      · exact .inr ⟨s, hs.trans_le sequences, mem⟩
  node s hs := roots _ (h.root s hs)

end Arranged

private theorem SameWiring.preserves (h : r.SameWiring after) : r.Preserves ∅ ∅ after where
  nodes := by rw [h.nodes.nodes]
  node n _ _ := by rw [h.nodes.node]
  params := h.size.ge
  setup := fun p _ => h.setups.setup p
  param p _ _ := h.params p
  sequences := by rw [h.sequences]
  owner s _ := h.nodeOf s
  owned s _ := by rw [h.nodes.node]
  links s _ _ := by rw [h.sequence]

theorem Arranged.of_wiring (h : r.Arranged guests pulses) (same : r.SameWiring after) :
    after.Arranged guests pulses := by
  have kept : r.Retains pulses after := h.retains (fun n kept => same.nodes.roots ▸ kept)
    (by rw [same.sequences]) fun s _ n mem => .inr (by rwa [same.membersOf])
  refine h.preserved same.preserves kept ?_
  intro s outside inside
  rw [same.sequences] at inside
  omega

end Registry
end LabRegistry

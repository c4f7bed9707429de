import LabRegistry.Proofs.Pulse.Consistent
import LabRegistry.Proofs.Sequence.Operations

/-!
# Making pulses and sequences

What is made leaves whatever there is as it is. A new sequence has no pulses and no fixed duration,
and a new pulse is in no sequence, so the values that it is made with reach no duration.
-/
namespace LabRegistry

open Registry

variable {r base mid after : Registry} {s : SequenceId} {n : NodeId} {pulses : Set NodeId}
  {guests : Set Listener} {touched : Set SequenceId} {written : Set ParamId}

namespace Registry

/-! ## What there was -/

/-- Whatever there was is as it was. -/
structure Extends (r after : Registry) : Prop where
  nodes : r.nodes.size ≤ after.nodes.size
  node : ∀ n : NodeId, n.index < r.nodes.size → after.node n = r.node n
  params : r.params.size ≤ after.params.size
  param : ∀ p : ParamId, p.index < r.params.size → after.param p = r.param p
  sequences : r.sequences.size ≤ after.sequences.size
  sequence : ∀ s : SequenceId, s.index < r.sequences.size → after.sequence s = r.sequence s

private theorem Extends.equip (h : r.Extends base) (new : r.nodes.size ≤ n.index)
    (size : after.nodes.size = base.nodes.size) (others : ∀ m, m ≠ n → after.node m = base.node m)
    (params : base.params.size ≤ after.params.size)
    (old : ∀ p : ParamId, p.index < base.params.size → after.param p = base.param p)
    (sequences : after.sequences = base.sequences) : r.Extends after where
  nodes := size ▸ h.nodes
  node m hm := by
    have other : m ≠ n := by
      rintro rfl
      omega
    rw [others m other, h.node m hm]
  params := h.params.trans params
  param p hp := by rw [old p (hp.trans_le h.params), h.param p hp]
  sequences := sequences ▸ h.sequences
  sequence s hs := (congrArg (·.get s.index) sequences).trans (h.sequence s hs)

theorem Extends.of_push (node : Node) : r.Extends { r with nodes := r.nodes.push node } where
  nodes := by simp
  node _ hn := Arena.get_push_of_lt hn _
  params := le_rfl
  param _ _ := rfl
  sequences := le_rfl
  sequence _ _ := rfl

theorem Equipped.extendsPulse {name : Option String}
    (h : Equipped { r with nodes := r.nodes.push { name, config := Pulse.config } } after
      ⟨r.nodes.size⟩) : r.Extends after :=
  (Extends.of_push _).equip (n := ⟨r.nodes.size⟩) le_rfl h.size h.others
    (h.params ▸ Nat.le_add_right _ _) h.old h.sequences

theorem Fitting.extendsSequence {name : Option String}
    (h : (r.withSequence name).Fitting after ⟨r.nodes.size⟩ SequenceId.plans) : r.Extends after := by
  have pushed : r.Extends (r.withSequence name) := {
    nodes := by simp [withSequence]
    node := fun _ hn => Arena.get_push_of_lt hn _
    params := le_rfl
    param := fun _ _ => rfl
    sequences := by simp [withSequence]
    sequence := fun _ hs => Arena.get_push_of_lt hs _ }
  exact pushed.equip le_rfl h.size h.others (h.params ▸ Nat.le_add_right _ _) h.old h.sequences

theorem Extends.held (h : r.Extends after) (inUse : List NodeId) (bench : Workbench) :
    r.Extends { after with inUse, bench } :=
  ⟨h.nodes, h.node, h.params, h.param, h.sequences, h.sequence⟩

private theorem Arranged.preserves (h : r.Arranged guests pulses) (extended : r.Extends after) :
    r.Preserves ∅ ∅ after where
  nodes := extended.nodes
  node n hn _ := by rw [extended.node n hn]
  params := extended.params
  setup p hp := by rw [extended.param p hp]
  param p hp _ := by rw [extended.param p hp]
  sequences := extended.sequences
  owner s hs := by rw [nodeOf, extended.sequence s hs, nodeOf]
  owned s hs := by rw [extended.node _ (h.owner s hs).inside]
  links s hs _ := by rw [extended.sequence s hs]

/-- Sequences that are not touched stay as they are, the durations of new ones are free, only some
caches were written, and no listener came or went but those that refresh the touched sequences. -/
structure Carries (r : Registry) (touched : Set SequenceId) (written : Set ParamId)
    (after : Registry) : Prop where
  nodes : r.nodes.size ≤ after.nodes.size
  parameters : ∀ n : NodeId, n.index < r.nodes.size →
    (after.node n).parameters = (r.node n).parameters
  size : r.sequences.size ≤ after.sequences.size
  owner : ∀ t : SequenceId, t.index < r.sequences.size → after.nodeOf t = r.nodeOf t
  children : ∀ t : SequenceId, t.index < r.sequences.size → t ∉ touched →
    (after.node (r.nodeOf t)).children = (r.node (r.nodeOf t)).children
  fixed : ∀ t : SequenceId, t.index < r.sequences.size → t ∉ touched →
    (after.sequence t).fixedDuration = (r.sequence t).fixedDuration
  free : ∀ t : SequenceId, r.sequences.size ≤ t.index → t.index < after.sequences.size →
    (after.sequence t).fixedDuration = none
  params : r.params.size ≤ after.params.size
  others : ∀ p ∉ written, p.index < r.params.size → (after.param p).value = (r.param p).value
  listeners : ∀ p : ParamId, p.index < r.params.size →
    (r.param p).Relistened (r.refreshers touched) (after.param p)
  timed : ∀ t : SequenceId, t.index < r.sequences.size → t ∉ touched → r.Timed t → after.Timed t

theorem Spares.carries (h : r.Spares guests pulses touched written after) :
    r.Carries touched written after where
  nodes := h.nodes.ge
  parameters n _ := h.parameters n
  size := h.size.ge
  owner t _ := h.owner t
  children := h.children
  fixed := h.fixed
  free t outside inside := by
    rw [h.size] at inside
    omega
  params := h.params.ge
  others p free _ := h.others p free
  listeners p _ := h.listeners p
  timed := h.timed

namespace Carries

theorem trans (h : r.Carries touched written mid) (h' : mid.Carries ∅ written after) :
    r.Carries touched written after where
  nodes := h.nodes.trans h'.nodes
  parameters n hn := (h'.parameters n (hn.trans_le h.nodes)).trans (h.parameters n hn)
  size := h.size.trans h'.size
  owner t ht := (h'.owner t (ht.trans_le h.size)).trans (h.owner t ht)
  children t ht free := by
    have later := h'.children t (ht.trans_le h.size) (Set.notMem_empty _)
    rw [h.owner t ht] at later
    exact later.trans (h.children t ht free)
  fixed t ht free := (h'.fixed t (ht.trans_le h.size) (Set.notMem_empty _)).trans (h.fixed t ht free)
  free t outside inside := by
    by_cases old : t.index < mid.sequences.size
    · exact (h'.fixed t old (Set.notMem_empty _)).trans (h.free t outside old)
    · exact h'.free t (not_lt.mp old) inside
  params := h.params.trans h'.params
  others p free inside := (h'.others p free (inside.trans_le h.params)).trans (h.others p free inside)
  listeners p inside := (h.listeners p inside).trans <|
    (h'.listeners p (inside.trans_le h.params)).mono fun _ ⟨_, absent, _⟩ => absent.elim
  timed t ht free timed :=
    h'.timed t (ht.trans_le h.size) (Set.notMem_empty _) (h.timed t ht free timed)

theorem of_new (h : r.Carries touched written after)
    (new : ∀ p ∈ written, r.params.size ≤ p.index) : r.Carries touched ∅ after :=
  { h with others := fun p _ inside => h.others p (fun mem => not_lt.mpr (new p mem) inside) inside }

theorem before (h : r.Carries ∅ ∅ mid) (h' : mid.Carries touched written after)
    (inside : ∀ t ∈ touched, t.index < r.sequences.size ∧ (r.nodeOf t).index < r.nodes.size) :
    r.Carries touched written after where
  nodes := h.nodes.trans h'.nodes
  parameters n hn := (h'.parameters n (hn.trans_le h.nodes)).trans (h.parameters n hn)
  size := h.size.trans h'.size
  owner t ht := (h'.owner t (ht.trans_le h.size)).trans (h.owner t ht)
  children t ht free := by
    have later := h'.children t (ht.trans_le h.size) free
    rw [h.owner t ht] at later
    exact later.trans (h.children t ht (Set.notMem_empty _))
  fixed t ht free := (h'.fixed t (ht.trans_le h.size) free).trans (h.fixed t ht (Set.notMem_empty _))
  free t outside within := by
    by_cases old : t.index < mid.sequences.size
    · have free : t ∉ touched := fun mem => not_lt.mpr outside (inside t mem).1
      exact (h'.fixed t old free).trans (h.free t outside old)
    · exact h'.free t (not_lt.mp old) within
  params := h.params.trans h'.params
  others p free within := (h'.others p free (within.trans_le h.params)).trans
    (h.others p (Set.notMem_empty _) within)
  listeners p within := by
    refine ((h.listeners p within).mono fun _ ⟨_, absent, _⟩ => absent.elim).trans <|
      (h'.listeners p (within.trans_le h.params)).mono ?_
    rintro _ ⟨t, mem, rfl⟩
    obtain ⟨old, placed⟩ := inside t mem
    refine ⟨t, mem, ?_⟩
    rw [refresher, durationOf_of_node (h.owner t old) (h.parameters _ placed), refresher]
  timed t ht free timed :=
    h'.timed t (ht.trans_le h.size) free (h.timed t ht (Set.notMem_empty _) timed)

theorem membersOf (h : r.Carries touched written after) (ht : s.index < r.sequences.size)
    (free : s ∉ touched) : after.membersOf s = r.membersOf s := by
  rw [Registry.membersOf, h.owner s ht, h.children s ht free, Registry.membersOf]

end Carries

theorem fixedDuration_of_size_le (outside : r.sequences.size ≤ s.index) :
    (r.sequence s).fixedDuration = none := by
  have out : ¬ s.index < r.sequences.cells.size := not_lt.mpr outside
  simp [sequence, Arena.get, Array.getD, out, default, instInhabitedSequence.default]

theorem arranged_of_none (none : r.sequences.size = 0)
    (foreign : ∀ p, .callback (.refreshOwned p) ∉ guests) : r.Arranged guests ∅ ∧ r.Settled ∅ := by
  have outside (s : SequenceId) : ¬ s.index < r.sequences.size := by
    rw [none]
    exact Nat.not_lt_zero _
  refine ⟨?_, nofun, fun s duration fixed => ?_⟩
  · exact {
      foreign := foreign
      pulse := nofun
      placed := nofun
      rooted := nofun
      numbered := nofun
      sequence := fun s hs => absurd hs (outside s)
      owner := fun s hs => absurd hs (outside s)
      root := fun s hs => absurd hs (outside s)
      top := fun s hs => absurd hs (outside s)
      member := fun s hs => absurd hs (outside s)
      linked := fun s hs => absurd hs (outside s)
      apart := fun s hs => absurd hs (outside s)
      heard := nofun }
  · rw [fixedDuration_of_size_le (not_lt.mp (outside s))] at fixed
    cases fixed

private theorem Arranged.extended (h : r.Arranged guests pulses) (settled : r.Settled pulses)
    (extended : r.Extends after) (kept : r.Retains pulses after)
    (fresh : ∀ t : SequenceId, r.sequences.size ≤ t.index → t.index < after.sequences.size →
      after.Fresh t ∧ (after.sequence t).fixedDuration = none) :
    after.Arranged guests pulses ∧ after.Settled pulses ∧ r.Carries ∅ ∅ after := by
  have same := h.preserves extended
  have h' := h.preserved same kept fun t outside inside => (fresh t outside inside).1
  have values (p : ParamId) (hp : p.index < r.params.size) :
      (after.param p).value = (r.param p).value := by
    rw [extended.param p hp]
  have fixed (t : SequenceId) (ht : t.index < r.sequences.size) :
      (after.sequence t).fixedDuration = (r.sequence t).fixedDuration := by
    rw [extended.sequence t ht]
  refine ⟨h', ⟨fun n hn => same.stopCurrent h nofun values hn (settled.stop n hn),
    fun t duration isFixed => ?_⟩, ?_⟩
  · by_cases old : t.index < r.sequences.size
    · exact settled.fixed t duration (fixed t old ▸ isFixed)
    · by_cases inside : t.index < after.sequences.size
      · rw [(fresh t (not_lt.mp old) inside).2] at isFixed
        cases isFixed
      · rw [fixedDuration_of_size_le (not_lt.mp inside)] at isFixed
        cases isFixed
  · exact {
      nodes := extended.nodes
      parameters := fun n hn => by rw [extended.node n hn]
      size := extended.sequences
      owner := fun t ht => by rw [nodeOf, extended.sequence t ht, nodeOf]
      children := fun t ht _ => by rw [extended.node _ (h.owner t ht).inside]
      fixed := fun t ht _ => fixed t ht
      free := fun t outside inside => (fresh t outside inside).2
      params := extended.params
      others := fun p _ hp => values p hp
      listeners := fun p hp => .of_uncached (by rw [extended.param p hp])
      timed := fun t ht free timed => same.timed h nofun values h' ht free (fixed t ht) timed }

/-! ## New sequences -/

private theorem Fitting.freshSequence {name : Option String} {inUse : List NodeId}
    {bench : Workbench}
    (h : (r.withSequence name).Fitting base ⟨r.nodes.size⟩ SequenceId.plans)
    (delegates : (base.node ⟨r.nodes.size⟩).delegatesFor "duration" =
      ⟨some (.sequenceDuration ⟨r.sequences.size⟩), some (.fixDuration ⟨r.sequences.size⟩)⟩)
    (lists : ∀ name ∈ ["t_start", "t_stop"], ((base.node ⟨r.nodes.size⟩).delegatesFor
      (name ++ "_list")).getter = some (.pulseTimes name))
    (root : (⟨r.nodes.size⟩ : NodeId) ∈ roots { base with inUse, bench }) :
    Fresh { base with inUse, bench } ⟨r.sequences.size⟩ ∧
      (base.sequence ⟨r.sequences.size⟩).fixedDuration = none ∧
      base.nodeOf ⟨r.sequences.size⟩ = ⟨r.nodes.size⟩ := by
  let after : Registry := { base with inUse, bench }
  have record : after.sequence ⟨r.sequences.size⟩ = { node := ⟨r.nodes.size⟩ } :=
    (congrArg (·.get r.sequences.size) h.sequences).trans (Arena.get_push_size _ _)
  have owner : after.nodeOf ⟨r.sequences.size⟩ = ⟨r.nodes.size⟩ := by
    rw [nodeOf, record]
  have node : (r.withSequence name).node ⟨r.nodes.size⟩ = { name, config := SequenceId.config } :=
    Arena.get_push_size _ _
  have same : after.node ⟨r.nodes.size⟩ = base.node ⟨r.nodes.size⟩ := rfl
  have plain := h.fitted (by simp [SequenceId.plans, ParameterPlan.delegated])
  have uncached {i : Nat} (hi : i < SequenceId.plans.length) :=
    (h.fresh i _ (List.getElem?_eq_getElem hi)).uncached
  have quiet (i : Nat) (hi : i < SequenceId.plans.length) :
      (after.param ⟨r.params.size + i⟩).logsChanges = false := by
    have planned : ∀ plan ∈ SequenceId.plans, plan.logsChanges = false := by
      simp [SequenceId.plans, ParameterPlan.delegated]
    exact (congrArg (·.logsChanges) (uncached hi)).trans (planned _ (List.getElem_mem hi))
  have fitted : after.Fitted ⟨r.nodes.size⟩ r.params.size SequenceId.plans :=
    ⟨plain.entries, plain.inside, plain.setup, fun i hi => .inl (quiet i hi)⟩
  have first : after.firstParam ⟨r.nodes.size⟩ = r.params.size := fitted.firstParam
  have silent (i : Nat) (hi : i < 5) : (after.param ⟨r.params.size + i⟩).listeners = [] :=
    congrArg (·.listeners) (uncached hi)
  refine ⟨?_, by change (after.sequence _).fixedDuration = none; rw [record], owner⟩
  constructor
  · constructor
    · rw [owner]
      exact isAlive_iff.mpr ⟨_, root, .refl⟩
    · rw [owner, same, h.node, node]
    · rw [owner, first]
      exact fitted
    · rw [owner]
      exact delegates
    · rw [owner]
      exact lists
    · rw [owner, first]
      exact silent
  · constructor
    · rw [owner]
      change r.nodes.size < base.nodes.size
      rw [h.size]
      simp [withSequence]
    · rw [owner, first]
      exact quiet
  · rw [owner]
    exact root
  · rw [owner, same, h.node, node]
  · rw [owner, same, h.node, node]
    rfl
  · change (after.sequence _).stopLinks.entries = []
    rw [record]
    rfl

theorem Arranged.createSequence (h : r.Arranged guests pulses) (settled : r.Settled pulses)
    (name : Option String) : ∃ made, SequenceId.create name r = (.ok ⟨r.sequences.size⟩, made) ∧
      (r.withSequence name).Fitting made ⟨r.nodes.size⟩ SequenceId.plans ∧
      made.nodeOf ⟨r.sequences.size⟩ = ⟨r.nodes.size⟩ ∧ r.Extends made ∧
      ∀ inUse bench, r.Retains pulses { made with inUse, bench } →
        ⟨r.nodes.size⟩ ∈ roots { made with inUse, bench } →
          Arranged { made with inUse, bench } guests pulses ∧ Settled { made with inUse, bench } pulses ∧
            r.Carries ∅ ∅ { made with inUse, bench } ∧
            Fresh { made with inUse, bench } ⟨r.sequences.size⟩ := by
  obtain ⟨made, run, fitting, delegates, lists⟩ := SequenceId.create_run name r
  have extended : r.Extends made := fitting.extendsSequence
  have size : made.sequences.size = r.sequences.size + 1 := by
    rw [fitting.sequences, withSequence, Arena.size_push]
  have record : made.sequence ⟨r.sequences.size⟩ = { node := ⟨r.nodes.size⟩ } :=
    (congrArg (·.get r.sequences.size) fitting.sequences).trans (Arena.get_push_size _ _)
  refine ⟨made, run, fitting, by rw [nodeOf, record], extended, fun inUse bench kept root => ?_⟩
  obtain ⟨fresh, free, -⟩ := fitting.freshSequence delegates lists root
  obtain ⟨arranged, settled', carries⟩ := h.extended settled (extended.held inUse bench) kept
    fun t outside inside => by
      have last : t = ⟨r.sequences.size⟩ := by
        change t.index < made.sequences.size at inside
        rw [SequenceId.mk.injEq]
        omega
      rw [last]
      exact ⟨fresh, free⟩
  exact ⟨arranged, settled', carries, fresh⟩

/-! ## New pulses -/

theorem Equipped.pulseReady (h : base.Equipped r n) (config : (base.node n).config = Pulse.config)
    (leaf : base.held n = []) (alive : r.isAlive n = true) :
    r.PulseReady n ∧ r.StopCurrent n ∧ r.firstParam n = base.params.size := by
  have first := h.fitted.firstParam
  refine ⟨⟨first ▸ h.pulseWired config leaf alive, fun i hi _ => ?_⟩, ?_, first⟩
  · rw [first]
    exact (h.listeners i hi).1
  · rw [StopCurrent, stopOf, first]
    exact h.stop_value

theorem Equipped.unheard (h : base.Equipped r n) : (r.param (r.stopOf n)).listeners = [] := by
  have first : r.firstParam n = base.params.size := h.fitted.firstParam
  rw [stopOf, first]
  exact (h.listeners 3 (by decide)).1

private theorem Arranged.insert (h : r.Arranged guests pulses) (ready : r.PulseReady n)
    (placed : r.Placed n)
    (rooted : r.Rooted n) (unheard : (r.param (r.stopOf n)).listeners = []) :
    r.Arranged guests (insert n pulses) :=
  { h with
    pulse := Set.forall_mem_insert.mpr ⟨ready, h.pulse⟩
    placed := Set.forall_mem_insert.mpr ⟨placed, h.placed⟩
    rooted := Set.forall_mem_insert.mpr ⟨rooted, h.rooted⟩
    numbered := Set.forall_mem_insert.mpr ⟨.of_unheard unheard, h.numbered⟩
    member := fun s hs name m mem => by
      obtain ⟨hm, named, told⟩ := h.member s hs name m mem
      exact ⟨.inr hm, named, told⟩
    heard := Set.forall_mem_insert.mpr ⟨by rw [unheard]; exact nofun, h.heard⟩ }

theorem Arranged.createPulse (h : r.Arranged guests pulses) (settled : r.Settled pulses)
    (name : Option String) : ∃ made, Pulse.create name r = (.ok ⟨r.nodes.size⟩, made) ∧
      Equipped { r with nodes := r.nodes.push { name, config := Pulse.config } } made
        ⟨r.nodes.size⟩ ∧ r.Extends made ∧
      ∀ inUse bench, r.Retains pulses { made with inUse, bench } →
        ⟨r.nodes.size⟩ ∈ roots { made with inUse, bench } →
          Arranged { made with inUse, bench } guests (Insert.insert ⟨r.nodes.size⟩ pulses) ∧
            Settled { made with inUse, bench } (Insert.insert ⟨r.nodes.size⟩ pulses) ∧
            r.Carries ∅ ∅ { made with inUse, bench } := by
  obtain ⟨made, run, equipped⟩ := Pulse.create_run name r
  have extended : r.Extends made := equipped.extendsPulse
  refine ⟨made, run, equipped, extended, fun inUse bench kept root => ?_⟩
  let after : Registry := { made with inUse, bench }
  have size : after.sequences.size = r.sequences.size := congrArg Arena.size equipped.sequences
  obtain ⟨arranged, settled', carries⟩ := h.extended settled (extended.held inUse bench) kept
    fun t outside inside => absurd inside (by rw [size]; exact not_lt.mpr outside)
  have node := node_push r { name, config := Pulse.config } ⟨r.nodes.size⟩
  rw [if_pos rfl] at node
  have held : Equipped { r with
      nodes := r.nodes.push { name, config := Pulse.config }, inUse, bench } after ⟨r.nodes.size⟩ :=
    { equipped with
      fitted := ⟨equipped.fitted.entries, equipped.fitted.inside, equipped.fitted.setup,
        fun i hi => .inl (equipped.quiet i hi)⟩
      bench := rfl
      inUse := rfl }
  obtain ⟨ready, current, first⟩ := held.pulseReady (congrArg (·.config) node)
    (congrArg Node.held node) (isAlive_iff.mpr ⟨_, root, .refl⟩)
  have placed : after.Placed ⟨r.nodes.size⟩ := by
    refine ⟨?_, fun i hi => ?_⟩
    · change r.nodes.size < made.nodes.size
      rw [equipped.size]
      simp
    · rw [first]
      exact equipped.quiet i hi
  exact ⟨arranged.insert ready placed (.inl root) equipped.unheard,
    ⟨Set.forall_mem_insert.mpr ⟨current, settled'.stop⟩, settled'.fixed⟩, carries⟩

/-! ## Initial values -/

/-- The pulse is either enabled or disabled. -/
def Decided (r : Registry) (n : NodeId) : Prop := (r.cached n "enabled").isNull = false

/-- Values of a pulse were set. If it was enabled or disabled, it still is one of both. -/
structure Prepares (r : Registry) (pulses : Set NodeId) (n : NodeId) (after : Registry) : Prop
    extends r.Maintained pulses (r.scope n) after where
  decided : r.Decided n → after.Decided n

private theorem Prepares.refl (settled : r.Settled pulses) : r.Prepares pulses n r :=
  ⟨.of_settled settled, id⟩

private theorem Prepares.trans (h : r.Prepares pulses n mid) (h' : mid.Prepares pulses n after) :
    r.Prepares pulses n after :=
  ⟨h.toMaintained.trans (h.wiring.scope n ▸ h'.toMaintained),
    fun decided => h'.decided (h.decided decided)⟩

section

variable (h : r.Working pulses) (settled : r.Settled pulses) (hn : n ∈ pulses)
  (unheard : (r.param (r.stopOf n)).listeners = [])

include h settled hn

omit settled in
theorem Working.decided_of_value (wiring : r.SameWiring after)
    (same : (after.param ⟨r.firstParam n + 0⟩).value = (r.param ⟨r.firstParam n + 0⟩).value)
    (decided : r.Decided n) : after.Decided n := by
  have ready := h.pulse n hn
  have cached : r.cached n "enabled" = _ := ready.fitted.cached (i := 0) rfl
  have cached' : after.cached n "enabled" = _ := (wiring.pulseReady ready).fitted.cached (i := 0) rfl
  rw [Decided, cached', wiring.firstParam, same, ← cached]
  exact decided

include unheard

private theorem Working.setTime_prepares {name : String}
    (setting : name ∈ ["t_start", "duration", "t_stop", "amplitude"]) (v : Value) :
    r.Prepares pulses n (n.set name v r).2 := by
  have only : r.OnlyRefreshes n := by
    rw [OnlyRefreshes, unheard]
    exact List.forall_mem_nil _
  have kept : r.Maintained pulses (r.scopeFrom n 1) (n.set name v r).2 := by
    refine h.set_pulse_from settled hn only ?_ v
    rcases List.mem_cons.mp setting with rfl | rest
    · exact .inr ⟨rfl, le_rfl⟩
    · exact .inl ⟨rest, by decide⟩
  refine ⟨kept.mono (scopeFrom_subset 1), h.decided_of_value hn kept.wiring (kept.others _ ?_)⟩
  rintro (⟨i, -, some, same⟩ | ⟨s, -, hs, same⟩)
  · rw [ParamId.mk.injEq] at same
    omega
  · exact (h.sequence s hs).ne_durationOf (h.pulse n hn) (by decide) same

private theorem Working.setEnabled_prepares (b : Bool) :
    r.Prepares pulses n (n.set "enabled" (.bool b) r).2 := by
  obtain ⟨halt, run⟩ | ⟨after, run, took⟩ := h.set_enabled_run hn (.bool b)
  all_goals rw [run]
  · exact .refl settled
  · have kept := h.maintained_of_took_enabled settled hn unheard took
    refine ⟨kept.mono (Set.singleton_subset_iff.mpr (.inl (mem_paramsOf (by decide)))), fun _ => ?_⟩
    have cached : after.cached n "enabled" = _ :=
      (took.wiring.pulseReady (h.pulse n hn)).fitted.cached (i := 0) rfl
    rw [Decided, cached, took.wiring.firstParam, took.self]
    rfl

omit hn in
private theorem Working.setGiven_then {name : String} {next : Act DomainError Unit}
    (set : ∀ v, r.Prepares pulses n (n.set name v r).2)
    (hnext : ∀ mid : Registry, mid.Working pulses → mid.Settled pulses →
      (mid.param (mid.stopOf n)).listeners = [] → mid.Prepares pulses n (next mid).2)
    (v : Option Value) :
    r.Prepares pulses n ((do
      liftM (Pulse.setGiven n name v)
      next : Act DomainError Unit) r).2 := by
  have first : r.Prepares pulses n ((liftM (Pulse.setGiven n name v) : Act DomainError Unit) r).2 := by
    rw [Act.lift_state]
    cases v with
    | none => exact .refl settled
    | some v => exact set v
  rw [Act.bind_run]
  rcases run : (liftM (Pulse.setGiven n name v) : Act DomainError Unit) r with ⟨halt | u, mid⟩
  all_goals rw [run] at first
  · exact first
  · refine first.trans (hnext mid (first.wiring.working h) first.settled ?_)
    rw [first.wiring.stopOf, first.wiring.listeners, unheard]

theorem Working.give (plan : PulsePlan) : r.Prepares pulses n (Pulse.give n plan r).2 := by
  refine h.setGiven_then settled unheard (h.setTime_prepares settled hn unheard (by decide))
    (fun r₁ h₁ settled₁ unheard₁ => ?_) _
  refine h₁.setGiven_then settled₁ unheard₁ (h₁.setTime_prepares settled₁ hn unheard₁ (by decide))
    (fun r₂ h₂ settled₂ unheard₂ => ?_) _
  refine h₂.setGiven_then settled₂ unheard₂ (h₂.setTime_prepares settled₂ hn unheard₂ (by decide))
    (fun r₃ h₃ settled₃ unheard₃ => ?_) _
  refine h₃.setGiven_then settled₃ unheard₃ (h₃.setTime_prepares settled₃ hn unheard₃ (by decide))
    (fun r₄ h₄ settled₄ unheard₄ => ?_) _
  rw [Act.lift_state]
  cases plan.enabled with
  | none => exact .refl settled₄
  | some b => exact h₄.setEnabled_prepares settled₄ hn unheard₄ b

end

end Registry
end LabRegistry

import LabRegistry.Proofs.Naming.Chain
import LabRegistry.Proofs.Sequence.Filling
import LabRegistry.Proofs.Station.Beside

/-!
# Building the station

The station makes a sequence, two pulses in it, and the link from the stop of the one to the start of
the other. What it makes afterwards is beside them, so that they end up linked below its root.
-/
namespace LabRegistry

open Registry

variable {base r mid after : Registry} {root n first second : NodeId} {s t : SequenceId} {p : ParamId}
  {pulses : Set NodeId}

namespace Registry

/-! ## What stands beside new nodes -/

/-- A node that was there, other than the root, is alive, and its chain of parents ends. -/
structure Stands (base : Registry) (root : NodeId) (r : Registry) (n : NodeId) : Prop where
  inside : n.index < base.nodes.size
  other : n ≠ root
  alive : r.isAlive n = true
  ends : r.ParentsEnd n

namespace Beside

variable (h : base.Beside root r)

include h

private theorem value (inside : p.index < base.params.size) :
    (r.param p).value = (base.param p).value :=
  congrArg (·.value) (h.param p inside)

private theorem listeners (inside : p.index < base.params.size) :
    (r.param p).listeners = (base.param p).listeners :=
  congrArg (·.listeners) (h.param p inside)

theorem nodeOf (t : SequenceId) : r.nodeOf t = base.nodeOf t :=
  congrArg (fun sequences => (sequences.get t.index).node) h.sequences

private theorem firstParam (stands : base.Stands root r n) : r.firstParam n = base.firstParam n :=
  firstParam_of_node (congrArg (·.parameters) (h.node n stands.inside stands.other))

private theorem stopOf (stands : base.Stands root r n) : r.stopOf n = base.stopOf n := by
  rw [Registry.stopOf, h.firstParam stands, Registry.stopOf]

private theorem setup (inside : p.index < base.params.size) :
    (r.param p).setup.muted = (base.param p).setup.muted :=
  congrArg Parameter.setup (h.param p inside)

private theorem speaks (stands : base.Stands root r n) (inside : p.index < base.params.size)
    (owner : (base.param p).owner = some n) : r.Speaks p := by
  have owned : (r.param p).owner = some n := (congrArg (·.owner) (h.param p inside)).trans owner
  have live : r.owner? p = some n := by
    rw [Registry.owner?, owned, Option.filter_some, if_pos stands.alive]
  exact .inr ((paramName?_isSome_iff live).mpr stands.ends)

private theorem fitted {first : Nat} {plans : List ParameterPlan} (stands : base.Stands root r n)
    (fitted : base.Fitted n first plans) : r.Fitted n first plans :=
  fitted.of_old (congrArg (·.parameters) (h.node n stands.inside stands.other)) h.params
    (fun p inside => h.setup inside) fun i hi => by
      have planned := List.getElem?_eq_getElem hi
      exact h.speaks stands (fitted.lt_size planned) (fitted.owner planned)

private theorem pulseReady (stands : base.Stands root r n) (ready : base.PulseReady n) :
    r.PulseReady n where
  toPulseWired := by
    rw [h.firstParam stands]
    exact ready.toPulseWired.of_old (h.node n stands.inside stands.other) h.params
      (fun p inside => h.setup inside)
      (fun i hi => h.speaks stands (ready.param_inside hi) (ready.owner hi)) stands.alive
  feeds i hi ne := by
    rw [h.firstParam stands, h.listeners (ready.param_inside hi), ready.feeds i hi ne]

private theorem sequenceReady (stands : base.Stands root r (base.nodeOf t))
    (ready : base.SequenceReady t) :
    r.SequenceReady t where
  alive := by
    rw [h.nodeOf]
    exact stands.alive
  config := by
    rw [h.nodeOf, ← ready.config]
    exact congrArg (·.config) (h.node _ stands.inside stands.other)
  fitted := by
    rw [h.nodeOf, h.firstParam stands]
    exact h.fitted stands ready.fitted
  delegates := by
    rw [h.nodeOf, ← ready.delegates]
    exact congrArg (·.delegatesFor "duration") (h.node _ stands.inside stands.other)
  lists name timed := by
    rw [h.nodeOf, ← ready.lists name timed]
    exact congrArg (fun node => (node.delegatesFor (name ++ "_list")).getter)
      (h.node _ stands.inside stands.other)
  silent i hi := by
    have inside : base.firstParam (base.nodeOf t) + i < base.params.size :=
      (Nat.add_lt_add_left hi _).trans_le ready.fitted.inside
    rw [h.nodeOf, h.firstParam stands, h.listeners inside, ready.silent i hi]

section

variable (sequence : ∀ t : SequenceId, t.index < base.sequences.size →
  base.Stands root r (base.nodeOf t))

include sequence

private theorem membersOf (inside : t.index < base.sequences.size) :
    r.membersOf t = base.membersOf t := by
  have stands := sequence t inside
  rw [Registry.membersOf, h.nodeOf]
  exact congrArg (·.children.values) (h.node _ stands.inside stands.other)

private theorem refresher (inside : t.index < base.sequences.size) :
    r.refresher t = base.refresher t := by
  rw [Registry.refresher, durationOf, h.nodeOf, h.firstParam (sequence t inside), Registry.refresher,
    durationOf]

end

section

variable (works : base.Working pulses) (pulse : ∀ n ∈ pulses, base.Stands root r n)

include works pulse

private theorem pulseValue (hn : n ∈ pulses) {i : Nat} (hi : i < 5) :
    (r.param ⟨r.firstParam n + i⟩).value = (base.param ⟨base.firstParam n + i⟩).value := by
  rw [h.firstParam (pulse n hn), h.value ((works.pulse n hn).param_inside hi)]

private theorem settled (settled : base.Settled pulses) : r.Settled pulses where
  stop n hn := by
    have start := h.pulseValue works pulse hn (i := 1) (by decide)
    have duration := h.pulseValue works pulse hn (i := 2) (by decide)
    have stop := h.pulseValue works pulse hn (i := 3) (by decide)
    rw [StopCurrent, Registry.stopOf, stopValue, Pulse.stopAt, Pulse.startAt, Pulse.durationAt, start,
      duration, stop]
    exact settled.stop n hn
  fixed t duration fixed :=
    settled.fixed t duration
      ((congrArg (fun sequences => (sequences.get t.index).fixedDuration) h.sequences).symm.trans fixed)

variable (sequence : ∀ t : SequenceId, t.index < base.sequences.size →
  base.Stands root r (base.nodeOf t))

include sequence

private theorem working : r.Working pulses where
  pulse n hn := h.pulseReady (pulse n hn) (works.pulse n hn)
  sequence t ht := by
    rw [h.sequences] at ht
    exact h.sequenceReady (sequence t ht) (works.sequence t ht)
  member t ht n mem := by
    rw [h.sequences] at ht
    rw [h.membersOf sequence ht] at mem
    obtain ⟨hn, entry, told, refreshes⟩ := works.member t ht n mem
    have inside : (base.stopOf n).index < base.params.size :=
      (works.pulse n hn).param_inside (i := 3) (by decide)
    refine ⟨hn, entry, ?_, by rw [refreshes, h.refresher sequence ht]⟩
    rw [h.stopOf (pulse n hn), h.listeners inside]
    exact told

private theorem timed (inside : t.index < base.sequences.size) (timed : base.Timed t) :
    r.Timed t := by
  have working' := h.working works pulse sequence
  have units : r.durationUnits t = base.durationUnits t := by
    refine works.durationUnits_of working' inside (by rwa [h.sequences]) ?_
      (h.membersOf sequence inside) fun n mem => ?_
    · exact congrArg (fun sequences => (sequences.get t.index).fixedDuration) h.sequences
    · have hn := works.mem_of_member inside mem
      have enabled := h.pulseValue works pulse hn (i := 0) (by decide)
      have stop := h.pulseValue works pulse hn (i := 3) (by decide)
      rw [Nat.add_zero, Nat.add_zero] at enabled
      rw [(working'.pulse n hn).stopUnits, (works.pulse n hn).stopUnits, enabled, Registry.stopOf,
        Pulse.stopAt, stop]
      rfl
  obtain ⟨x, value, count⟩ := timed
  refine ⟨x, ?_, by rw [units, count]⟩
  rw [durationOf, h.nodeOf, h.firstParam (sequence t inside), ← durationOf,
    h.value (works.sequence t inside).duration_inside, value]

end

theorem linked (linked : base.Linked s first second)
    (pulse : ∀ n ∈ ({first, second} : Set NodeId), base.Stands root r n)
    (sequence : ∀ t : SequenceId, t.index < base.sequences.size → base.Stands root r (base.nodeOf t)) :
    r.Linked s first second where
  working := h.working linked.working pulse sequence
  settled := h.settled linked.working pulse linked.settled
  distinct := linked.distinct
  inside := h.sequences ▸ linked.inside
  members := (h.membersOf sequence linked.inside).trans linked.members
  free := by
    rw [← linked.free]
    exact congrArg (fun sequences => (sequences.get s.index).fixedDuration) h.sequences
  enabled n hn := (h.pulseValue linked.working pulse hn (i := 0) (by decide)).trans
    (linked.enabled n hn)
  heard := by
    have inside : (base.stopOf first).index < base.params.size :=
      linked.first_ready.param_inside (i := 3) (by decide)
    obtain ⟨before, id, heard, refreshes⟩ := linked.heard
    refine ⟨before, id, ?_, fun entry mem => ?_⟩
    · rw [h.stopOf (pulse _ (.inl rfl)), h.firstParam (pulse _ (.inr rfl)),
        h.listeners inside, heard]
    · obtain ⟨t, ht, told⟩ := refreshes entry mem
      exact ⟨t, h.sequences ▸ ht, by rw [told, h.refresher sequence ht]⟩
  only entry mem := by
    have inside : (base.stopOf second).index < base.params.size :=
      linked.second_ready.param_inside (i := 3) (by decide)
    rw [h.stopOf (pulse _ (.inr rfl)), h.listeners inside] at mem
    obtain ⟨t, ht, told⟩ := linked.only entry mem
    exact ⟨t, h.sequences ▸ ht, by rw [told, h.refresher sequence ht]⟩
  timed := h.timed linked.working pulse sequence linked.inside linked.timed
  linked := by
    have start := h.pulseValue linked.working pulse (.inr rfl) (i := 1) (by decide)
    have stop := h.pulseValue linked.working pulse (.inl rfl) (i := 3) (by decide)
    rw [Pulse.startAt, start, Registry.stopOf, Pulse.stopAt, stop]
    exact linked.linked

end Beside

/-! ## Two pulses -/

private theorem Arranged.addPlanned_run (h : r.Arranged guests pulses) (settled : r.Settled pulses)
    (hs : s.index < r.sequences.size) {plan : PulsePlan} {name : String} (named : plan.name = some name)
    (noStop : plan.stop = none)
    (start : ∀ x ∈ plan.start, (Validator.numbers none none).validate x = .ok ())
    (duration : ∀ x ∈ plan.duration, (Validator.numbers (some .zero) none).validate x = .ok ())
    (amplitude : ∀ x ∈ plan.amplitude, (Validator.numbers none none).validate x = .ok ())
    (free : (r.node (r.nodeOf s)).kindOf name = none)
    (overlap : ((r.param ⟨r.firstParam (r.nodeOf s)⟩).value == .bool false) = false) :
    ∃ after, Station.addPulse s plan r = (.ok ⟨r.nodes.size⟩, after) ∧
      r.Joins guests pulses s name (pulseValues (givenBy plan)) after := by
  obtain ⟨made, filled, created, inUse, fill, offers⟩ :=
    h.offer_run settled (givenBy plan) (fun n => Pulse.give n plan) name
      fun mid arranged settled unheard _ =>
      arranged.working.give_run settled (Set.mem_insert _ _) unheard noStop start duration amplitude
  obtain ⟨after, added, joins⟩ := offers.enter_run h hs free overlap
  refine ⟨{ after with inUse := r.inUse }, ?_, joins⟩
  rw [← named] at created
  have planned := Pulse.createWith_run created
  rw [noStop, Option.isSome_none, Bool.and_false, if_neg Bool.false_ne_true, inUse, fill] at planned
  rw [Station.addPulse, Act.bind_run, planned]
  dsimp only
  rw [Except.map]
  dsimp only
  rw [Act.bind_run, Act.holding_run, added]
  rfl

/-- Two enabled pulses make up a sequence whose duration is free and up to date, and the first has a
stop. -/
structure Paired (r : Registry) (s : SequenceId) (first second : NodeId) : Prop where
  arranged : r.Arranged ∅ {first, second}
  settled : r.Settled {first, second}
  distinct : first ≠ second
  inside : s.index < r.sequences.size
  members : r.membersOf s = [first, second]
  free : (r.sequence s).fixedDuration = none
  enabled : ∀ n ∈ ({first, second} : Set NodeId), (r.param ⟨r.firstParam n⟩).value = .bool true
  timed : r.Timed s
  stops : (r.param (r.stopOf first)).value.isNull = false

namespace Paired

variable (h : r.Paired s first second)

include h

private theorem coupled_hear :
    (r.hear (r.stopOf first) (.link (Pulse.startAt (r.firstParam second)) { update := true })).Coupled s
      first second where
  working := h.arranged.working.hear (.inl rfl) _
  settled := h.settled.hear _ _
  distinct := h.distinct
  inside := h.inside
  members := h.members
  free := h.free
  enabled n hn := (value_hear _ _ _ _).trans (h.enabled n hn)
  heard := by
    refine ⟨(r.param (r.stopOf first)).listeners, ⟨(r.param (r.stopOf first)).nextListener⟩, ?_,
      h.arranged.onlyRefreshes (.inl rfl)⟩
    have ready := h.arranged.pulse first (.inl rfl)
    change (Registry.param (r.hear (r.stopOf first) _) (r.stopOf first)).listeners = _
    rw [param_hear, if_pos ⟨rfl, ready.param_inside (i := 3) (by decide)⟩]
    rfl
  only := by
    have apart : r.stopOf second ≠ r.stopOf first :=
      (h.arranged.pulse second (.inr rfl)).param_ne (i := 3) (j := 3)
        (h.arranged.pulse first (.inl rfl)) h.distinct.symm (by decide) (by decide)
    intro entry mem
    change entry ∈ (Registry.param (r.hear (r.stopOf first) _) (r.stopOf second)).listeners at mem
    rw [param_hear, if_neg fun both => apart both.1] at mem
    exact h.arranged.onlyRefreshes (.inr rfl) entry mem

private theorem link_run : ∃ after,
    (r.stopOf first).connect (Pulse.startAt (r.firstParam second)) { update := true } r =
        (.ok (), after) ∧ after.Linked s first second ∧ r.SameNodes after ∧
      after.sequences = r.sequences := by
  let link : Listener := .link (Pulse.startAt (r.firstParam second)) { update := true }
  let heard := r.hear (r.stopOf first) link
  have told : (heard.param (r.stopOf first)).value = (r.param (r.stopOf first)).value :=
    value_hear _ _ _ _
  obtain ⟨fuel, enough, run⟩ :=
    (Pulse.startAt (r.firstParam second)).set_run (r.param (r.stopOf first)).value heard
  obtain ⟨after, set, linked, wiring⟩ := h.coupled_hear.follow_run
    (h.arranged.working.timed_hear (.inl rfl) link h.inside h.timed) (by omega : 8 ≤ fuel)
  refine ⟨after, ?_, linked, ?_, wiring.sequences⟩
  · have pushes : (true && !(r.param (r.stopOf first)).value.isNull) = true := by
      rw [h.stops]
      rfl
    rw [ParamId.connect_run, if_pos pushes, Link.apply_plain]
    change (Pulse.startAt (r.firstParam second)).set _ heard = _
    rw [run, ← told]
    exact set
  · have same : r.SameNodes heard := ⟨rfl, rfl⟩
    exact IsTrans.trans _ _ _ same wiring.nodes

end Paired

/-- Two new pulses are all that a sequence has, below its node if they are below any, and whatever else
there was is as it was. -/
structure Furnished (r : Registry) (s : SequenceId) (first second : NodeId) (after : Registry) :
    Prop where
  sequences : after.sequences.size = r.sequences.size
  nodeOf : after.nodeOf s = r.nodeOf s
  owner : after.node (r.nodeOf s) =
    { r.node (r.nodeOf s) with children := (after.node (r.nodeOf s)).children }
  children : (after.node (r.nodeOf s)).children.entries = [("plunge", first), ("read", second)]
  new : ∀ n ∈ [first, second], r.nodes.size ≤ n.index ∧ n.index < after.nodes.size
  below : ∀ n ∈ [first, second], ∀ p, (after.node n).parent = some p → p = r.nodeOf s
  others : ∀ n : NodeId, n.index < r.nodes.size → n ≠ r.nodeOf s → after.node n = r.node n

private theorem Furnished.of_sameNodes (h : r.Furnished s first second mid)
    (nodes : mid.SameNodes after)
    (sequences : after.sequences = mid.sequences) : r.Furnished s first second after where
  sequences := by rw [sequences, h.sequences]
  nodeOf := (congrArg (fun sequences => (sequences.get s.index).node) sequences).trans h.nodeOf
  owner := by rw [nodes.node, h.owner]
  children := by rw [nodes.node, h.children]
  new n mem := by
    rw [nodes.nodes]
    exact h.new n mem
  below n mem p := by
    rw [nodes.node]
    exact h.below n mem p
  others n hn away := by rw [nodes.node, h.others n hn away]

end Registry

namespace Station

def plunge : PulsePlan :=
  { name := some "plunge", start := some (decimal 0 0), duration := some (decimal 5 (-3))
    amplitude := some (decimal 1 0) }

def read : PulsePlan :=
  { name := some "read", duration := some (decimal 20 (-3)), amplitude := some (decimal 5 (-1)) }

end Station

namespace Registry.Arranged

variable (h : r.Arranged ∅ ∅) (settled : r.Settled ∅) (hs : s.index < r.sequences.size)
  (empty : (r.node (r.nodeOf s)).children.entries = [])
  (free : ∀ name ∈ ["plunge", "read"], (r.node (r.nodeOf s)).kindOf name = none)
  (overlap : (r.param ⟨r.firstParam (r.nodeOf s)⟩).value = .bool true)

include h settled hs empty free overlap

private theorem pair_run :
    ∃ first second half after, Station.addPulse s Station.plunge r = (.ok first, half) ∧
    Station.addPulse s Station.read half = (.ok second, after) ∧ after.Paired s first second ∧
      r.Furnished s first second after := by
  let first : NodeId := ⟨r.nodes.size⟩
  have named : Station.plunge.name = some "plunge" := rfl
  obtain ⟨half, added, joins⟩ := h.addPlanned_run settled hs named rfl
    (by decide +kernel) (by decide +kernel) (by decide +kernel) (free _ List.mem_cons_self)
    (by rw [overlap]; rfl)
  have h₁ := joins.arranged
  have hs₁ : s.index < half.sequences.size := by rwa [joins.sequences]
  have overlap₁ : (half.param ⟨half.firstParam (half.nodeOf s)⟩).value = .bool true :=
    (joins.setting h hs (i := 0) (by decide) (by decide)).trans overlap
  let second : NodeId := ⟨half.nodes.size⟩
  have named₂ : Station.read.name = some "read" := rfl
  obtain ⟨after, added₂, joins₂⟩ := h₁.addPlanned_run joins.settled hs₁ named₂ rfl
    (by decide +kernel) (by decide +kernel) (by decide +kernel)
    (joins.kindOf (free "read" (List.mem_cons_of_mem _ List.mem_cons_self)) (by decide))
    (by rw [overlap₁]; rfl)
  have ready := h₁.pulse first (.inl rfl)
  have inside : first.index < half.nodes.size := (h₁.placed first (.inl rfl)).inside
  have away : first ≠ half.nodeOf s := h₁.ne_nodeOf (.inl rfl) hs₁
  have pair : (Insert.insert second (Insert.insert first ∅) : Set NodeId) = {first, second} := by
    ext n
    simp [or_comm]
  have settled₂ : after.Settled {first, second} := pair ▸ joins₂.settled
  have owner : after.nodeOf s = r.nodeOf s := (joins₂.nodeOf s).trans (joins.nodeOf s)
  have children : (after.node (r.nodeOf s)).children.entries = [("plunge", first), ("read", second)] := by
    have entered := joins.children
    have entered₂ := joins₂.children
    rw [joins.nodeOf, entered, empty] at entered₂
    exact entered₂
  -- The second pulse leaves the values of the first as they were.
  have value {i : Nat} (hi : i < 5) (apart : i ≠ 3) :
      (after.param ⟨after.firstParam first + i⟩).value = pulseValues (givenBy Station.plunge) i := by
    rw [← joins.value i hi apart, firstParam_of_node (joins₂.carries.parameters first inside)]
    refine joins₂.carries.others _ ?_ (ready.param_inside hi)
    rintro ⟨t, -, ht, same⟩
    exact (h₁.sequence t ht).ne_durationOf ready hi same
  refine ⟨first, second, half, after, added, added₂, ?_, ?_⟩
  · exact {
      arranged := pair ▸ joins₂.arranged
      settled := settled₂
      distinct := fun same => absurd inside (same ▸ lt_irrefl _)
      inside := joins₂.sequences ▸ hs₁
      members := by
        rw [membersOf, owner, OrderedMap.values, children]
        rfl
      free := joins₂.fixed
      enabled := by
        rintro n (rfl | rfl)
        · exact value (i := 0) (by decide) (by decide)
        · exact joins₂.value 0 (by decide) (by decide)
      timed := joins₂.timed
      stops := by
        rw [settled₂.stop first (.inl rfl), stopValue, Pulse.startAt, Pulse.durationAt,
          value (by decide) (by decide), value (by decide) (by decide)]
        decide +kernel }
  · have first_index : first.index = r.nodes.size := rfl
    have second_index : second.index = r.nodes.size + 1 := joins.size
    have size : after.nodes.size = r.nodes.size + 2 := by rw [joins₂.size, joins.size]
    exact {
      sequences := by rw [joins₂.sequences, joins.sequences]
      nodeOf := owner
      owner := by
        have owned := joins₂.owner
        rwa [joins.nodeOf, joins.owner] at owned
      children := children
      new := by
        simp only [List.forall_mem_cons, List.not_mem_nil, false_implies, implies_true, and_true]
        exact ⟨⟨le_rfl, by omega⟩, by omega, by omega⟩
      below := by
        simp only [List.forall_mem_cons, List.not_mem_nil, false_implies, implies_true, and_true]
        constructor
        · rw [joins₂.others first inside away]
          exact joins.parent
        · exact fun p parent => (joins₂.parent p parent).trans (joins.nodeOf s)
      others := fun n hn away => by
        rw [joins₂.others n (hn.trans_le joins.carries.nodes) (joins.nodeOf s ▸ away),
          joins.others n hn away] }

/-- In a new sequence both pulses are made and linked. The second starts where the first stops. -/
theorem addPulses_run : ∃ first second after, Station.addPulses s r = (.ok (), after) ∧
    after.Linked s first second ∧ r.Furnished s first second after := by
  obtain ⟨first, second, half, both, added, added₂, paired, furnished⟩ :=
    h.pair_run settled hs empty free overlap
  obtain ⟨after, connected, linked, nodes, sequences⟩ := paired.link_run
  refine ⟨first, second, after, ?_, linked, furnished.of_sameNodes nodes sequences⟩
  have lifted : (liftM (Station.addPulse s Station.plunge) : Act AppError NodeId) r =
      (.ok first, half) := Act.mapError_eq_ok.mpr added
  have lifted₂ : (liftM (Station.addPulse s Station.read) : Act AppError NodeId) half =
      (.ok second, both) := Act.mapError_eq_ok.mpr added₂
  have stop : (liftM (first.parameter "t_stop") : Act AppError ParamId) both =
      (.ok (both.stopOf first), both) :=
    Act.mapError_eq_ok.mpr ((paired.arranged.pulse first (.inl rfl)).fitted.parameter_run (i := 3) rfl)
  have start : (liftM (second.parameter "t_start") : Act AppError ParamId) both =
      (.ok (Pulse.startAt (both.firstParam second)), both) :=
    Act.mapError_eq_ok.mpr ((paired.arranged.pulse second (.inr rfl)).fitted.parameter_run (i := 1) rfl)
  change (liftM (Station.addPulse s Station.plunge) >>= _ : Act AppError Unit) r = _
  rw [Act.bind_run, lifted]
  dsimp only
  change (liftM (Station.addPulse s Station.read) >>= _ : Act AppError Unit) half = _
  rw [Act.bind_run, lifted₂]
  dsimp only
  rw [Act.bind_run, stop]
  dsimp only
  rw [Act.bind_run, start]
  exact Act.mapError_eq_ok.mpr connected

end Registry.Arranged
end LabRegistry

import LabRegistry.Proofs.Sequence.Creation

/-!
# Filling in a new pulse and a new sequence

As long as nothing listens to the stop of a pulse, its values are set one by one in any order. A value
that the validator accepts stays until it is set anew, and the stop follows start and duration. A pulse
that has no parent enters a sequence in which its name is free and pulses may overlap.
-/
namespace LabRegistry

open Registry

variable {r mid after : Registry} {n m : NodeId} {i : Nat} {v : Value} {plan : ParameterPlan}
  {s : SequenceId} {name : String} {guests : Set Listener} {pulses : Set NodeId}
  {given : Nat → Option Value}

namespace Registry

private theorem Working.set_unheard_run (h : r.Working pulses) (settled : r.Settled pulses)
    (hn : n ∈ pulses)
    (unheard : (r.param (r.stopOf n)).listeners = []) (planned : Pulse.plans[i]? = some plan)
    (notStop : i ≠ 3) (accepted : plan.validator.validate v = .ok ()) :
    ∃ after, n.set plan.name v r = (.ok (), after) ∧
      r.Maintained pulses {⟨r.firstParam n + i⟩, r.stopOf n} after ∧
      (after.param ⟨r.firstParam n + i⟩).value = v := by
  have ready := h.pulse n hn
  have feed (hi : i = 1 ∨ i = 2) : ∃ after, n.set plan.name v r = (.ok (), after) ∧
      r.Maintained pulses {⟨r.firstParam n + i⟩, r.stopOf n} after ∧
      (after.param ⟨r.firstParam n + i⟩).value = v := by
    have only : r.OnlyRefreshes n := by
      rw [OnlyRefreshes, unheard]
      exact List.forall_mem_nil _
    have run := h.set_feed_run settled hn only hi planned v
    rw [accepted] at run
    obtain ⟨after, run, maintained, value⟩ := run
    refine ⟨after, run, maintained.mono ?_, value⟩
    refine Set.insert_subset_insert (Set.insert_subset rfl ?_)
    rintro p ⟨s, ⟨entry, mem, -⟩, -⟩
    rw [unheard] at mem
    cases mem
  have idle (plain : plan.Plain) (silent : (r.param ⟨r.firstParam n + i⟩).listeners = [])
      (kept : ∀ after, r.Took ⟨r.firstParam n + i⟩ v after →
        r.Maintained pulses {⟨r.firstParam n + i⟩} after) :
      ∃ after, n.set plan.name v r = (.ok (), after) ∧
        r.Maintained pulses {⟨r.firstParam n + i⟩, r.stopOf n} after ∧
        (after.param ⟨r.firstParam n + i⟩).value = v := by
    have run := ready.fitted.set_silent_run planned plain silent v
    rw [accepted] at run
    obtain ⟨after, run, took⟩ := run
    exact ⟨after, run, (kept after took).mono (Set.singleton_subset_iff.mpr (.inl rfl)), took.self⟩
  have hi : i < 5 := (List.getElem?_eq_some_iff.mp planned).1
  obtain rfl | rfl | rfl | rfl : i = 0 ∨ i = 1 ∨ i = 2 ∨ i = 4 := by omega
  · cases planned
    exact idle ⟨rfl, rfl, rfl⟩ (ready.feeds 0 (by decide) (by decide)) fun _ took =>
      h.maintained_of_took_enabled settled hn unheard took
  · exact feed (.inl rfl)
  · exact feed (.inr rfl)
  · cases planned
    exact idle ⟨rfl, rfl, rfl⟩ (ready.feeds 4 (by decide) (by decide)) fun _ took =>
      h.maintained_of_took_amplitude settled hn took

/-- Of a pulse to whose stop nothing listens the given values were set, by their places, and the
others but the stop are as before. -/
structure Fills (r : Registry) (pulses : Set NodeId) (n : NodeId) (given : Nat → Option Value)
    (after : Registry) : Prop where
  maintained : r.Maintained pulses (r.paramsOf n) after
  value : ∀ i < 5, i ≠ 3 → (after.param ⟨r.firstParam n + i⟩).value =
    (given i).getD (r.param ⟨r.firstParam n + i⟩).value

theorem Fills.refl (settled : r.Settled pulses) : r.Fills pulses n (fun _ => none) r :=
  ⟨.of_settled settled, fun _ _ _ => rfl⟩

theorem Fills.setGiven_run (h : r.Working pulses) (hn : n ∈ pulses)
    (unheard : (r.param (r.stopOf n)).listeners = []) (fills : r.Fills pulses n given mid)
    (planned : Pulse.plans[i]? = some plan) (notStop : i ≠ 3) (v : Option Value)
    (accepted : ∀ x ∈ v, plan.validator.validate x = .ok ()) :
    ∃ after, Pulse.setGiven n plan.name v mid = (.ok (), after) ∧
      r.Fills pulses n (Function.update given i (v.or (given i))) after := by
  cases v with
  | none =>
    refine ⟨mid, rfl, ?_⟩
    rwa [Option.none_or, Function.update_eq_self]
  | some v =>
    have wiring := fills.maintained.wiring
    obtain ⟨after, run, maintained, value⟩ := (wiring.working h).set_unheard_run
      fills.maintained.settled hn (by rw [wiring.stopOf, wiring.listeners, unheard]) planned notStop
      (accepted v rfl)
    rw [wiring.firstParam] at maintained value
    rw [wiring.stopOf] at maintained
    have hi : i < 5 := (List.getElem?_eq_some_iff.mp planned).1
    refine ⟨after, run, fills.maintained.trans (maintained.mono ?_), fun j hj apart => ?_⟩
    · exact Set.insert_subset (mem_paramsOf hi) (Set.singleton_subset_iff.mpr (mem_paramsOf (by decide)))
    · by_cases same : j = i
      · subst same
        rw [Function.update_self, value]
        rfl
      · rw [Function.update_of_ne same, maintained.others, fills.value j hj apart]
        rw [Set.mem_insert_iff, Set.mem_singleton_iff, stopOf, Pulse.stopAt, ParamId.mk.injEq,
          ParamId.mk.injEq]
        omega

/-- The values that a plan without stop gives, by their places. -/
def givenBy (plan : PulsePlan) : Nat → Option Value
  | 0 => plan.enabled.map .bool
  | 1 => plan.start
  | 2 => plan.duration
  | 4 => plan.amplitude
  | _ => none

theorem Working.give_run (h : r.Working pulses) (settled : r.Settled pulses) (hn : n ∈ pulses)
    (unheard : (r.param (r.stopOf n)).listeners = []) {plan : PulsePlan} (noStop : plan.stop = none)
    (start : ∀ x ∈ plan.start, (Validator.numbers none none).validate x = .ok ())
    (duration : ∀ x ∈ plan.duration, (Validator.numbers (some .zero) none).validate x = .ok ())
    (amplitude : ∀ x ∈ plan.amplitude, (Validator.numbers none none).validate x = .ok ()) :
    ∃ after, Pulse.give n plan r = (.ok (), after) ∧ r.Fills pulses n (givenBy plan) after := by
  obtain ⟨r₁, run₁, fills₁⟩ :=
    (Fills.refl settled).setGiven_run h hn unheard (i := 1) rfl (by decide) plan.start start
  obtain ⟨r₂, run₂, fills₂⟩ :=
    fills₁.setGiven_run h hn unheard (i := 2) rfl (by decide) plan.duration duration
  obtain ⟨r₃, run₃, fills₃⟩ :=
    fills₂.setGiven_run h hn unheard (i := 4) rfl (by decide) plan.amplitude amplitude
  obtain ⟨after, run₄, fills⟩ := fills₃.setGiven_run h hn unheard (i := 0) rfl (by decide)
    (plan.enabled.map .bool) fun x mem => by
      obtain ⟨b, -, rfl⟩ := Option.mem_map.mp mem
      rfl
  refine ⟨after, ?_, fills.maintained, fun i hi ne => ?_⟩
  · have run₀ : Pulse.setGiven n "t_stop" plan.stop r₂ = (.ok (), r₂) := by
      rw [noStop]
      rfl
    rw [Pulse.give, Act.bind_run, Act.lift_ok run₁]
    dsimp only
    rw [Act.bind_run, Act.lift_ok run₂]
    dsimp only
    rw [Act.bind_run, Act.lift_ok run₀]
    dsimp only
    rw [Act.bind_run, Act.lift_ok run₃]
    exact Act.lift_ok run₄
  · rw [fills.value i hi ne]
    obtain rfl | rfl | rfl | rfl : i = 0 ∨ i = 1 ∨ i = 2 ∨ i = 4 := by omega
    all_goals simp [Function.update, givenBy]

private theorem Arranged.addPulse_free_run (h : r.Arranged guests pulses)
    (settled : r.Settled pulses)
    (hs : s.index < r.sequences.size) (hn : n ∈ pulses) (named : (r.node n).name = some name)
    (free : (r.node (r.nodeOf s)).kindOf name = none) (top : (r.node n).parent = none)
    (overlap : ((r.param ⟨r.firstParam (r.nodeOf s)⟩).value == .bool false) = false) :
    ∃ after, s.addPulse n r = (.ok (), after) ∧ r.Retimed guests pulses s none after ∧
      after.node (r.nodeOf s) = { r.node (r.nodeOf s) with
        children := (r.node (r.nodeOf s)).children.insert name n } ∧
      (∀ m, m ≠ n → m ≠ r.nodeOf s → after.node m = r.node m) ∧
      (∀ p, (after.node n).parent = some p → p = r.nodeOf s) := by
  have other := h.ne_nodeOf hn hs
  have fresh : (r.node (r.nodeOf s)).children.contains name = false := by
    rw [Node.kindOf] at free
    split_ifs at free with _ taken
    exact Bool.eq_false_of_not_eq_true taken
  have cached : r.cached (r.nodeOf s) "allow_pulse_overlap" = _ :=
    (h.sequence s hs).fitted.cached (i := 0) rfl
  obtain ⟨mid, same, start⟩ := h.addPulse_start settled hs hn
  have clear : r.obstacle? s n = none := by
    simp [obstacle?, named, fresh, cached, overlap]
  rw [clear] at start
  obtain ⟨name', named', -, begun⟩ := start
  obtain rfl : name = name' := Option.some.inj (named.symm.trans named')
  have wiring := same.wiring
  have node (m : NodeId) : mid.node m = r.node m := wiring.nodes.node m
  have kept : r.Maintained pulses ∅ mid := h.working.maintained_of_sameState settled same
  have h' := h.of_wiring wiring
  have hs' : s.index < mid.sequences.size := by rwa [wiring.sequences]
  have admits : (mid.node (r.nodeOf s)).Admits .parameterNode name := .inl (by rwa [node])
  have leaf : mid.held n = [] := by rw [held, node, ← held, (h.pulse n hn).leaf]
  obtain ⟨rehung, moved, above, entered⟩ := NodeId.addChild_free_run admits leaf
    (wiring.nodes.nodes ▸ (h.placed n hn).inside) other (by rw [node, top]) (by rw [node, h.top s hs])
  rw [← wiring.nodeOf] at entered above
  obtain ⟨after, run, retimed, nodes⟩ := h'.enter_run_of_child kept.settled hs' hn
    (by rw [node, named]) (by rwa [wiring.nodeOf, node]) moved entered
  rw [wiring.nodeOf] at run nodes above
  have changed (m : NodeId) : after.node m = if m = r.nodeOf s ∧ (r.nodeOf s).index < rehung.nodes.size
      then { rehung.node m with children := (rehung.node m).children.insert name n }
      else rehung.node m := by
    rw [← node_change rehung (r.nodeOf s) m fun node =>
      { node with children := node.children.insert name n }, Registry.node, nodes]
    rfl
  have inside : (r.nodeOf s).index < rehung.nodes.size := by
    rw [moved.size, wiring.nodes.nodes]
    exact (h.owner s hs).inside
  refine ⟨after, ?_, ((kept.spares h {s}).mono le_rfl (Set.empty_subset _)).retimed retimed, ?_, ?_, ?_⟩
  · rw [begun]
    exact run
  · rw [changed, if_pos ⟨rfl, inside⟩, moved.others _ other.symm, node]
  · intro m ne away
    rw [changed, if_neg fun both => away both.1, moved.others m ne, node]
  · intro p parent
    rw [changed, if_neg fun both => other both.1] at parent
    exact above p parent

/-! ## Making a pulse for a sequence -/

/-- A new pulse has some name and some values, by their places, and is in no sequence. It is held, and
nothing else has changed. -/
structure Offers (r : Registry) (guests : Set Listener) (pulses : Set NodeId) (name : Option String)
    (values : Nat → Value)
    (after : Registry) : Prop where
  arranged : after.Arranged guests (insert ⟨r.nodes.size⟩ pulses)
  settled : after.Settled (insert ⟨r.nodes.size⟩ pulses)
  carries : r.Carries ∅ ∅ after
  sequences : after.sequences.size = r.sequences.size
  nodeOf : ∀ t, after.nodeOf t = r.nodeOf t
  named : (after.node ⟨r.nodes.size⟩).name = name
  top : (after.node ⟨r.nodes.size⟩).parent = none
  unheard : (after.param (after.stopOf ⟨r.nodes.size⟩)).listeners = []
  others : ∀ m : NodeId, m.index < r.nodes.size → after.node m = r.node m
  size : after.nodes.size = r.nodes.size + 1
  value : ∀ i < 5, i ≠ 3 → (after.param ⟨after.firstParam ⟨r.nodes.size⟩ + i⟩).value = values i
  inUse : after.inUse = ⟨r.nodes.size⟩ :: r.inUse
  handles : r.SameHandles after

/-- A new pulse with some values, by their places, entered a sequence, whose duration was freed, and
nothing else has changed. -/
structure Joins (r : Registry) (guests : Set Listener) (pulses : Set NodeId) (s : SequenceId)
    (name : String)
    (values : Nat → Value) (after : Registry) : Prop where
  arranged : after.Arranged guests (insert ⟨r.nodes.size⟩ pulses)
  settled : after.Settled (insert ⟨r.nodes.size⟩ pulses)
  carries : r.Carries {s} (r.durationsOf {s}) after
  sequences : after.sequences.size = r.sequences.size
  fixed : (after.sequence s).fixedDuration = none
  timed : after.Timed s
  nodeOf : ∀ t, after.nodeOf t = r.nodeOf t
  owner : after.node (r.nodeOf s) =
    { r.node (r.nodeOf s) with children := (after.node (r.nodeOf s)).children }
  children : (after.node (r.nodeOf s)).children.entries =
    (r.node (r.nodeOf s)).children.entries ++ [(name, ⟨r.nodes.size⟩)]
  others : ∀ m : NodeId, m.index < r.nodes.size → m ≠ r.nodeOf s → after.node m = r.node m
  size : after.nodes.size = r.nodes.size + 1
  parent : ∀ p, (after.node ⟨r.nodes.size⟩).parent = some p → p = r.nodeOf s
  value : ∀ i < 5, i ≠ 3 → (after.param ⟨after.firstParam ⟨r.nodes.size⟩ + i⟩).value = values i
  inUse : after.inUse = r.inUse
  handles : r.SameHandles after

/-- The values of a new pulse of which some were given. -/
def pulseValues (given : Nat → Option Value) (i : Nat) : Value :=
  (given i).getD ((Pulse.plans[i]?.map (·.initial)).getD .null)

namespace Arranged

variable (h : r.Arranged guests pulses) (settled : r.Settled pulses)

include h settled

theorem offer_run (given : Nat → Option Value) (fill : NodeId → Act DomainError Unit)
    (name : Option String)
    (fills : ∀ mid : Registry, mid.Arranged guests (Insert.insert ⟨r.nodes.size⟩ pulses) →
      mid.Settled (Insert.insert ⟨r.nodes.size⟩ pulses) →
      (mid.param (mid.stopOf ⟨r.nodes.size⟩)).listeners = [] → r.Carries ∅ ∅ mid →
      ∃ after, fill ⟨r.nodes.size⟩ mid = (.ok (), after) ∧
        mid.Fills (Insert.insert ⟨r.nodes.size⟩ pulses) ⟨r.nodes.size⟩ given after) :
    ∃ made filled, Pulse.create name r = (.ok ⟨r.nodes.size⟩, made) ∧
      made.inUse = r.inUse ∧
      fill ⟨r.nodes.size⟩ { made with inUse := ⟨r.nodes.size⟩ :: r.inUse } = (.ok (), filled) ∧
      r.Offers guests pulses name (pulseValues given)
        { filled with inUse := ⟨r.nodes.size⟩ :: r.inUse } := by
  let n : NodeId := ⟨r.nodes.size⟩
  obtain ⟨made, created, equipped, extended, inOrder⟩ := h.createPulse settled name
  have bench : made.bench = r.bench := equipped.bench
  have sequence (t : SequenceId) : made.sequence t = r.sequence t :=
    congrArg (·.get t.index) equipped.sequences
  let held : Registry := { made with inUse := n :: r.inUse }
  have roots : held.roots = n :: r.roots := by
    have same : held.roots = roots { r with inUse := n :: r.inUse } :=
      roots_of_eq rfl (congrArg (·.handles) bench) fun t => by
        change (made.sequence t).node = (r.sequence t).node
        rw [sequence]
    exact same
  have kept : r.Retains pulses held := h.retains
    (fun m mem => roots ▸ List.mem_cons_of_mem _ mem) extended.sequences fun t ht m mem => by
      refine .inr ?_
      change m ∈ ((made.node (made.sequence t).node).children.values)
      rw [sequence, ← nodeOf, extended.node _ (h.owner t ht).inside]
      exact mem
  obtain ⟨arranged, settled', carries⟩ := inOrder (n :: r.inUse) made.bench kept
    (roots ▸ List.mem_cons_self)
  obtain ⟨filled, fill_run, fills⟩ := fills held arranged settled' equipped.unheard carries
  have wiring := fills.maintained.wiring
  have first : held.firstParam n = r.params.size := equipped.fitted.firstParam
  have node (m : NodeId) : filled.node m = made.node m := wiring.nodes.node m
  -- The pulse may have been let go of meanwhile.
  let offered : Registry := { filled with inUse := n :: r.inUse }
  have roots' : offered.roots = filled.roots := by
    rw [wiring.nodes.roots]
    exact roots_of_eq rfl (congrArg (·.handles) fills.maintained.bench) fun t => wiring.nodeOf t
  have filledArranged := arranged.of_wiring wiring
  have again : filled.Spares guests (Insert.insert n pulses) ∅ ∅ offered :=
    filledArranged.spares_held fills.maintained.settled <|
      filledArranged.retains (fun m mem => roots' ▸ mem) le_rfl fun _ _ _ mem => .inr mem
  have pushed := node_push r { name, config := Pulse.config } n
  rw [if_pos rfl] at pushed
  refine ⟨made, filled, created, equipped.inUse, fill_run, ?_⟩
  exact {
    arranged := again.arranged
    settled := again.settled
    carries := by
      have before : r.Carries ∅ (held.paramsOf n) held :=
        { carries with others := fun p _ => carries.others p (Set.notMem_empty _) }
      refine ((before.trans (fills.maintained.spares arranged ∅).carries).of_new ?_).trans again.carries
      rintro p ⟨i, -, rfl⟩
      rw [first]
      exact Nat.le_add_right _ _
    sequences := by
      change filled.sequences.size = _
      rw [wiring.sequences]
      exact congrArg Arena.size equipped.sequences
    nodeOf := fun t => (wiring.nodeOf t).trans (congrArg (·.node) (sequence t))
    named := by
      change (filled.node n).name = _
      rw [node, equipped.node]
      exact congrArg (·.name) pushed
    top := by
      change (filled.node n).parent = _
      rw [node, equipped.node]
      exact congrArg (·.parent) pushed
    unheard := by
      change (filled.param (filled.stopOf n)).listeners = []
      rw [wiring.stopOf, wiring.listeners]
      exact equipped.unheard
    others := fun m hm => (node m).trans (extended.node m hm)
    size := by
      change filled.nodes.size = _
      rw [wiring.nodes.nodes]
      exact equipped.size.trans (Arena.size_push _ _)
    value := fun i hi ne => by
      have value := fills.value i hi ne
      have planned : Pulse.plans[i]? = some Pulse.plans[i] := List.getElem?_eq_getElem hi
      rw [pulseValues, planned, Option.map_some, Option.getD_some, ← equipped.cache i _ planned]
      change (filled.param ⟨filled.firstParam n + i⟩).value = _
      rw [wiring.firstParam, value, first]
      rfl
    inUse := rfl
    handles := by
      change filled.bench.handles = r.bench.handles
      rw [fills.maintained.bench]
      exact congrArg (·.handles) bench }

end Arranged

theorem Offers.enter_run {mid : Registry} {values : Nat → Value}
    (offers : r.Offers guests pulses (some name) values mid)
    (h : r.Arranged guests pulses) (hs : s.index < r.sequences.size)
    (free : (r.node (r.nodeOf s)).kindOf name = none)
    (overlap : ((r.param ⟨r.firstParam (r.nodeOf s)⟩).value == .bool false) = false) :
    ∃ after, s.addPulse ⟨r.nodes.size⟩ mid = (.ok (), after) ∧
      r.Joins guests pulses s name values { after with inUse := r.inUse } := by
  let n : NodeId := ⟨r.nodes.size⟩
  have carries := offers.carries
  have owner : mid.nodeOf s = r.nodeOf s := carries.owner s hs
  have inside := (h.owner s hs).inside
  have other : n ≠ r.nodeOf s := fun same => absurd inside (same ▸ lt_irrefl _)
  have hs' : s.index < mid.sequences.size := offers.sequences ▸ hs
  have ready := h.sequence s hs
  obtain ⟨after, added, retimed, owned, others, parent⟩ := offers.arranged.addPulse_free_run
    offers.settled hs' (Set.mem_insert _ _) offers.named (by rwa [owner, offers.others _ inside])
    offers.top (by
      rw [owner, firstParam_of_node (carries.parameters _ inside),
        carries.others _ (Set.notMem_empty _)]
      · exact overlap
      · exact ready.fitted.lt_size (i := 0) rfl)
  rw [owner] at owned others parent
  rw [offers.others _ inside] at owned
  have handles : after.bench.handles = mid.bench.handles := by
    have same := s.addPulse_sameHandles n mid
    rw [added] at same
    exact same
  let left : Registry := { after with inUse := r.inUse }
  have new {m : NodeId} (hm : m.index < r.nodes.size) : m ≠ n := by
    rintro rfl
    exact lt_irrefl _ hm
  have nodeOf (t : SequenceId) : left.nodeOf t = r.nodeOf t :=
    (retimed.owner t).trans (offers.nodeOf t)
  have roots : left.roots = r.roots := roots_of_eq rfl (handles.trans offers.handles) nodeOf
  have children : (left.node (r.nodeOf s)).children.entries =
      (r.node (r.nodeOf s)).children.entries ++ [(name, n)] := by
    have absent : name ∉ (r.node (r.nodeOf s)).children.keys := by
      rw [← OrderedMap.contains_iff_mem_keys]
      intro taken
      rw [Node.kindOf] at free
      split_ifs at free
    change (after.node (r.nodeOf s)).children.entries = _
    rw [owned]
    exact Entries.insert_of_notMem absent
  have members (t : SequenceId) (ht : t.index < r.sequences.size) (m : NodeId)
      (mem : m ∈ r.membersOf t) : m ∈ left.membersOf t := by
    rw [membersOf, nodeOf]
    by_cases same : t = s
    · subst same
      rw [OrderedMap.values, children, List.map_append]
      exact List.mem_append_left _ mem
    · have away : r.nodeOf t ≠ r.nodeOf s := fun equal => same (h.nodeOf_inj ht hs equal)
      have old := (h.owner t ht).inside
      change m ∈ (after.node (r.nodeOf t)).children.values
      rw [others _ (new old) away, offers.others _ old]
      exact mem
  have size : left.sequences.size = r.sequences.size := retimed.size.trans offers.sequences
  have kept : r.Retains pulses left :=
    h.retains (fun m mem => roots ▸ mem) size.ge fun t ht m mem => .inr (members t ht m mem)
  have retains : after.Retains (insert n pulses) left := by
    refine ⟨Set.forall_mem_insert.mpr ⟨.inr ⟨s, size ▸ hs, ?_⟩, kept.pulse⟩, fun t ht => ?_⟩
    · rw [membersOf, nodeOf, OrderedMap.values, children, List.map_append]
      exact List.mem_append_right _ List.mem_cons_self
    · change left.nodeOf t ∈ left.roots
      rw [nodeOf]
      exact kept.node t (size ▸ ht)
  have last : after.Spares guests (insert n pulses) {s} (mid.durationsOf {s}) left :=
    retimed.arranged.spares_held retimed.settled retains
  have durations : mid.durationsOf {s} = r.durationsOf {s} := by
    have duration : mid.durationOf s = r.durationOf s :=
      durationOf_of_node owner (carries.parameters _ inside)
    ext p
    simp only [durationsOf, Set.mem_singleton_iff, exists_eq_left, Set.mem_ofPred_eq, duration,
      offers.sequences]
  have owned' : left.node (r.nodeOf s) =
      { r.node (r.nodeOf s) with children := (left.node (r.nodeOf s)).children } := by
    change after.node (r.nodeOf s) =
      { r.node (r.nodeOf s) with children := (after.node (r.nodeOf s)).children }
    rw [owned]
  refine ⟨after, added, ?_⟩
  exact {
    arranged := last.arranged
    settled := last.settled
    carries := by
      rw [← durations]
      exact carries.before (retimed.toSpares.trans last).carries fun t same =>
        same ▸ ⟨hs, inside⟩
    sequences := size
    nodeOf := nodeOf
    fixed := retimed.fixedSelf
    timed := retimed.timedSelf
    owner := owned'
    children := children
    others := fun m hm away => (others m (new hm) away).trans (offers.others m hm)
    size := retimed.nodes.trans offers.size
    parent := parent
    value := fun i hi ne => by
      have first : left.firstParam n = mid.firstParam n := firstParam_of_node (retimed.parameters n)
      rw [first, ← offers.value i hi ne]
      refine retimed.others _ ?_
      rintro ⟨t, rfl, ht, same⟩
      exact (offers.arranged.sequence t ht).ne_durationOf
        (offers.arranged.pulse n (Set.mem_insert _ _)) hi same
    inUse := rfl
    handles := handles.trans offers.handles }

namespace Joins

variable {values : Nat → Value} (joins : r.Joins guests pulses s name values after)

include joins

theorem kindOf {key : String} (free : (r.node (r.nodeOf s)).kindOf key = none) (other : key ≠ name) :
    (after.node (after.nodeOf s)).kindOf key = none := by
  have keys : (after.node (r.nodeOf s)).children.contains key =
      (r.node (r.nodeOf s)).children.contains key := by
    rw [Bool.eq_iff_iff, OrderedMap.contains_iff_mem_keys, OrderedMap.contains_iff_mem_keys,
      OrderedMap.keys, joins.children, OrderedMap.keys, Entries.keys, List.map_append, List.mem_append,
      Entries.keys]
    simp [other]
  rw [joins.nodeOf, joins.owner, Node.kindOf]
  dsimp only
  rw [keys]
  exact free

theorem setting (h : r.Arranged guests pulses) (hs : s.index < r.sequences.size) {i : Nat} (hi : i < 5)
    (ne : i ≠ 2) : (after.param ⟨after.firstParam (after.nodeOf s) + i⟩).value =
      (r.param ⟨r.firstParam (r.nodeOf s) + i⟩).value := by
  have ready := h.sequence s hs
  rw [joins.nodeOf, firstParam_of_node (joins.carries.parameters _ (h.owner s hs).inside)]
  refine joins.carries.others _ ?_ ((Nat.add_lt_add_left hi _).trans_le ready.fitted.inside)
  rintro ⟨t, rfl, -, same⟩
  rw [durationOf, SequenceId.durationAt, ParamId.mk.injEq] at same
  omega

end Joins

end Registry
end LabRegistry

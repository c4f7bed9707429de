import LabRegistry.Proofs.Sequence.Report

/-!
# Copies of sequences

A copy is a new sequence that is given the final delay of the original, then copies of its pulses one
after the other, as long as pulses may overlap, and at last the other setting and the fixed duration.
What there was stays as it was.
-/
namespace LabRegistry

open Registry

namespace Registry

variable {r mid after : Registry} {s t : SequenceId} {n : NodeId} {i : Nat} {plan : ParameterPlan}
  {guests : Set Listener} {pulses more : Set NodeId} {touched : Set SequenceId} {written : Set ParamId}
  {entry : String × NodeId} {done rest : List (String × NodeId)}

/-! ## What there was -/

/-- Whatever there was is as it was, as far as nodes, values and fixed durations go. -/
structure Stays (r after : Registry) : Prop where
  nodes : r.nodes.size ≤ after.nodes.size
  node : ∀ n : NodeId, n.index < r.nodes.size → after.node n = r.node n
  sequences : r.sequences.size ≤ after.sequences.size
  owner : ∀ t : SequenceId, t.index < r.sequences.size → after.nodeOf t = r.nodeOf t
  fixed : ∀ t : SequenceId, t.index < r.sequences.size →
    (after.sequence t).fixedDuration = (r.sequence t).fixedDuration
  params : r.params.size ≤ after.params.size
  value : ∀ p : ParamId, p.index < r.params.size → (after.param p).value = (r.param p).value

private theorem Extends.stays (h : r.Extends after) : r.Stays after where
  nodes := h.nodes
  node := h.node
  sequences := h.sequences
  owner t ht := congrArg (·.node) (h.sequence t ht)
  fixed t ht := congrArg (·.fixedDuration) (h.sequence t ht)
  params := h.params
  value p hp := congrArg (·.value) (h.param p hp)

namespace Stays

variable (h : r.Stays mid)

include h

private theorem carries (later : mid.Carries touched written after)
    (node : ∀ n : NodeId, n.index < r.nodes.size → after.node n = mid.node n)
    (new : ∀ t ∈ touched, r.sequences.size ≤ t.index)
    (fresh : ∀ p ∈ written, r.params.size ≤ p.index) : r.Stays after where
  nodes := h.nodes.trans later.nodes
  node n hn := (node n hn).trans (h.node n hn)
  sequences := h.sequences.trans later.size
  owner t ht := (later.owner t (ht.trans_le h.sequences)).trans (h.owner t ht)
  fixed t ht := by
    have old : t ∉ touched := fun mem => absurd ht (not_lt.mpr (new t mem))
    exact (later.fixed t (ht.trans_le h.sequences) old).trans (h.fixed t ht)
  params := h.params.trans later.params
  value p hp := by
    have old : p ∉ written := fun mem => absurd hp (not_lt.mpr (fresh p mem))
    exact (later.others p old (hp.trans_le h.params)).trans (h.value p hp)

theorem held (inUse : List NodeId) (bench : Workbench) : r.Stays { mid with inUse, bench } :=
  ⟨h.nodes, h.node, h.sequences, h.owner, h.fixed, h.params, h.value⟩

private theorem firstParam (inside : n.index < r.nodes.size) :
    mid.firstParam n = r.firstParam n := by
  rw [Registry.firstParam, h.node n inside, Registry.firstParam]

theorem cached {plans : List ParameterPlan} (fitted : r.Fitted n (r.firstParam n) plans)
    (fitted' : mid.Fitted n (mid.firstParam n) plans) (inside : n.index < r.nodes.size)
    (name : String) : mid.cached n name = r.cached n name := by
  rw [h.firstParam inside] at fitted'
  refine fitted.cached_eq fitted' (fun i hi => h.value _ ?_) name
  exact (Nat.add_lt_add_left hi _).trans_le fitted.inside

theorem membersOf (arranged : r.Arranged guests pulses) (ht : t.index < r.sequences.size) :
    mid.membersOf t = r.membersOf t := by
  rw [Registry.membersOf, h.owner t ht, h.node _ (arranged.owner t ht).inside, Registry.membersOf]

end Stays

/-! ## Copying settings -/

private theorem Working.copySetting_run (h : r.Working pulses) (settled : r.Settled pulses)
    (hs : s.index < r.sequences.size) (ht : t.index < r.sequences.size) (low : i < 2)
    (hi : SequenceId.plans[i]? = some plan)
    (accepted : plan.validator.validate (r.cached (r.nodeOf s) plan.name) = .ok ()) :
    ∃ after, SequenceId.copySetting (r.nodeOf s) (r.nodeOf t) plan.name r = (.ok (), after) ∧
      r.Maintained pulses {⟨r.firstParam (r.nodeOf t) + i⟩} after ∧
      after.cached (after.nodeOf t) plan.name = r.cached (r.nodeOf s) plan.name := by
  have ready := h.sequence t ht
  have plain : plan.Plain := by
    obtain rfl | rfl : i = 0 ∨ i = 1 := by omega
    all_goals
      cases hi
      exact ⟨rfl, rfl, rfl⟩
  have run := ready.fitted.set_silent_run hi plain (ready.silent i (by omega))
    (r.cached (r.nodeOf s) plan.name)
  rw [accepted] at run
  obtain ⟨after, run, took⟩ := run
  have maintained := h.maintained_of_took_setting settled ht low took
  refine ⟨after, ?_, maintained, ?_⟩
  · have fitted := (h.sequence s hs).fitted
    have latest : (ParamId.latest ⟨r.firstParam (r.nodeOf s) + i⟩ : Act RegistryError Value) r =
        (.ok (r.cached (r.nodeOf s) plan.name), r) := by
      rw [fitted.cached hi]
      rfl
    rw [SequenceId.copySetting, Act.bind_run, fitted.parameter_run hi]
    dsimp only
    rw [Act.bind_run, latest]
    exact run
  · have fitted := (maintained.wiring.sequenceReady ready).fitted
    rw [fitted.cached hi, maintained.wiring.nodeOf, maintained.wiring.firstParam, took.self]

/-! ## Copying pulses -/

/-- Some pulses of a sequence were copied to a new sequence, where pulses may overlap. -/
structure Copying (r : Registry) (guests : Set Listener) (pulses : Set NodeId) (s : SequenceId)
    (done : List (String × NodeId)) (more : Set NodeId) (after : Registry) : Prop where
  arranged : after.Arranged guests more
  settled : after.Settled more
  sound : after.Sound
  among : pulses ⊆ more
  stays : r.Stays after
  size : after.sequences.size = r.sequences.size + 1
  owner : after.nodeOf ⟨r.sequences.size⟩ = ⟨r.nodes.size⟩
  first : r.params.size ≤ after.firstParam ⟨r.nodes.size⟩
  overlap : after.cached ⟨r.nodes.size⟩ "allow_pulse_overlap" = .bool true
  delay : after.cached ⟨r.nodes.size⟩ "final_delay" = r.cached (r.nodeOf s) "final_delay"
  free : ∀ name ∉ Entries.keys done, name ∉ SequenceId.plans.map (·.name) →
    (after.node ⟨r.nodes.size⟩).kindOf name = none
  members : List.Forall₂ (r.SamePulse after) done (after.node ⟨r.nodes.size⟩).children.entries
  new : ∀ n ∈ after.membersOf ⟨r.sequences.size⟩, r.nodes.size ≤ n.index
  handles : r.SameHandles after

namespace Copying

variable (h : r.Copying guests pulses s done more mid)

include h

private theorem inside : (⟨r.sequences.size⟩ : SequenceId).index < mid.sequences.size := by
  rw [h.size]
  exact Nat.lt_succ_self _

private theorem copy_fitted :
    mid.Fitted ⟨r.nodes.size⟩ (mid.firstParam ⟨r.nodes.size⟩) SequenceId.plans := by
  have fitted := (h.arranged.sequence _ h.inside).fitted
  rwa [h.owner] at fitted

private theorem fresh : ∀ p ∈ mid.paramsOf ⟨r.nodes.size⟩, r.params.size ≤ p.index := by
  rintro p ⟨i, -, rfl⟩
  exact h.first.trans (Nat.le_add_right _ _)

private theorem durationsOf_subset :
    mid.durationsOf {⟨r.sequences.size⟩} ⊆ mid.paramsOf ⟨r.nodes.size⟩ := by
  rintro p ⟨t, rfl, -, rfl⟩
  rw [durationOf, h.owner]
  exact mem_paramsOf (by decide)

section

variable (later : mid.Carries {⟨r.sequences.size⟩} (mid.paramsOf ⟨r.nodes.size⟩) after)

include later

private theorem stays_of (node : ∀ n : NodeId, n.index < r.nodes.size → after.node n = mid.node n) :
    r.Stays after :=
  h.stays.carries later node (fun _ same => same ▸ le_rfl) h.fresh

variable (ready : ∀ n ∈ more, after.PulseReady n)

include ready

private theorem pulse_cached (hn : n ∈ more) (name : String) :
    after.cached n name = mid.cached n name := by
  have hc := h.inside
  refine later.cached (h.arranged.pulse n hn) (ready n hn) (h.arranged.placed n hn).inside
    (fun i hi => ?_) name
  rintro ⟨j, hj, same⟩
  refine (h.arranged.sequence _ hc).ne_param (h.arranged.pulse n hn) hi hj ?_
  rw [h.owner, same]

private theorem members_of :
    List.Forall₂ (r.SamePulse after) done (mid.node ⟨r.nodes.size⟩).children.entries := by
  refine List.forall₂_iff_get.mpr ⟨h.members.length_eq, fun i hi hi' => ?_⟩
  obtain ⟨name, same⟩ := (List.forall₂_iff_get.mp h.members).2 i hi hi'
  have among : ((mid.node ⟨r.nodes.size⟩).children.entries.get ⟨i, hi'⟩).2 ∈ more := by
    refine h.arranged.mem_of_member h.inside ?_
    rw [membersOf, h.owner]
    exact List.mem_map_of_mem (List.get_mem _ _)
  exact ⟨name, fun key => (h.pulse_cached later ready among key).trans (same key)⟩

end

private theorem old_cached (arranged : r.Arranged guests pulses) (hn : n ∈ pulses) (name : String) :
    mid.cached n name = r.cached n name :=
  h.stays.cached (arranged.pulse n hn).fitted (h.arranged.pulse n (h.among hn)).fitted
    (arranged.placed n hn).inside name

private theorem addCopy_run (arranged : r.Arranged guests pulses) (hs : s.index < r.sequences.size)
    (mem : entry ∈ (r.node (r.nodeOf s)).children.entries) (fresh : entry.1 ∉ Entries.keys done)
    (decided : r.Decided entry.2) :
    ∃ after, SequenceId.addCopy ⟨r.sequences.size⟩ entry.2 mid = (.ok (), after) ∧
      r.Copying guests pulses s (done ++ [entry]) (insert ⟨mid.nodes.size⟩ more) after := by
  let c : SequenceId := ⟨r.sequences.size⟩
  let n := entry.2
  let m : NodeId := ⟨mid.nodes.size⟩
  obtain ⟨hn, named, -⟩ := arranged.member s hs entry.1 n mem
  have apart := arranged.apart s hs entry.1 (List.mem_map_of_mem mem)
  have inside := (arranged.placed n hn).inside
  have hc := h.inside
  have new {k : NodeId} (hk : k.index < r.nodes.size) : k ≠ ⟨r.nodes.size⟩ := by
    rintro rfl
    exact lt_irrefl _ hk
  obtain ⟨offered, copied, offers⟩ := h.arranged.copy_run h.settled (h.among hn) h.sound
  rw [h.stays.node n inside, named] at offers
  obtain ⟨after, added, joins⟩ := offers.enter_run h.arranged hc
    (by
      rw [h.owner]
      exact h.free _ fresh apart)
    (by
      have cached := h.copy_fitted.cached (i := 0) rfl
      rw [Nat.add_zero] at cached
      rw [h.owner, ← cached, h.overlap]
      rfl)
  let left : Registry := { after with inUse := mid.inUse }
  have run : SequenceId.addCopy c n mid = (.ok (), left) := by
    rw [SequenceId.addCopy, Act.bind_run, copied]
    dsimp only
    have held : { { offered with inUse := mid.inUse } with inUse := m :: mid.inUse } = offered := by
      rw [← offers.inUse]
    rw [Act.holding_run, held, added]
  have owner : left.nodeOf c = ⟨r.nodes.size⟩ := (joins.nodeOf c).trans h.owner
  have first : left.firstParam ⟨r.nodes.size⟩ = mid.firstParam ⟨r.nodes.size⟩ := by
    have placed := (h.arranged.owner c hc).inside
    rw [h.owner] at placed
    exact firstParam_of_node (joins.carries.parameters _ placed)
  have fitted : left.Fitted ⟨r.nodes.size⟩ (left.firstParam ⟨r.nodes.size⟩) SequenceId.plans := by
    have fitted := (joins.arranged.sequence c (by rwa [joins.sequences])).fitted
    rwa [owner] at fitted
  have setting {i : Nat} {plan : ParameterPlan} (hi : SequenceId.plans[i]? = some plan) (low : i < 2) :
      left.cached ⟨r.nodes.size⟩ plan.name = mid.cached ⟨r.nodes.size⟩ plan.name := by
    have same := joins.setting h.arranged hc (i := i) (by omega) (by omega)
    rw [owner, h.owner] at same
    rw [fitted.cached hi, h.copy_fitted.cached hi, same]
  have children := joins.children
  rw [h.owner] at children
  have sound : left.Sound := by
    have kept := (SequenceId.addCopy_changes c n mid).staysSound h.sound
    rw [run] at kept
    exact kept
  have later : mid.Carries {c} (mid.paramsOf ⟨r.nodes.size⟩) left :=
    joins.carries.mono le_rfl h.durationsOf_subset
  have copies : mid.Copies n left m :=
    (h.arranged.pulse n (h.among hn)).copies (h.settled.stop n (h.among hn))
      (joins.arranged.pulse m (.inl rfl)) (joins.settled.stop m (.inl rfl)) joins.value
  refine ⟨left, run, ?_⟩
  exact {
    arranged := joins.arranged
    settled := joins.settled
    sound := sound
    among := h.among.trans (Set.subset_insert _ _)
    stays := h.stays_of later fun k hk =>
      joins.others k (hk.trans_le h.stays.nodes) (h.owner ▸ new hk)
    size := joins.sequences.trans h.size
    owner := owner
    first := first ▸ h.first
    overlap := (setting (i := 0) rfl (by decide)).trans h.overlap
    delay := (setting (i := 1) rfl (by decide)).trans h.delay
    free := fun name absent unknown => by
      rw [Entries.keys, List.map_append, List.mem_append, not_or] at absent
      have free := h.free name absent.1 unknown
      rw [← h.owner] at free
      have still := joins.kindOf free fun same => absent.2 (same ▸ List.mem_cons_self)
      rwa [owner] at still
    members := by
      rw [children]
      refine List.rel_append (h.members_of later fun k hk => joins.arranged.pulse k (.inr hk))
        (.cons ⟨rfl, fun name => ?_⟩ .nil)
      rw [copies.cached_eq (by rw [Decided, h.old_cached arranged hn, decided]), h.old_cached arranged hn]
    new := fun k mem => by
      rw [membersOf, owner, OrderedMap.values, children, List.map_append] at mem
      rcases List.mem_append.mp mem with old | last
      · exact h.new k (by rwa [membersOf, h.owner])
      · rw [List.mem_singleton.mp last]
        exact h.stays.nodes
    handles := IsTrans.trans _ _ _ h.handles joins.handles }

private theorem addCopies_run (arranged : r.Arranged guests pulses)
    (hs : s.index < r.sequences.size)
    (nodup : (Entries.keys (done ++ rest)).Nodup)
    (all : ∀ entry ∈ rest, entry ∈ (r.node (r.nodeOf s)).children.entries)
    (decided : ∀ entry ∈ rest, r.Decided entry.2) :
    ∃ more after, ((rest.map (·.2)).forM (SequenceId.addCopy ⟨r.sequences.size⟩) : Act DomainError Unit)
        mid = (.ok (), after) ∧ r.Copying guests pulses s (done ++ rest) more after := by
  induction rest generalizing done more mid with
  | nil => exact ⟨more, mid, rfl, by rwa [List.append_nil]⟩
  | cons entry rest ih =>
    have fresh : entry.1 ∉ Entries.keys done := by
      rw [Entries.keys, List.map_append] at nodup
      exact fun mem => (List.nodup_append.mp nodup).2.2 _ mem _ List.mem_cons_self rfl
    obtain ⟨next, run, copying⟩ := h.addCopy_run arranged hs (all entry List.mem_cons_self)
      fresh (decided entry List.mem_cons_self)
    rw [List.append_cons] at nodup ⊢
    obtain ⟨more, after, runs, copied⟩ := ih copying nodup
      (fun other mem => all other (List.mem_cons_of_mem _ mem))
      fun other mem => decided other (List.mem_cons_of_mem _ mem)
    refine ⟨more, after, ?_, copied⟩
    change (SequenceId.addCopy ⟨r.sequences.size⟩ entry.2 >>= fun _ =>
      (rest.map (·.2)).forM (SequenceId.addCopy ⟨r.sequences.size⟩)) mid = _
    rw [Act.bind_run, run]
    exact runs

end Copying

/-! ## From the beginning to the end -/

private theorem Orderly.copying_start (h : r.Orderly guests) (sound : r.Sound)
    (hs : s.index < r.sequences.size)
    (name : Option String) : ∃ made begun, SequenceId.create name r = (.ok ⟨r.sequences.size⟩, made) ∧
      made.nodeOf ⟨r.sequences.size⟩ = ⟨r.nodes.size⟩ ∧ made.inUse = r.inUse ∧
      SequenceId.copySetting (r.nodeOf s) ⟨r.nodes.size⟩ "final_delay"
        { made with inUse := ⟨r.nodes.size⟩ :: r.inUse } = (.ok (), begun) ∧
      r.Copying guests r.inReach s [] r.inReach begun := by
  let c : SequenceId := ⟨r.sequences.size⟩
  let n : NodeId := ⟨r.nodes.size⟩
  obtain ⟨made, run, fitting, owner, extended, inOrder⟩ := h.arranged.createSequence h.settled name
  let held : Registry := { made with inUse := n :: r.inUse }
  have extended' : r.Extends held := extended.held _ _
  have kept : r.Retains r.inReach held := h.retains extended' fun object mem => by
    change object ∈ made.bench.handles.values
    rwa [fitting.bench]
  obtain ⟨arranged, settled, carries, fresh⟩ :
      held.Arranged guests r.inReach ∧ held.Settled r.inReach ∧ r.Carries ∅ ∅ held ∧ held.Fresh c :=
    inOrder _ made.bench kept (List.mem_append_left _ List.mem_cons_self)
  have size : held.sequences.size = r.sequences.size + 1 := by
    change made.sequences.size = _
    rw [fitting.sequences, withSequence, Arena.size_push]
  have hc : c.index < held.sequences.size := by
    rw [size]
    exact Nat.lt_succ_self _
  have hs' : s.index < held.sequences.size := hs.trans_le carries.size
  have owner' : held.nodeOf c = n := owner
  have nodeOf : held.nodeOf s = r.nodeOf s := extended'.stays.owner s hs
  have fitted := fresh.ready.fitted
  rw [owner'] at fitted
  have first : held.firstParam n = r.params.size :=
    (fitting.fitted (by simp [SequenceId.plans, ParameterPlan.delegated])).firstParam
  have heldSound : held.Sound := by
    have stays := (SequenceId.create_changes name r).staysSound sound
    rw [run] at stays
    exact stays
  obtain ⟨begun, copied, maintained, delay⟩ := arranged.working.copySetting_run settled hs' hc
    (i := 1) (by decide) rfl ((arranged.sequence s hs').accepted heldSound (i := 1) rfl rfl)
  rw [nodeOf, owner'] at copied
  have begunSound : begun.Sound := by
    have stays := (SequenceId.copySetting_changes (r.nodeOf s) n "final_delay" held).staysSound heldSound
    rw [copied] at stays
    exact stays
  have wiring := maintained.wiring
  have spares := maintained.spares arranged ∅
  rw [owner', first] at spares
  have node (m : NodeId) : begun.node m = held.node m := wiring.nodes.node m
  have begunOwner : begun.nodeOf c = n := (wiring.nodeOf c).trans owner'
  have stays : r.Stays begun :=
    extended'.stays.carries spares.carries (fun m _ => node m)
      (fun _ mem => absurd mem (Set.notMem_empty _)) fun p same => by
        rw [same]
        exact Nat.le_succ _
  have empty : (begun.node n).children.entries = [] := by
    rw [node, ← owner', fresh.empty]
  refine ⟨made, begun, run, owner, fitting.inUse, copied, ?_⟩
  exact {
    arranged := spares.arranged
    settled := spares.settled
    sound := begunSound
    among := le_rfl
    stays := stays
    size := spares.size.trans size
    owner := begunOwner
    first := by rw [wiring.firstParam, first]
    overlap := by
      have value : (made.param ⟨r.params.size + 0⟩).value = .bool true :=
        (fitting.fresh 0 _ rfl).value
      have later := (wiring.sequenceReady fresh.ready).fitted
      rw [wiring.nodeOf, owner', wiring.firstParam, first] at later
      have written := maintained.others ⟨r.params.size + 0⟩ (by simp [owner', first])
      exact (later.cached (i := 0) rfl).trans (written.trans value)
    delay := by
      rw [begunOwner, nodeOf] at delay
      rw [delay]
      exact extended'.stays.cached (h.arranged.sequence s hs).fitted
        (nodeOf ▸ (arranged.sequence s hs').fitted) (h.arranged.owner s hs).inside _
    free := fun name _ unknown => by
      rw [node]
      exact fitting.kindOf_of_fresh (r.bare_withSequence _) unknown
    members := by
      rw [empty]
      exact .nil
    new := by
      rw [membersOf, begunOwner, OrderedMap.values, empty]
      exact List.forall_mem_nil _
    handles := by
      change begun.bench.handles = r.bench.handles
      rw [maintained.bench]
      exact congrArg (·.handles) fitting.bench }

/-- A new sequence has the settings, the fixed duration and, one by one, the pulses of another one, and
what there was stays as it was. -/
structure Duplicates (r : Registry) (guests : Set Listener) (s : SequenceId) (more : Set NodeId)
    (after : Registry) : Prop where
  arranged : after.Arranged guests more
  settled : after.Settled more
  among : r.inReach ⊆ more
  stays : r.Stays after
  size : after.sequences.size = r.sequences.size + 1
  resembles : r.Resembles s after ⟨r.sequences.size⟩
  new : ∀ n ∈ after.membersOf ⟨r.sequences.size⟩, r.nodes.size ≤ n.index
  handles : r.SameHandles after

private theorem Copying.finish
    (h : r.Copying guests r.inReach s (r.node (r.nodeOf s)).children.entries more mid)
    (orderly : r.Orderly guests) (hs : s.index < r.sequences.size) :
    ∃ last v after, SequenceId.copySetting (r.nodeOf s) ⟨r.nodes.size⟩ "allow_pulse_overlap" mid =
        (.ok (), last) ∧
      (last.sequence s).fixedDuration = (r.sequence s).fixedDuration ∧
      (∀ d, (⟨r.nodes.size⟩ : NodeId).parameter "duration" (last.fix ⟨r.sequences.size⟩ d) =
        (.ok (last.durationOf ⟨r.sequences.size⟩), last.fix ⟨r.sequences.size⟩ d)) ∧
      (last.durationOf ⟨r.sequences.size⟩).update
        (last.fix ⟨r.sequences.size⟩ (r.sequence s).fixedDuration) = (.ok v, after) ∧
      r.Duplicates guests s more after := by
  let c : SequenceId := ⟨r.sequences.size⟩
  let n : NodeId := ⟨r.nodes.size⟩
  have hc := h.inside
  have hs' : s.index < mid.sequences.size := hs.trans_le h.stays.sequences
  have nodeOf : mid.nodeOf s = r.nodeOf s := h.stays.owner s hs
  have ready := h.arranged.sequence s hs'
  have original (name : String) : mid.cached (r.nodeOf s) name = r.cached (r.nodeOf s) name :=
    h.stays.cached (orderly.arranged.sequence s hs).fitted (nodeOf ▸ ready.fitted)
      (orderly.arranged.owner s hs).inside name
  obtain ⟨last, copied, maintained, overlap⟩ := h.arranged.working.copySetting_run h.settled hs' hc
    (i := 0) (by decide) rfl (ready.accepted h.sound (i := 0) rfl rfl)
  rw [nodeOf, h.owner] at copied
  have wiring := maintained.wiring
  have owner : last.nodeOf c = n := (wiring.nodeOf c).trans h.owner
  have hc' : c.index < last.sequences.size := by rwa [wiring.sequences]
  have spares : mid.Spares guests more {c} (mid.paramsOf n) last := by
    rw [h.owner] at maintained
    exact (maintained.mono (Set.singleton_subset_iff.mpr (mem_paramsOf (by decide)))).spares h.arranged _
  obtain ⟨v, after, updated, retimed, nodes, bench⟩ := spares.arranged.update_duration_run
    spares.settled hc' (d := (r.sequence s).fixedDuration) fun x fixed =>
      orderly.settled.fixed s x fixed
  have total : mid.Spares guests more {c} (mid.paramsOf n) after := by
    refine spares.trans (retimed.toSpares.mono le_rfl ?_)
    rw [spares.durationsOf]
    exact h.durationsOf_subset
  have later := total.carries
  have node (m : NodeId) : after.node m = mid.node m := by
    rw [← wiring.nodes.node m, Registry.node, nodes, Registry.node]
  have owner' : after.nodeOf c = n := (retimed.owner c).trans owner
  have found := spares.arranged.parameter_duration_run hc'
  rw [owner] at found
  refine ⟨last, v, after, copied, ?_, found, updated, ?_⟩
  · rw [wiring.sequence, h.stays.fixed s hs]
  -- Of the settings the first was copied just now, and the other is as it was.
  have fitted := (retimed.arranged.sequence c (by rwa [retimed.size])).fitted
  have setting {i : Nat} {plan : ParameterPlan} (hi : SequenceId.plans[i]? = some plan) (low : i < 2) :
      after.cached (after.nodeOf c) plan.name = last.cached n plan.name := by
    have before := (spares.arranged.sequence c hc').fitted
    rw [owner] at before
    rw [fitted.cached hi, owner', before.cached hi,
      firstParam_of_node (retimed.parameters n)]
    refine retimed.others _ ?_
    rintro ⟨t, rfl, -, same⟩
    rw [durationOf, owner, SequenceId.durationAt, ParamId.mk.injEq] at same
    omega
  have delay : last.cached n "final_delay" = mid.cached n "final_delay" := by
    have before := (spares.arranged.sequence c hc').fitted
    rw [owner] at before
    rw [before.cached (i := 1) rfl, h.copy_fitted.cached (i := 1) rfl, wiring.firstParam]
    refine maintained.others _ ?_
    rw [h.owner, Set.mem_singleton_iff, ParamId.mk.injEq]
    exact Nat.succ_ne_self _
  exact {
    arranged := retimed.arranged
    settled := retimed.settled
    among := h.among
    stays := h.stays_of later fun m _ => node m
    size := total.size.trans h.size
    resembles := {
      overlap := by
        rw [setting (i := 0) rfl (by decide), ← owner, overlap, nodeOf, original]
      delay := by
        rw [setting (i := 1) rfl (by decide), delay, h.delay]
      fixed := retimed.fixedSelf
      members := by
        rw [owner', node]
        exact h.members_of later fun m hm => retimed.arranged.pulse m hm }
    new := fun m mem => by
      rw [membersOf, owner', node] at mem
      exact h.new m (by rwa [membersOf, h.owner])
    handles := by
      change after.bench.handles = r.bench.handles
      rw [bench, maintained.bench]
      exact h.handles }

theorem Orderly.copy_run (h : r.Orderly guests) (sound : r.Sound) (hs : s.index < r.sequences.size)
    (decided : ∀ n ∈ r.membersOf s, r.Decided n) :
    ∃ more after, s.copy r = (.ok ⟨r.sequences.size⟩, { after with inUse := r.inUse }) ∧
      r.Duplicates guests s more after := by
  let c : SequenceId := ⟨r.sequences.size⟩
  let n : NodeId := ⟨r.nodes.size⟩
  let entries := (r.node (r.nodeOf s)).children.entries
  obtain ⟨made, begun, created, owner, inUse, delay, copying⟩ :=
    h.copying_start sound hs (r.node (r.nodeOf s)).name
  have nodup : (Entries.keys ([] ++ entries)).Nodup := (r.node (r.nodeOf s)).children.nodup_keys
  obtain ⟨more, mid, copies, copied⟩ := copying.addCopies_run h.arranged hs nodup
    (fun _ mem => mem) fun entry mem => decided _ (List.mem_map_of_mem mem)
  rw [List.nil_append] at copied
  obtain ⟨last, v, after, overlap, fixed, found, updated, duplicates⟩ := copied.finish h hs
  refine ⟨more, after, ?_, duplicates⟩
  have pulses : (s.pulses : Act DomainError (List NodeId)) begun = (.ok (entries.map (·.2)), begun) := by
    have members := copying.arranged.working.pulses_eq (hs.trans_le copying.stays.sequences)
    rw [copying.stays.membersOf h.arranged hs] at members
    have run : (s.pulses : Act DomainError (List NodeId)) begun =
        (.ok (begun.pulses (begun.nodeOf s)), begun) := rfl
    rw [run, members]
    rfl
  have state : (s.state : Act DomainError Sequence) last = (.ok (last.sequence s), last) := rfl
  have changed : (c.change ({ · with fixedDuration := (r.sequence s).fixedDuration }) :
      Act DomainError Unit) last = (.ok (), last.fix c (r.sequence s).fixedDuration) := rfl
  have body : (do
      liftM (SequenceId.copySetting (r.nodeOf s) n "final_delay")
      (← s.pulses).forM c.addCopy
      liftM (SequenceId.copySetting (r.nodeOf s) n "allow_pulse_overlap")
      let fixed := (← s.state).fixedDuration
      c.change ({ · with fixedDuration := fixed })
      let _ ← liftM (← liftM (n.parameter "duration")).update : Act DomainError Unit)
        { made with inUse := n :: made.inUse } = (.ok (), after) := by
    rw [inUse, Act.bind_run, Act.lift_ok delay]
    dsimp only
    rw [Act.bind_run, pulses]
    dsimp only
    rw [Act.bind_run, copies]
    dsimp only
    rw [Act.bind_run, Act.lift_ok overlap]
    dsimp only
    rw [Act.bind_run, state]
    dsimp only
    rw [fixed, Act.bind_run, changed]
    dsimp only
    rw [Act.bind_run, Act.lift_ok (found _)]
    dsimp only
    rw [Act.bind_run, Act.lift_ok updated]
    rfl
  have node : (s.node : Act DomainError NodeId) r = (.ok (r.nodeOf s), r) := rfl
  have copyNode : (c.node : Act DomainError NodeId) made = (.ok n, made) := by
    have run : (c.node : Act DomainError NodeId) made = (.ok (made.nodeOf c), made) := rfl
    rw [run, owner]
  rw [SequenceId.copy, Act.bind_run, node]
  dsimp only
  rw [Act.bind_run, NodeId.state_run]
  dsimp only
  rw [Act.bind_run, created]
  dsimp only
  rw [Act.bind_run, copyNode]
  dsimp only
  rw [Act.bind_run, Act.holding_run, body]
  dsimp only
  rw [inUse]
  rfl

end Registry
end LabRegistry

import LabRegistry.Proofs.Binding.Command
import LabRegistry.Proofs.Sequence.Creation

/-!
# What the user holds

A registry is orderly if the user has a handle of every sequence, and all is in order with the pulses
that the user has a handle of or that are in a sequence. Making pulses and sequences and whatever is
done with them by the user keep it so.
-/
namespace LabRegistry

open Registry

variable {r base mid after : Registry} {s : SequenceId} {n : NodeId} {handle : String}
  {guests : Set Listener} {pulses fewer : Set NodeId} {touched : Set SequenceId} {written : Set ParamId}

namespace Registry

/-- The pulses that the user has handles of and those that are in sequences. -/
def inReach (r : Registry) : Set NodeId :=
  {n | .pulse n ∈ r.bench.handles.values ∨
    ∃ s : SequenceId, s.index < r.sequences.size ∧ n ∈ r.membersOf s}

/-- Whatever is in reach was in reach before, or it is a new pulse, to whose stop nothing listens and
which is enabled or disabled. -/
def Reaches (r after : Registry) : Prop :=
  ∀ n ∈ after.inReach, n ∈ r.inReach ∨
    r.nodes.size ≤ n.index ∧ (after.param (after.stopOf n)).listeners = [] ∧ after.Decided n

/-- The user has a handle of every sequence, and all is in order with the pulses in reach. -/
structure Orderly (r : Registry) (guests : Set Listener) : Prop where
  arranged : r.Arranged guests r.inReach
  settled : r.Settled r.inReach
  offered : ∀ s : SequenceId, s.index < r.sequences.size ↔ .sequence s ∈ r.bench.handles.values

theorem orderly_start (foreign : ∀ p, .callback (.refreshOwned p) ∉ guests) (log : Log)
    (now : Instant) : (start log now).Orderly guests := by
  have none (s : SequenceId) : ¬ s.index < (start log now).sequences.size := Nat.not_lt_zero _
  have free : (start log now).inReach = ∅ := by
    refine Set.eq_empty_iff_forall_notMem.mpr fun n hn => ?_
    rcases hn with handle | ⟨s, hs, -⟩
    · cases handle
    · exact none s hs
  obtain ⟨arranged, settled⟩ := arranged_of_none (r := start log now) rfl foreign
  exact ⟨free ▸ arranged, free ▸ settled,
    fun s => ⟨fun hs => absurd hs (none s), fun handle => by cases handle⟩⟩

private theorem mem_roots_of_handle {object : Object} (handle : object ∈ r.bench.handles.values)
    (holds : n ∈ r.heldByObject object) : n ∈ r.roots :=
  List.mem_append_right _ (List.mem_flatMap.mpr ⟨object, handle, holds⟩)

theorem sameHandles_keep {object : Object} (same : r.SameHandles mid)
    (free : r.bench.handles.contains handle = false) :
    (mid.keep handle object).bench.handles.values = r.bench.handles.values ++ [object] := by
  rw [values_keep (by rwa [same]), same]

theorem Arranged.orderly_of_held (h : r.Arranged guests pulses) (settled : r.Settled pulses)
    (inUse : List NodeId) (bench : Workbench) (known : ∀ n, .pulse n ∈ bench.handles.values → n ∈ pulses)
    (offered : ∀ s : SequenceId, s.index < r.sequences.size ↔ .sequence s ∈ bench.handles.values) :
    Orderly { r with inUse, bench } guests ∧ inReach { r with inUse, bench } ⊆ pulses ∧
      r.Carries ∅ ∅ { r with inUse, bench } := by
  let after : Registry := { r with inUse, bench }
  have among : after.inReach ⊆ pulses := by
    rintro n (handle | ⟨s, hs, mem⟩)
    · exact known n handle
    · exact h.mem_of_member hs mem
  have fewer : r.Arranged guests after.inReach := h.mono among fun s hs n mem => .inr ⟨s, hs, mem⟩
  have settled' : r.Settled after.inReach := ⟨fun n hn => settled.stop n (among hn), settled.fixed⟩
  have kept : r.Retains after.inReach after := by
    refine ⟨fun n hn => ?_, fun s hs => ?_⟩
    · rcases hn with handle | member
      · exact .inl (mem_roots_of_handle handle (List.mem_singleton.mpr rfl))
      · exact .inr member
    · exact mem_roots_of_handle (r := after) ((offered s).mp hs) (List.mem_singleton.mpr rfl)
  have spares : r.Spares guests after.inReach ∅ ∅ after := fewer.spares_held settled' kept
  exact ⟨⟨spares.arranged, spares.settled, offered⟩, among, spares.carries⟩

namespace Orderly

variable (h : r.Orderly guests)

include h

theorem of_arranged (arranged : after.Arranged guests fewer) (settled : after.Settled fewer)
    (among : fewer ⊆ r.inReach) (kept : ∀ n, .pulse n ∈ r.bench.handles.values → n ∈ fewer)
    (same : r.SameHandles after) (size : after.sequences.size = r.sequences.size) :
    after.Orderly guests ∧ r.Reaches after := by
  have le : after.inReach ⊆ fewer := by
    rintro n (handle | ⟨s, hs, mem⟩)
    · exact kept n (same ▸ handle)
    · exact arranged.mem_of_member hs mem
  refine ⟨⟨arranged.mono le fun s hs n mem => .inr ⟨s, hs, mem⟩,
    ⟨fun n hn => settled.stop n (le hn), settled.fixed⟩, ?_⟩, fun n hn => .inl (among (le hn))⟩
  rw [same, size]
  exact h.offered

theorem spared (spares : r.Spares guests r.inReach touched written after) (same : r.SameHandles after) :
    after.Orderly guests ∧ r.Reaches after :=
  h.of_arranged spares.arranged spares.settled le_rfl (fun _ handle => .inl handle) same spares.size

theorem freed (frees : r.Frees guests r.inReach s after) (same : r.SameHandles after) :
    (after.Orderly guests ∧ r.Reaches after) ∧ r.Carries {s} (r.durationsOf {s}) after ∧
      (after.sequence s).fixedDuration = none ∧ after.Timed s ∧ after.membersOf s ⊆ r.membersOf s := by
  obtain ⟨fewer, among, kept, retimed, -, members⟩ := frees
  refine ⟨h.of_arranged retimed.arranged retimed.settled among (fun n handle => ?_) same retimed.size,
    retimed.toSpares.carries, retimed.fixedSelf, retimed.timedSelf, members⟩
  exact kept n (.inl handle) (mem_roots_of_handle handle (List.mem_singleton.mpr rfl))

theorem retains (extended : r.Extends after)
    (handles : ∀ object ∈ r.bench.handles.values, object ∈ after.bench.handles.values) :
    r.Retains r.inReach after where
  pulse n hn := by
    rcases hn with handle | ⟨s, hs, mem⟩
    · exact .inl (mem_roots_of_handle (handles _ handle) (List.mem_singleton.mpr rfl))
    · refine .inr ⟨s, hs.trans_le extended.sequences, ?_⟩
      rwa [membersOf, nodeOf, extended.sequence s hs, ← nodeOf,
        extended.node _ (h.arranged.owner s hs).inside]
  node s hs := by
    refine mem_roots_of_handle (handles _ ((h.offered s).mp hs)) (List.mem_singleton.mpr ?_)
    rw [nodeOf, extended.sequence s hs]

/-! ## Making -/

theorem createSequence (free : r.bench.handles.contains handle = false) (name : Option String) :
    ∃ after, SequenceId.create name r = (.ok ⟨r.sequences.size⟩, after) ∧
      (after.keep handle (.sequence ⟨r.sequences.size⟩)).Orderly guests ∧
      r.Reaches (after.keep handle (.sequence ⟨r.sequences.size⟩)) ∧
      r.Carries ∅ ∅ (after.keep handle (.sequence ⟨r.sequences.size⟩)) := by
  obtain ⟨made, run, fitting, owner, extended, inOrder⟩ :=
    h.arranged.createSequence h.settled name
  let after := made.keep handle (.sequence ⟨r.sequences.size⟩)
  have handles : after.bench.handles.values =
      r.bench.handles.values ++ [.sequence ⟨r.sequences.size⟩] :=
    sameHandles_keep (congrArg Workbench.handles fitting.bench) free
  have kept : r.Retains r.inReach after :=
    h.retains (extended.held made.inUse after.bench) fun object mem => by
      rw [handles]
      exact List.mem_append_left _ mem
  have entered : .sequence ⟨r.sequences.size⟩ ∈ after.bench.handles.values := by
    rw [handles]
    exact List.mem_append_right _ List.mem_cons_self
  have root : (⟨r.nodes.size⟩ : NodeId) ∈ after.roots :=
    mem_roots_of_handle entered (List.mem_singleton.mpr owner.symm)
  obtain ⟨arranged, settled, carries, -⟩ := inOrder made.inUse after.bench kept root
  have size : made.sequences.size = r.sequences.size + 1 := by
    rw [fitting.sequences, withSequence, Arena.size_push]
  obtain ⟨orderly, among, -⟩ := arranged.orderly_of_held settled after.inUse after.bench
    (fun n handle => by
      rw [handles] at handle
      exact .inl (by simpa using handle))
    fun s => by
      change s.index < made.sequences.size ↔ _
      rw [handles, size, List.mem_append, ← h.offered, List.mem_singleton, Object.sequence.injEq,
        Nat.lt_succ_iff_lt_or_eq]
      exact or_congr_right ⟨fun last => by rw [← last], fun last => by rw [last]⟩
  exact ⟨made, run, orderly, fun n hn => .inl (among hn), carries⟩

end Orderly

/-- All is in order with one more pulse, of which the user has no handle yet, to whose stop nothing
listens, and which is enabled or disabled. -/
structure Gains (r : Registry) (guests : Set Listener) (n : NodeId) (after : Registry) : Prop where
  arranged : after.Arranged guests (insert n r.inReach)
  settled : after.Settled (insert n r.inReach)
  carries : r.Carries ∅ ∅ after
  size : after.sequences.size = r.sequences.size
  handles : r.SameHandles after
  new : r.nodes.size ≤ n.index
  unheard : (after.param (after.stopOf n)).listeners = []
  decided : after.Decided n

namespace Gains

variable (h : r.Gains guests n mid) (orderly : r.Orderly guests)

include h

private theorem reaches {inUse : List NodeId} {bench : Workbench}
    (among : inReach { mid with inUse, bench } ⊆ insert n r.inReach) :
    r.Reaches { mid with inUse, bench } := by
  intro m hm
  rcases among hm with rfl | old
  · exact .inr ⟨h.new, h.unheard, h.decided⟩
  · exact .inl old

include orderly

private theorem drop (inUse : List NodeId) :
    Orderly { mid with inUse } guests ∧ r.Reaches { mid with inUse } ∧
      r.Carries ∅ ∅ { mid with inUse } := by
  have handles := h.handles
  obtain ⟨orderly', among, carries⟩ := h.arranged.orderly_of_held h.settled inUse mid.bench
    (fun m handle => .inr (.inl (handles ▸ handle)))
    fun s => by rw [h.size, handles, orderly.offered]
  exact ⟨orderly', h.reaches among, h.carries.trans carries⟩

theorem keep (free : r.bench.handles.contains handle = false) (inUse : List NodeId) :
    (keep { mid with inUse } handle (.pulse n)).Orderly guests ∧
      r.Reaches (keep { mid with inUse } handle (.pulse n)) ∧
      r.Carries ∅ ∅ (keep { mid with inUse } handle (.pulse n)) := by
  let kept := Registry.keep { mid with inUse } handle (.pulse n)
  have same : r.SameHandles { mid with inUse } := h.handles
  have handles : kept.bench.handles.values = r.bench.handles.values ++ [.pulse n] :=
    sameHandles_keep same free
  obtain ⟨orderly', among, carries⟩ := h.arranged.orderly_of_held h.settled inUse kept.bench
    (fun m handle => by
      rw [handles, List.mem_append, List.mem_singleton, Object.pulse.injEq] at handle
      exact handle.symm.imp id .inl)
    fun s => by simp [h.size, handles, orderly.offered]
  exact ⟨orderly', h.reaches among, h.carries.trans carries⟩

end Gains

theorem Orderly.createPulse (h : r.Orderly guests) (free : r.bench.handles.contains handle = false)
    (plan : PulsePlan) :
    match Pulse.createWith plan r with
    | (.ok n, after) => (after.keep handle (.pulse n)).Orderly guests ∧
        r.Reaches (after.keep handle (.pulse n)) ∧ r.Carries ∅ ∅ (after.keep handle (.pulse n))
    | (.error _, after) => after.Orderly guests ∧ r.Reaches after ∧ r.Carries ∅ ∅ after := by
  obtain ⟨made, run, equipped, extended, inOrder⟩ := h.arranged.createPulse h.settled plan.name
  rw [Pulse.createWith_run run]
  by_cases both : (plan.duration.isSome && plan.stop.isSome) = true
  · rw [if_pos both]
    exact ⟨h, fun _ mem => .inl mem, ((Maintained.of_settled h.settled).spares h.arranged ∅).carries⟩
  rw [if_neg both]
  let n : NodeId := ⟨r.nodes.size⟩
  let held : Registry := { made with inUse := n :: made.inUse }
  have bench : made.bench = r.bench := equipped.bench
  have kept : r.Retains r.inReach held := h.retains (extended.held (n :: made.inUse) made.bench)
    fun object mem => by
      change object ∈ made.bench.handles.values
      rwa [bench]
  obtain ⟨arranged, settled, carries⟩ := inOrder (n :: made.inUse) made.bench kept
    (List.mem_append_left _ List.mem_cons_self)
  have unheard : (held.param (held.stopOf n)).listeners = [] := equipped.unheard
  have given := arranged.working.give settled (.inl rfl) unheard plan
  have handles : r.SameHandles (Pulse.give n plan held).2 :=
    IsTrans.trans _ held _ (congrArg Workbench.handles bench)
      ((Pulse.give_effects n plan).sameHandles held)
  have scope : ∀ p ∈ held.scope n, r.params.size ≤ p.index := by
    rintro p (⟨i, -, rfl⟩ | ⟨s, ⟨entry, mem, -⟩, -⟩)
    · have first : held.firstParam n = r.params.size := equipped.fitted.firstParam
      rw [first]
      exact Nat.le_add_right _ _
    · rw [unheard] at mem
      cases mem
  have gains : r.Gains guests n (Pulse.give n plan held).2 := {
    arranged := arranged.of_wiring given.wiring
    settled := given.settled
    carries := by
      have spares := (given.spares arranged ∅).carries
      have before : r.Carries ∅ (held.scope n) held :=
        { carries with others := fun p _ => carries.others p (Set.notMem_empty _) }
      exact (before.trans spares).of_new scope
    size := by
      rw [given.wiring.sequences]
      exact congrArg Arena.size equipped.sequences
    handles := handles
    new := le_rfl
    unheard := by rw [given.wiring.stopOf, given.wiring.listeners, unheard]
    decided := by
      refine given.decided ?_
      have cached : held.cached n "enabled" = _ :=
        (arranged.pulse n (.inl rfl)).fitted.cached (i := 0) rfl
      have first : held.firstParam n = r.params.size := equipped.fitted.firstParam
      have initial : (held.param ⟨r.params.size + 0⟩).value = _ := equipped.cache 0 _ rfl
      rw [Decided, cached, first, initial]
      rfl }
  dsimp only
  rcases outcome : Pulse.give n plan held with ⟨halt | u, last⟩
  all_goals
    rw [outcome] at gains
  · exact gains.drop h made.inUse
  · exact gains.keep h free made.inUse

end Registry
end LabRegistry

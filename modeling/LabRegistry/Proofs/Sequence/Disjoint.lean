import LabRegistry.Proofs.Sequence.History

/-!
# Pulses that do not overlap

As long as no value of a pulse is set, a sequence that was empty and does not allow overlaps never has
two enabled pulses that overlap: a pulse is compared with all of them before it enters, overlapping goes
both ways, and no other command changes a time.
-/
namespace LabRegistry

open Registry

variable {r after : Registry} {s : SequenceId} {n m : NodeId} {c : SequenceCommand}
  {guests : Set Listener} {log : Log} {now : Instant} {i : Nat}

namespace Registry

/-! ## Commands that set nothing of a pulse -/

namespace Orderly

variable (h : r.Orderly guests) (allowed : r.Allows c)

include h allowed

private theorem notMem_written (leaves : c.LeavesPulses) (hn : n ∈ r.inReach) (hi : i < 5) :
    ⟨r.firstParam n + i⟩ ∉ r.written c := by
  have ready := h.arranged.pulse n hn
  have idle (t : SequenceId) : ⟨r.firstParam n + i⟩ ∉ r.durationsOf {t} := by
    rintro ⟨t, rfl, ht, same⟩
    exact (h.arranged.sequence t ht).ne_durationOf ready hi same
  cases c with
  | createPulse | createSequence => exact Set.notMem_empty _
  | addPulse t | removePulse t | clear t => exact idle t
  | setSequence t =>
    rintro (⟨j, hj, same⟩ | mem)
    · exact (h.arranged.sequence t ((h.offered t).mpr allowed)).ne_param ready hi hj same
    · exact idle t mem
  | setPulse => exact leaves.elim

end Orderly

/-- The cached values of a pulse are the same. -/
structure LeftAlone (r : Registry) (n : NodeId) (after : Registry) : Prop where
  ready : r.PulseReady n
  ready' : after.PulseReady n
  first : after.firstParam n = r.firstParam n
  value : ∀ i < 5, (after.param ⟨r.firstParam n + i⟩).value = (r.param ⟨r.firstParam n + i⟩).value

theorem Outcome.untouched (outcome : r.Outcome guests c after) (h : r.Orderly guests)
    (allowed : r.Allows c) (leaves : c.LeavesPulses) (hn : n ∈ r.inReach) (hn' : n ∈ after.inReach) :
    r.LeftAlone n after where
  ready := h.arranged.pulse n hn
  ready' := outcome.orderly.arranged.pulse n hn'
  first := firstParam_of_node (outcome.carries.parameters n (h.arranged.placed n hn).inside)
  value _ hi := outcome.carries.others _ (h.notMem_written allowed leaves hn hi)
    ((h.arranged.pulse n hn).param_inside hi)

namespace LeftAlone

variable (h : r.LeftAlone n after)

include h

private theorem isEnabled : after.isEnabled n = r.isEnabled n := by
  have value := h.value 0 (by decide)
  rw [Nat.add_zero] at value
  rw [h.ready.isEnabled, h.ready'.isEnabled, h.first, value]

private theorem interval : after.interval n = r.interval n := by
  have start := h.value 1 (by decide)
  have stop : (after.param (r.stopOf n)).value = (r.param (r.stopOf n)).value := h.value 3 (by decide)
  have same : after.stopOf n = r.stopOf n := by
    rw [stopOf, h.first, stopOf]
  have cached : r.cached n "t_start" = _ := h.ready.fitted.cached (i := 1) rfl
  have cached' : after.cached n "t_start" = _ := h.ready'.fitted.cached (i := 1) rfl
  rw [Registry.interval, Registry.interval, cached, cached', h.first, start, h.ready.cached_stop,
    h.ready'.cached_stop, same, stop]

private theorem meet (h' : r.LeftAlone m after) : after.meet n m = r.meet n m := by
  rw [Registry.meet, h.interval, h'.interval, Registry.meet]

end LeftAlone

/-! ## Sequences that do not allow overlaps -/

/-- A sequence was empty and did not allow overlaps. Since then no value of a pulse was set, and none of
the sequence itself. -/
inductive Guarded (log : Log) (now : Instant) (s : SequenceId) : Registry → Prop
  | empty {past : List (SequenceId × Timing)} {permitted : SequenceCommand → Prop} {r : Registry}
      (ran : Ran log now permitted past r) (offered : .sequence s ∈ r.bench.handles.values)
      (empty : r.pulses (r.nodeOf s) = [])
      (guarded : (r.cached (r.nodeOf s) "allow_pulse_overlap" == .bool false) = true) : Guarded log now s r
  | step {r : Registry} (c : SequenceCommand) (earlier : Guarded log now s r)
      (leaves : c.LeavesPulses) (unset : ∀ setting v, c ≠ .setSequence s setting v)
      (allowed : r.Allows c) : Guarded log now s (c.act r).2

/-- The sequence does not allow overlaps, and there are none among its enabled pulses. -/
structure Disjoint (r : Registry) (s : SequenceId) : Prop where
  orderly : r.Orderly ∅
  inside : s.index < r.sequences.size
  guarded : ((r.param ⟨r.firstParam (r.nodeOf s)⟩).value == .bool false) = true
  apart : ∀ n ∈ r.membersOf s, ∀ m ∈ r.membersOf s, n ≠ m → r.isEnabled n = true →
    r.isEnabled m = true → r.meet n m = false

namespace Disjoint

variable (h : r.Disjoint s)

include h

private theorem cached : (r.cached (r.nodeOf s) "allow_pulse_overlap" == .bool false) = true := by
  have cached : r.cached (r.nodeOf s) "allow_pulse_overlap" = _ :=
    (h.orderly.arranged.sequence s h.inside).fitted.cached (i := 0) rfl
  rw [cached]
  exact h.guarded

private theorem meet_of_clear (clear : r.obstacle? s n = none) (mem : m ∈ r.membersOf s)
    (enabled : r.isEnabled m = true) : r.meet n m = false := by
  rw [← h.orderly.arranged.working.pulses_eq h.inside] at mem
  rw [obstacle?] at clear
  split at clear
  case h_1 => cases clear
  case h_2 name _ =>
    split at clear
    case isTrue => cases clear
    case isFalse =>
      rw [if_pos h.cached, Option.map_eq_none_iff, List.find?_eq_none] at clear
      have free := clear m mem
      rw [obstructs, enabled, Bool.true_and] at free
      exact Bool.eq_false_of_not_eq_true free

private theorem addPulse_refused {name : String} (hn : n ∈ r.inReach)
    (named : (r.node n).name = some name)
    (free : (r.node (r.nodeOf s)).children.contains name = false) :
    match (r.membersOf s).find? (r.obstructs n) with
    | some m => (s.addPulse n r).1 =
        .error (.failed (.pulsesOverlap name ((r.node m).name.getD "")))
    | none => ∀ own other, (s.addPulse n r).1 ≠ .error (.failed (.pulsesOverlap own other)) := by
  have arranged := h.orderly.arranged
  have settled := h.orderly.settled
  obtain ⟨mid, same, start⟩ := arranged.addPulse_start settled h.inside hn
  have obstacle : r.obstacle? s n = ((r.membersOf s).find? (r.obstructs n)).map fun m =>
      .pulsesOverlap name ((r.node m).name.getD "") := by
    rw [obstacle?, named]
    dsimp only
    rw [if_neg (by rw [free]; exact Bool.false_ne_true), if_pos h.cached,
      arranged.working.pulses_eq h.inside]
  rw [obstacle] at start
  cases found : (r.membersOf s).find? (r.obstructs n) with
  | some m =>
    rw [found] at start
    exact congrArg Prod.fst start
  | none =>
    rw [found] at start
    obtain ⟨own, named, free, start⟩ := start
    have wiring := same.wiring
    have node (m : NodeId) : mid.node m = r.node m := wiring.nodes.node m
    have maintained : r.Maintained r.inReach ∅ mid :=
      arranged.working.maintained_of_sameState settled same
    have entering := (arranged.of_wiring wiring).enter_run maintained.settled
      (wiring.sequences ▸ h.inside) hn (by rw [node, named]) (by rw [wiring.nodeOf, node, free])
    rw [wiring.nodeOf] at entering
    rw [start]
    intro own other
    rcases entering with ⟨after, run, -⟩ | ⟨halt, after, run, -⟩
    · rw [run]
      intro failed
      cases failed
    · rw [run]
      cases halt
      all_goals
        intro failed
        cases failed

private theorem step (leaves : c.LeavesPulses) (unset : ∀ setting v, c ≠ .setSequence s setting v)
    (allowed : r.Allows c) : (c.act r).2.Disjoint s := by
  have outcome := h.orderly.outcome allowed (.inl rfl)
  have carries := outcome.carries
  have arranged := h.orderly.arranged
  have ready := arranged.sequence s h.inside
  have inside' := h.inside.trans_le carries.size
  have owner := carries.owner s h.inside
  have same (n : NodeId) (mem : n ∈ (c.act r).2.membersOf s) (old : n ∈ r.inReach) :
      r.LeftAlone n (c.act r).2 :=
    outcome.untouched h.orderly allowed leaves old (.inr ⟨s, inside', mem⟩)
  -- Members were members before, or they were compared with all enabled ones.
  have came (n : NodeId) (mem : n ∈ (c.act r).2.membersOf s) :
      r.LeftAlone n (c.act r).2 ∧ (n ∈ r.membersOf s ∨ c = .addPulse s n ∧ r.obstacle? s n = none) := by
    rcases outcome.members s h.inside n mem with old | ⟨rfl, clear⟩
    · exact ⟨same n mem (.inr ⟨s, h.inside, old⟩), .inl old⟩
    · exact ⟨same n mem allowed.2, .inr ⟨rfl, clear⟩⟩
  refine ⟨outcome.orderly, inside', ?_, fun n hn m hm ne enabled enabled' => ?_⟩
  · have written : ⟨r.firstParam (r.nodeOf s)⟩ ∉ r.written c := by
      have idle (t : SequenceId) : ⟨r.firstParam (r.nodeOf s)⟩ ∉ r.durationsOf {t} := by
        rintro ⟨t, rfl, ht, equal⟩
        obtain rfl := ready.param_inj (arranged.sequence t ht) (i := 0) (j := 2) (by decide) (by decide)
          equal
        rw [durationOf, SequenceId.durationAt, ParamId.mk.injEq] at equal
        omega
      cases c with
      | createPulse | createSequence => exact Set.notMem_empty _
      | addPulse t | removePulse t | clear t => exact idle t
      | setSequence t setting v =>
        rintro (⟨j, hj, equal⟩ | mem)
        · obtain rfl := ready.param_inj (arranged.sequence t ((h.orderly.offered t).mpr allowed))
            (i := 0) (by decide) hj equal
          exact unset setting v rfl
        · exact idle t mem
      | setPulse => exact leaves.elim
    rw [owner, firstParam_of_node (carries.parameters _ (arranged.owner s h.inside).inside),
      carries.others _ written (ready.fitted.lt_size (i := 0) rfl)]
    exact h.guarded
  · obtain ⟨sameN, oldN⟩ := came n hn
    obtain ⟨sameM, oldM⟩ := came m hm
    rw [sameN.isEnabled] at enabled
    rw [sameM.isEnabled] at enabled'
    rw [sameN.meet sameM]
    rcases oldN with oldN | ⟨rfl, clearN⟩
    · rcases oldM with oldM | ⟨-, clearM⟩
      · exact h.apart n oldN m oldM ne enabled enabled'
      · rw [meet_comm]
        exact h.meet_of_clear clearM oldN enabled
    · rcases oldM with oldM | ⟨equal, -⟩
      · exact h.meet_of_clear clearN oldM enabled'
      · cases equal
        exact absurd rfl ne

end Disjoint

private theorem Guarded.disjoint (h : Guarded log now s r) : r.Disjoint s := by
  induction h with
  | @empty past permitted r ran offered empty guarded =>
    have orderly := ran.orderly
    have inside := (orderly.offered s).mpr offered
    have ready := orderly.arranged.sequence s inside
    have cached : r.cached (r.nodeOf s) "allow_pulse_overlap" = _ := ready.fitted.cached (i := 0) rfl
    refine ⟨orderly, inside, by rwa [cached] at guarded, ?_⟩
    rw [← orderly.arranged.working.pulses_eq inside, empty]
    exact nofun
  | step c _ leaves unset allowed ih => exact ih.step leaves unset allowed

/-- Of a sequence that does not allow overlaps no two enabled pulses overlap. A pulse whose name no child
has is refused for an overlap if and only if it overlaps with an enabled pulse of the sequence, and the
first such pulse is named. -/
theorem disjoint_of_guarded (h : Guarded log now s r) :
    (∀ n ∈ r.pulses (r.nodeOf s), ∀ m ∈ r.pulses (r.nodeOf s), n ≠ m → r.isEnabled n = true →
      r.isEnabled m = true → (Pulse.overlaps n m r).1 = .ok false) ∧
    ∀ n ∈ r.inReach, ∀ name, (r.node n).name = some name →
      (r.node (r.nodeOf s)).children.contains name = false →
      ((∃ own other, (s.addPulse n r).1 = .error (.failed (.pulsesOverlap own other))) ↔
        ∃ m ∈ r.pulses (r.nodeOf s), r.isEnabled m = true ∧ (Pulse.overlaps n m r).1 = .ok true) ∧
      ∀ before m rest, r.pulses (r.nodeOf s) = before ++ m :: rest →
        (∀ k ∈ before, r.isEnabled k = true → (Pulse.overlaps n k r).1 = .ok false) →
        r.isEnabled m = true → (Pulse.overlaps n m r).1 = .ok true →
        ∃ other, (r.node m).name = some other ∧
          (s.addPulse n r).1 = .error (.failed (.pulsesOverlap name other)) := by
  have disjoint := h.disjoint
  have orderly := disjoint.orderly
  have arranged := orderly.arranged
  have members := arranged.working.pulses_eq disjoint.inside
  have reach (m : NodeId) (mem : m ∈ r.membersOf s) : m ∈ r.inReach := .inr ⟨s, disjoint.inside, mem⟩
  have overlaps {n m : NodeId} (hn : n ∈ r.inReach) (hm : m ∈ r.inReach) :
      (Pulse.overlaps n m r).1 = .ok (r.meet n m) := by
    obtain ⟨after, run, -⟩ := ((arranged.pulse n hn).overlaps_reads (orderly.settled.stop n hn)
      (arranged.pulse m hm) (orderly.settled.stop m hm)).run
    rw [run]
  rw [members]
  refine ⟨fun n hn m hm ne enabled enabled' => ?_, fun n hn name named free => ?_⟩
  · rw [overlaps (reach n hn) (reach m hm), disjoint.apart n hn m hm ne enabled enabled']
  have refused := disjoint.addPulse_refused hn named free
  have obstructs {m : NodeId} (hm : m ∈ r.membersOf s) : r.obstructs n m = true ↔
      r.isEnabled m = true ∧ (Pulse.overlaps n m r).1 = .ok true := by
    rw [overlaps hn (reach m hm), Registry.obstructs, Bool.and_eq_true, Except.ok.injEq]
  constructor
  · cases found : (r.membersOf s).find? (r.obstructs n) with
    | none =>
      rw [found] at refused
      refine iff_of_false ?_ ?_
      · rintro ⟨own, other, failed⟩
        exact refused own other failed
      · rintro ⟨m, hm, obstacle⟩
        exact List.find?_eq_none.mp found m hm ((obstructs hm).mpr obstacle)
    | some m =>
      rw [found] at refused
      have hm := List.mem_of_find?_eq_some found
      exact iff_of_true ⟨_, _, refused⟩ ⟨m, hm, (obstructs hm).mp (List.find?_some found)⟩
  · intro before m rest split free enabled meets
    have hm : m ∈ r.membersOf s := split ▸ List.mem_append_right _ List.mem_cons_self
    have found : (r.membersOf s).find? (r.obstructs n) = some m := by
      refine List.find?_eq_some_iff_append.mpr
        ⟨(obstructs hm).mpr ⟨enabled, meets⟩, before, rest, split, fun k mem => ?_⟩
      have hk : k ∈ r.membersOf s := split ▸ List.mem_append_left _ mem
      rw [Bool.not_eq_true', Bool.eq_false_iff, ne_eq, obstructs hk]
      rintro ⟨enabled, meets⟩
      rw [free k mem enabled] at meets
      cases meets
    rw [found] at refused
    obtain ⟨⟨key, _⟩, entry, rfl⟩ := List.mem_map.mp hm
    have own := (arranged.member s disjoint.inside key _ entry).2.1
    refine ⟨key, own, ?_⟩
    dsimp only at refused
    rw [own] at refused
    exact refused

/-- A second pulse that overlaps with the first one is refused by its name. -/
theorem disjoint_of_refused_pulse :
    let plan (name : String) (start : Integer) : PulsePlan := {
      name := some name
      start := some (.ofInteger start)
      duration := some (.ofInteger { val := 2 }) }
    let sequence : SequenceCommand := .createSequence "s" none
    let guard : SequenceCommand := .setSequence ⟨0⟩ .allowOverlap (.bool false)
    let first : SequenceCommand := .createPulse "p" (plan "p" { val := 0 })
    let second : SequenceCommand := .createPulse "q" (plan "q" { val := 1 })
    let add : SequenceCommand := .addPulse ⟨0⟩ ⟨1⟩
    let sequenced := (guard.act (sequence.act (start {} default)).2).2
    let made := (second.act (first.act sequenced).2).2
    let r := (add.act made).2
    r.pulses (r.nodeOf ⟨0⟩) = [⟨1⟩] ∧ (Pulse.overlaps ⟨2⟩ ⟨1⟩ r).1 = .ok true ∧
      (SequenceId.addPulse ⟨0⟩ ⟨2⟩ r).1 = .error (.failed (.pulsesOverlap "q" "p")) := by
  intro plan sequence guard first second add sequenced made r
  have handle : (sequence.act (start {} default)).2.bench.handles.values = [.sequence ⟨0⟩] := by
    decide +kernel
  have free : sequenced.bench.handles.contains "p" = false ∧
      (first.act sequenced).2.bench.handles.contains "q" = false := by decide +kernel
  have ran : Ran {} default (fun _ => True) _ made :=
    .step second (.step first (.step guard (.step sequence .start trivial rfl) trivial
      (by rw [Allows, handle]; exact List.mem_cons_self)) trivial free.1) trivial free.2
  have handles : made.bench.handles.values = [.sequence ⟨0⟩, .pulse ⟨1⟩, .pulse ⟨2⟩] := by
    decide +kernel
  have guarded : Guarded {} default ⟨0⟩ made :=
    .empty ran (by simp [handles]) (by decide +kernel) (by decide +kernel)
  have held : Guarded {} default ⟨0⟩ r :=
    .step add guarded trivial nofun ⟨by simp [handles], .inl (by simp [handles])⟩
  have members : r.pulses (r.nodeOf ⟨0⟩) = [⟨1⟩] := by decide +kernel
  have meets : (Pulse.overlaps ⟨2⟩ ⟨1⟩ r).1 = .ok true :=
    congrArg Prod.fst (Act.run_of_toOption (by decide +kernel))
  have second : .pulse ⟨2⟩ ∈ r.bench.handles.values := by decide +kernel
  obtain ⟨-, refused⟩ := (disjoint_of_guarded held).2 ⟨2⟩ (.inl second) "q" (by decide +kernel)
    (by decide +kernel)
  obtain ⟨other, named, run⟩ := refused [] ⟨1⟩ [] members nofun (by decide +kernel) meets
  have name : (r.node ⟨1⟩).name = some "p" := by decide +kernel
  obtain rfl : "p" = other := Option.some.inj (name.symm.trans named)
  exact ⟨members, meets, run⟩

end Registry
end LabRegistry

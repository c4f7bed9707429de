import LabRegistry.Proofs.Sequence.Copy
import LabRegistry.Proofs.Sequence.Disjoint

/-!
# Sequences that share no pulse

What is done with a sequence and its pulses leaves every sequence as it is that shares no pulse with
it. So a sequence and its copy go separate ways.
-/
namespace LabRegistry

open Registry

/-- The command makes no pulse neither enabled nor disabled. -/
def SequenceCommand.Decides : SequenceCommand → Prop
  | .setPulse _ .enabled v => v.isNull = false
  | _ => True

namespace Registry

variable {r mid after : Registry} {s t : SequenceId} {n m : NodeId} {c : SequenceCommand} {i : Nat}
  {guests : Set Listener} {log : Log} {now : Instant} {permitted : SequenceCommand → Prop}
  {past : List (SequenceId × Timing)}

/-! ## Pulses that are enabled or disabled -/

private theorem LeftAlone.decided (h : r.LeftAlone n after) (decided : r.Decided n) :
    after.Decided n := by
  have cached : r.cached n "enabled" = _ := h.ready.fitted.cached (i := 0) rfl
  have cached' : after.cached n "enabled" = _ := h.ready'.fitted.cached (i := 0) rfl
  rw [Decided, cached', h.first, h.value 0 (by decide), ← cached]
  exact decided

namespace Orderly

variable (h : r.Orderly ∅)

include h

private theorem decided_set (hm : m ∈ r.inReach) (hn : n ∈ r.inReach) {setting : PulseSetting}
    {v : Value}
    (decides : (SequenceCommand.setPulse m setting v).Decides) (decided : r.Decided n) :
    (m.set setting.name v r).2.Decided n := by
  have working := h.arranged.working
  have ready := h.arranged.pulse n hn
  have only := h.arranged.onlyRefreshes hm
  have cached : r.cached n "enabled" = (r.param ⟨r.firstParam n + 0⟩).value :=
    ready.fitted.cached (i := 0) rfl
  have timed (among : setting.name ∈ ["duration", "t_stop", "amplitude"] ∨ setting.name = "t_start") :
      (m.set setting.name v r).2.Decided n := by
    have kept := working.set_pulse_from h.settled hm only (k := 1)
      (among.imp (⟨·, by decide⟩) (⟨·, le_rfl⟩)) v
    refine working.decided_of_value hn kept.wiring (kept.others _ ?_) decided
    rintro (⟨j, hj, some, same⟩ | ⟨s, -, hs, same⟩)
    · exact ready.param_ne_of (h.arranged.pulse m hm) (by omega) (by decide) hj same
    · exact (h.arranged.sequence s hs).ne_durationOf ready (by decide) same
  cases setting with
  | enabled =>
    change (m.set "enabled" v r).2.Decided n
    obtain ⟨halt, run⟩ | ⟨after, run, took⟩ := working.set_enabled_run hm v
    all_goals rw [run]
    · exact decided
    · by_cases same : n = m
      · subst same
        have cached' : after.cached n "enabled" = _ :=
          (took.wiring.pulseReady ready).fitted.cached (i := 0) rfl
        rw [Decided, cached', took.wiring.firstParam, took.self]
        exact decides
      · refine working.decided_of_value hn took.wiring (took.others _ ?_) decided
        exact ready.param_ne (h.arranged.pulse m hm) same (by decide) (by decide)
  | start => exact timed (.inr rfl)
  | _ => exact timed (.inl (by decide))

end Orderly

private theorem Ran.decided (h : Ran log now SequenceCommand.Decides past r) :
    ∀ n ∈ r.inReach, r.Decided n := by
  induction h with
  | start =>
    rintro n (handle | ⟨s, hs, -⟩)
    · cases handle
    · exact absurd hs (Nat.not_lt_zero _)
  | @step past r c ran decides allowed ih =>
    intro n hn
    have orderly := ran.orderly
    have outcome := orderly.outcome allowed (.inl rfl)
    rcases outcome.reach n hn with old | ⟨-, -, decided⟩
    · by_cases leaves : c.LeavesPulses
      · exact (outcome.untouched orderly allowed leaves old hn).decided (ih n old)
      · cases c with
        | setPulse m setting v =>
          rw [SequenceCommand.act, Act.lift_state]
          exact orderly.decided_set allowed old decides (ih n old)
        | _ => exact absurd trivial leaves
    · exact decided

/-! ## What a command leaves of a sequence -/

/-- A sequence and its pulses are as they were, as far as this can be seen. -/
structure SameSequence (r : Registry) (s : SequenceId) (after : Registry) : Prop where
  owner : after.nodeOf s = r.nodeOf s
  children : (after.node (r.nodeOf s)).children = (r.node (r.nodeOf s)).children
  fixed : (after.sequence s).fixedDuration = (r.sequence s).fixedDuration
  settings : ∀ name, after.cached (r.nodeOf s) name = r.cached (r.nodeOf s) name
  pulses : ∀ n ∈ r.membersOf s, ∀ name, after.cached n name = r.cached n name

namespace SameSequence

private theorem refl : r.SameSequence s r := ⟨rfl, rfl, rfl, fun _ => rfl, fun _ _ _ => rfl⟩

private theorem membersOf (h : r.SameSequence s after) : after.membersOf s = r.membersOf s := by
  rw [Registry.membersOf, h.owner, h.children, Registry.membersOf]

private theorem trans (h : r.SameSequence s mid) (h' : mid.SameSequence s after) :
    r.SameSequence s after where
  owner := h'.owner.trans h.owner
  children := by
    rw [← h.owner, h'.children, h.owner, h.children]
  fixed := h'.fixed.trans h.fixed
  settings name := by
    rw [← h.owner, h'.settings, h.owner, h.settings]
  pulses n hn name := (h'.pulses n (h.membersOf ▸ hn) name).trans (h.pulses n hn name)

private theorem resembles (h : r.SameSequence s after) : r.Resembles s after s where
  overlap := by rw [h.owner, h.settings]
  delay := by rw [h.owner, h.settings]
  fixed := h.fixed
  members := by
    rw [h.owner, h.children]
    exact List.forall₂_same.mpr fun entry mem =>
      ⟨rfl, h.pulses entry.2 (List.mem_map_of_mem mem)⟩

end SameSequence

/-- The command is neither about the sequence nor about a pulse in it. -/
structure Avoids (r : Registry) (s : SequenceId) (c : SequenceCommand) : Prop where
  sequence : c.sequence? ≠ some s
  pulse : ∀ n, c.pulse? = some n → n ∉ r.membersOf s

namespace Avoids

variable (avoids : r.Avoids s c) (h : r.Orderly ∅) (allowed : r.Allows c)
  (hs : s.index < r.sequences.size)

include avoids h allowed hs

private theorem notMem_touched : s ∉ r.touched c := by
  rintro (⟨timing, done⟩ | missed)
  · exact avoids.sequence (SequenceCommand.sequence?_of_timing done)
  · unfold Registry.missed at missed
    split at missed
    · exact avoids.pulse _ rfl ((h.arranged.mem_hearers_iff allowed hs).mp missed)
    · exact missed

private theorem notMem_written {k : NodeId} (among : k = r.nodeOf s ∨ k ∈ r.membersOf s)
    (hi : i < 5) :
    ⟨r.firstParam k + i⟩ ∉ r.written c := by
  have ready := h.arranged.sequence s hs
  have pulse {m : NodeId} (mem : m ∈ r.membersOf s) := h.arranged.pulse m (.inr ⟨s, hs, mem⟩)
  have durations {told : Set SequenceId} (free : s ∉ told) :
      ⟨r.firstParam k + i⟩ ∉ r.durationsOf told := by
    rintro ⟨t, mem, ht, same⟩
    have other := h.arranged.sequence t ht
    rcases among with rfl | among
    · exact free (ready.param_inj other hi (j := 2) (by decide) same ▸ mem)
    · exact other.ne_durationOf (pulse among) hi same
  have settings {t : SequenceId} (about : c.sequence? = some t) :
      ⟨r.firstParam k + i⟩ ∉ r.paramsOf (r.nodeOf t) := by
    rintro ⟨j, hj, same⟩
    have other := h.arranged.sequence t ((h.offered t).mpr (allowed.handle about))
    rcases among with rfl | among
    · exact avoids.sequence (ready.param_inj other hi hj same ▸ about)
    · exact other.ne_param (pulse among) hi hj same
  have idle {t : SequenceId} (about : c.sequence? = some t) : ⟨r.firstParam k + i⟩ ∉ r.durationsOf {t} :=
    durations fun same => avoids.sequence (same ▸ about)
  cases c with
  | createPulse | createSequence => exact Set.notMem_empty _
  | addPulse | removePulse | clear => exact idle rfl
  | setSequence => exact fun mem => mem.elim (settings rfl) (idle rfl)
  | setPulse n =>
    have free := avoids.pulse n rfl
    have changed := h.arranged.pulse n allowed
    rintro (⟨j, hj, same⟩ | mem)
    · rcases among with rfl | among
      · exact ready.ne_param changed hj hi same.symm
      · have ne : k ≠ n := fun equal => free (equal ▸ among)
        exact (pulse among).param_ne changed ne hi hj same
    · exact durations (fun hears => free ((h.arranged.mem_hearers_iff allowed hs).mp hears)) mem

private theorem sameSequence : r.SameSequence s (c.act r).2 := by
  have outcome := h.outcome allowed (.inl rfl)
  have carries := outcome.carries
  have ready := h.arranged.sequence s hs
  have untouched := avoids.notMem_touched h allowed hs
  have owner := carries.owner s hs
  have inside := (h.arranged.owner s hs).inside
  have inside' := hs.trans_le carries.size
  have members := carries.membersOf hs untouched
  refine ⟨owner, carries.children s hs untouched, carries.fixed s hs untouched, fun name => ?_,
    fun n hn name => ?_⟩
  · have fitted := (outcome.orderly.arranged.sequence s inside').fitted
    rw [owner] at fitted
    refine ready.fitted.cached_eq fitted (fun i hi => ?_) name
    rw [firstParam_of_node (carries.parameters _ inside)]
    exact carries.others _ (avoids.notMem_written h allowed hs (.inl rfl) hi)
      ((Nat.add_lt_add_left hi _).trans_le ready.fitted.inside)
  · have old : n ∈ r.inReach := .inr ⟨s, hs, hn⟩
    have new : n ∈ (c.act r).2.inReach := .inr ⟨s, inside', members ▸ hn⟩
    exact carries.cached (h.arranged.pulse n old) (outcome.orderly.arranged.pulse n new)
      (h.arranged.placed n old).inside
      (fun i hi => avoids.notMem_written h allowed hs (.inr hn) hi) name

end Avoids

/-! ## Runs on one of two sequences -/

/-- What a user reaches with commands on sequences but one, on pulses of another one and on pulses that
the former does not have. -/
inductive Aside (r : Registry) (used spared : SequenceId) : Registry → Prop
  | start : Aside r used spared r
  | step {mid : Registry} (c : SequenceCommand) (earlier : Aside r used spared mid)
      (allowed : mid.Allows c) (sequence : c.sequence? ≠ some spared)
      (pulse : ∀ n, c.pulse? = some n → n ∈ mid.membersOf used ∨ n ∉ mid.membersOf spared) :
      Aside r used spared (c.act mid).2

/-- Both sequences are in order and share no pulse. -/
structure Separate (r : Registry) (s t : SequenceId) : Prop where
  orderly : r.Orderly ∅
  left : s.index < r.sequences.size
  right : t.index < r.sequences.size
  disjoint : List.Disjoint (r.membersOf s) (r.membersOf t)

private theorem Separate.symm (h : r.Separate s t) : r.Separate t s :=
  ⟨h.orderly, h.right, h.left, h.disjoint.symm⟩

private theorem Separate.step (h : r.Separate s t) (allowed : r.Allows c)
    (sequence : c.sequence? ≠ some t)
    (pulse : ∀ n, c.pulse? = some n → n ∈ r.membersOf s ∨ n ∉ r.membersOf t) :
    (c.act r).2.Separate s t ∧ r.SameSequence t (c.act r).2 := by
  have avoids : r.Avoids t c :=
    ⟨sequence, fun n about => (pulse n about).elim (fun mem => h.disjoint mem) id⟩
  have outcome := h.orderly.outcome allowed (.inl rfl)
  have same := avoids.sameSequence h.orderly allowed h.right
  refine ⟨⟨outcome.orderly, h.left.trans_le outcome.carries.size,
    h.right.trans_le outcome.carries.size, fun n mem mem' => ?_⟩, same⟩
  rw [same.membersOf] at mem'
  rcases outcome.members s h.left n mem with old | ⟨rfl, -⟩
  · exact h.disjoint old mem'
  · exact avoids.pulse n rfl mem'

private theorem Aside.separate (h : r.Aside s t after) (separate : r.Separate s t) :
    after.Separate s t ∧ r.SameSequence t after := by
  induction h with
  | start => exact ⟨separate, .refl⟩
  | step c _ allowed sequence pulse ih =>
    obtain ⟨separate', same'⟩ := ih.1.step allowed sequence pulse
    exact ⟨separate', ih.2.trans same'⟩

private theorem Aside.contents_eq (h : r.Aside s t after) (separate : r.Separate s t) :
    ((after.nodeOf t).contents after).1 = ((r.nodeOf t).contents r).1 := by
  obtain ⟨separate', same⟩ := h.separate separate
  have orderly := separate.orderly
  have orderly' := separate'.orderly
  have working := orderly.arranged.working
  have working' := orderly'.arranged.working
  have inside := (orderly.arranged.owner t separate.right).inside
  have inside' := (orderly'.arranged.owner t separate'.right).inside
  obtain ⟨mid, run, -⟩ := working.sequence_contents_run orderly.settled separate.right
    (Nat.zero_lt_of_lt inside) (.unchanged r)
  obtain ⟨mid', run', -⟩ := working'.sequence_contents_run orderly'.settled separate'.right
    (Nat.zero_lt_of_lt inside') (.unchanged after)
  rw [run, run', same.resembles.sequenceReport working separate.right working' separate'.right]

/-! ## A sequence and its copy -/

private theorem Resembles.of_same (h : r.Resembles s after t) (same : r.SameSequence s mid) :
    mid.Resembles s after t where
  overlap := by rw [h.overlap, same.owner, same.settings]
  delay := by rw [h.delay, same.owner, same.settings]
  fixed := h.fixed.trans same.fixed.symm
  members := by
    rw [same.owner, same.children]
    refine List.forall₂_iff_get.mpr ⟨h.members.length_eq, fun i hi hi' => ?_⟩
    obtain ⟨name, values⟩ := (List.forall₂_iff_get.mp h.members).2 i hi hi'
    exact ⟨name, fun key => (values key).trans
      (same.pulses _ (List.mem_map_of_mem (List.get_mem _ _)) key).symm⟩

private theorem Duplicates.keep {more : Set NodeId} {handle : String}
    (d : r.Duplicates ∅ s more after)
    (h : r.Orderly ∅) (hs : s.index < r.sequences.size)
    (free : r.bench.handles.contains handle = false) (inUse : List NodeId) :
    let kept := keep { after with inUse } handle (.sequence ⟨r.sequences.size⟩)
    kept.Separate s ⟨r.sequences.size⟩ ∧ r.SameSequence s kept ∧
      kept.Resembles s kept ⟨r.sequences.size⟩ := by
  intro kept
  have same : r.SameHandles { after with inUse } := d.handles
  have handles : kept.bench.handles.values =
      r.bench.handles.values ++ [.sequence ⟨r.sequences.size⟩] :=
    sameHandles_keep same free
  obtain ⟨orderly, -, -⟩ : kept.Orderly ∅ ∧ _ := d.arranged.orderly_of_held d.settled inUse kept.bench
    (fun n handle => by
      rw [handles] at handle
      exact d.among (.inl (by simpa using handle)))
    fun t => by
      rw [d.size, handles, List.mem_append, ← h.offered, List.mem_singleton, Object.sequence.injEq,
        Nat.lt_succ_iff_lt_or_eq]
      exact or_congr_right ⟨fun last => by rw [← last], fun last => by rw [last]⟩
  have stays : r.Stays kept := d.stays.held _ _
  have inside := (h.arranged.owner s hs).inside
  have left : s.index < kept.sequences.size := hs.trans_le stays.sequences
  have owner := stays.owner s hs
  have same : r.SameSequence s kept := by
    refine ⟨owner, by rw [stays.node _ inside], stays.fixed s hs, fun name => ?_, fun n hn name => ?_⟩
    · exact stays.cached (h.arranged.sequence s hs).fitted
        (owner ▸ (orderly.arranged.sequence s left).fitted) inside name
    · have old : n ∈ r.inReach := .inr ⟨s, hs, hn⟩
      have new : n ∈ kept.inReach := .inr ⟨s, left, stays.membersOf h.arranged hs ▸ hn⟩
      exact stays.cached (h.arranged.pulse n old).fitted (orderly.arranged.pulse n new).fitted
        (h.arranged.placed n old).inside name
  have resembles : r.Resembles s kept ⟨r.sequences.size⟩ := d.resembles.held _ _
  refine ⟨⟨orderly, left, ?_, fun n mem mem' => ?_⟩, same, resembles.of_same same⟩
  · change r.sequences.size < after.sequences.size
    rw [d.size]
    exact Nat.lt_succ_self _
  · rw [stays.membersOf h.arranged hs] at mem
    exact absurd (h.arranged.placed n (.inr ⟨s, hs, mem⟩)).inside (not_lt.mpr (d.new n mem'))

/-- However pulses and sequences are used, as long as no pulse is set to be neither enabled nor disabled,
a copy of a sequence succeeds. It is equal to the original, which stays as it was, and has none of its
pulses, and whatever is done with one of the two later leaves the other one as it is. -/
theorem sequence_copy_of_ran (h : Ran log now SequenceCommand.Decides past r)
    (offered : .sequence s ∈ r.bench.handles.values) {handle : String}
    (free : r.bench.handles.contains handle = false) :
    ∃ t copied, s.copy r = (.ok t, copied) ∧
      let kept := copied.keep handle (.sequence t)
      r.SameSequence s kept ∧
      (∃ after, (kept.nodeOf s).sameContents (kept.nodeOf t) kept = (.ok true, after)) ∧
      List.Disjoint (kept.pulses (kept.nodeOf s)) (kept.pulses (kept.nodeOf t)) ∧
      ∀ used spared, (used, spared) ∈ [(s, t), (t, s)] → ∀ after, kept.Aside used spared after →
        kept.SameSequence spared after ∧
          ((after.nodeOf spared).contents after).1 = ((kept.nodeOf spared).contents kept).1 := by
  have orderly := h.orderly
  have hs := (orderly.offered s).mpr offered
  obtain ⟨more, mid, run, duplicates⟩ := orderly.copy_run h.sound hs fun n mem =>
    h.decided n (.inr ⟨s, hs, mem⟩)
  refine ⟨⟨r.sequences.size⟩, _, run, ?_⟩
  intro kept
  obtain ⟨separate, same, resembles⟩ : kept.Separate s ⟨r.sequences.size⟩ ∧ r.SameSequence s kept ∧
    kept.Resembles s kept ⟨r.sequences.size⟩ := duplicates.keep orderly hs free r.inUse
  have working := separate.orderly.arranged.working
  have sound : kept.Sound := by
    have copied := (s.copy_changes r).staysSound h.sound
    rw [run] at copied
    exact copied
  refine ⟨same, ?_, ?_, fun used spared pair after aside => ?_⟩
  · exact working.sameContents_of_resembles separate.orderly.settled separate.left separate.right sound
      (Nat.zero_lt_of_lt (separate.orderly.arranged.owner s separate.left).inside) resembles
  · rw [working.pulses_eq separate.left, working.pulses_eq separate.right]
    exact separate.disjoint
  · have apart : kept.Separate used spared := by
      simp only [List.mem_cons, Prod.mk.injEq, List.not_mem_nil, or_false] at pair
      rcases pair with ⟨rfl, rfl⟩ | ⟨rfl, rfl⟩
      · exact separate
      · exact separate.symm
    exact ⟨(aside.separate apart).2, aside.contents_eq apart⟩

/-- A pulse of the original is moved, and the copy, which was equal, does not follow. -/
theorem sequence_copy_of_moved_pulse :
    let plan : PulsePlan := {
      name := some "p"
      start := some (.ofInteger { val := 1 })
      duration := some (.ofInteger { val := 2 }) }
    let sequence : SequenceCommand := .createSequence "s" none
    let pulse : SequenceCommand := .createPulse "p" plan
    let add : SequenceCommand := .addPulse ⟨0⟩ ⟨1⟩
    let move : SequenceCommand := .setPulse ⟨1⟩ .start (.ofInteger { val := 5 })
    let made := (pulse.act (sequence.act (start {} default)).2).2
    let r := (add.act made).2
    let kept := (SequenceId.copy ⟨0⟩ r).2.keep "c" (.sequence ⟨1⟩)
    let after := (move.act kept).2
    (∃ last, (kept.nodeOf ⟨0⟩).sameContents (kept.nodeOf ⟨1⟩) kept = (.ok true, last)) ∧
      (after.memberStops ⟨0⟩).map Double.units? = [some (7 * 2 ^ 1074)] ∧
      (after.memberStops ⟨1⟩).map Double.units? = [some (3 * 2 ^ 1074)] ∧
      kept.SameSequence ⟨1⟩ after := by
  intro plan sequence pulse add move made r kept after
  have handle : (sequence.act (start {} default)).2.bench.handles.contains "p" = false := by
    decide +kernel
  have handles : made.bench.handles.values = [.sequence ⟨0⟩, .pulse ⟨1⟩] ∧
      r.bench.handles.values = [.sequence ⟨0⟩, .pulse ⟨1⟩] ∧
      r.bench.handles.contains "c" = false := by decide +kernel
  have ran : Ran {} default SequenceCommand.Decides _ r :=
    .step add (.step pulse (.step sequence .start trivial rfl) trivial handle) trivial
      ⟨by simp [handles.1], .inl (by simp [handles.1])⟩
  obtain ⟨t, copied, run, -, same, -, later⟩ :=
    sequence_copy_of_ran ran (s := ⟨0⟩) (by simp [handles.2.1]) handles.2.2
  have made' : SequenceId.copy ⟨0⟩ r = (.ok ⟨1⟩, (SequenceId.copy ⟨0⟩ r).2) :=
    Act.run_of_toOption (by decide +kernel)
  rw [made', Prod.mk.injEq, Except.ok.injEq] at run
  obtain ⟨rfl, rfl⟩ := run
  have reach : .pulse ⟨1⟩ ∈ kept.bench.handles.values ∧ ⟨1⟩ ∈ kept.membersOf ⟨0⟩ := by decide +kernel
  have aside : kept.Aside ⟨0⟩ ⟨1⟩ after :=
    .step move .start (.inl reach.1) nofun fun n about => by
      cases about
      exact .inl reach.2
  refine ⟨same, by decide +kernel, by decide +kernel, (later _ _ List.mem_cons_self _ aside).1⟩

end Registry
end LabRegistry

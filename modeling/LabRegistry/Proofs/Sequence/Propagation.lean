import LabRegistry.Proofs.Sequence.Refresh

/-!
# How values reach the durations of sequences

A stop that changed refreshes every sequence that listens to it. A sequence that does not listen has
no such member, and a stop that did not change is not missed. So no sequence whose duration was as it
should be is left behind, and nothing but the stop and the durations that listen to it is written.
-/
namespace LabRegistry

open Registry

variable {r mid after : Registry} {n : NodeId} {s t : SequenceId} {p : ParamId} {v : Value}
  {pulses : Set NodeId} {written : Set ParamId} {fuel : Nat}

namespace Registry

/-- The stop of a pulse has no listeners but those that refresh sequences. -/
def OnlyRefreshes (r : Registry) (n : NodeId) : Prop :=
  ∀ entry ∈ (r.param (r.stopOf n)).listeners, ∃ s : SequenceId,
    s.index < r.sequences.size ∧ entry.2 = r.refresher s

def durationsOf (r : Registry) (told : Set SequenceId) : Set ParamId :=
  {p | ∃ s ∈ told, s.index < r.sequences.size ∧ p = r.durationOf s}

namespace SameWiring

variable (h : r.SameWiring after)

include h

theorem onlyRefreshes (only : r.OnlyRefreshes n) : after.OnlyRefreshes n := by
  rw [OnlyRefreshes, h.stopOf, h.listeners, h.sequences]
  simp only [h.refresher]
  exact only

theorem durationsOf (told : Set SequenceId) : after.durationsOf told = r.durationsOf told := by
  simp only [Registry.durationsOf, h.durationOf, h.sequences]

end SameWiring

/-! ## Telling the listeners of a stop -/

/-- The sequences that are told got their durations anew, and nothing else was touched. -/
structure Refreshed (r : Registry) (told : Set SequenceId) (after : Registry) : Prop where
  wiring : r.SameWiring after
  bench : after.bench = r.bench
  durations : ∀ s ∈ told, s.index < r.sequences.size →
    (after.param (r.durationOf s)).value = r.durationValue s
  others : ∀ p, p ∉ r.durationsOf told → (after.param p).value = (r.param p).value

theorem Took.refreshed (took : r.Took (r.durationOf s) (r.durationValue s) after)
    (hs : s.index < r.sequences.size) : r.Refreshed {s} after where
  wiring := took.wiring
  bench := took.bench
  durations t same _ := by
    rw [Set.mem_singleton_iff.mp same, took.self]
  others p free := took.others p fun same => free ⟨s, rfl, hs, same⟩

namespace Working

variable (h : r.Working pulses)

include h

private theorem samePulses_of_refreshed {told : Set SequenceId}
    (refreshed : r.Refreshed told after) :
    r.SamePulses pulses after := by
  intro n hn i hi
  refine refreshed.others _ ?_
  rintro ⟨s, -, hs, same⟩
  exact (h.sequence s hs).ne_durationOf (h.pulse n hn) (by omega) same

private theorem samePulses_of_took (hs : s.index < r.sequences.size)
    (took : r.Took (r.durationOf s) (r.durationValue s) after) : r.SamePulses pulses after :=
  h.samePulses_of_refreshed (took.refreshed hs)

variable (settled : r.Settled pulses)

include settled

theorem tell_run {entries : List (ListenerId × Listener)} (enough : 6 ≤ fuel) (v : Value)
    (all : ∀ entry ∈ entries, ∃ s : SequenceId,
      s.index < r.sequences.size ∧ entry.2 = r.refresher s) :
    ∃ after, (entries.forM fun entry => ParamId.tell (engine fuel) v entry.2) r =
        (.ok (), after) ∧
      r.Refreshed {s | ∃ entry ∈ entries, entry.2 = r.refresher s} after := by
  induction entries generalizing r with
  | nil =>
    refine ⟨r, rfl, refl r, rfl, ?_, fun _ _ => rfl⟩
    rintro s ⟨_, mem, -⟩
    cases mem
  | cons entry rest ih =>
    obtain ⟨s, hs, told⟩ := all entry List.mem_cons_self
    obtain ⟨mid, run, took⟩ := h.refreshOwned_run settled hs enough v
    have wiring := took.wiring
    have same := h.samePulses_of_took hs took
    obtain ⟨after, rest_run, refreshed⟩ := ih (wiring.working h)
      (settled.of_values wiring same) fun entry mem => by
        simp only [wiring.sequences, wiring.refresher]
        exact all entry (List.mem_cons_of_mem _ mem)
    have heard : {t | ∃ entry ∈ rest, entry.2 = mid.refresher t} =
        {t | ∃ entry ∈ rest, entry.2 = r.refresher t} := by
      simp only [wiring.refresher]
    rw [heard] at refreshed
    have rest_told {t : SequenceId} (mem : t ∈ {t | ∃ entry ∈ rest, entry.2 = r.refresher t}) :
        t ∈ {t | ∃ other ∈ entry :: rest, other.2 = r.refresher t} := by
      obtain ⟨other, among, heard⟩ := mem
      exact ⟨other, List.mem_cons_of_mem _ among, heard⟩
    refine ⟨after, ?_, IsTrans.trans _ _ _ wiring refreshed.wiring, refreshed.bench.trans took.bench,
      fun t mem ht => ?_, fun p free => ?_⟩
    · change (ParamId.tell (engine fuel) v entry.2 >>= fun _ => rest.forM _) r = _
      rw [Act.bind_run, told, run]
      exact rest_run
    · by_cases later : t ∈ {t | ∃ entry ∈ rest, entry.2 = r.refresher t}
      · have anew := refreshed.durations t later (by rwa [wiring.sequences])
        rwa [wiring.durationOf, h.durationValue_of wiring same ht] at anew
      · -- Nobody tells the sequence later, so it is the one that was told just now.
        obtain ⟨other, among, heard⟩ := mem
        have first : t = s := by
          rcases List.mem_cons.mp among with rfl | among
          · exact (h.sequence t ht).refresher_inj (h.sequence s hs) (heard.symm.trans told)
          · exact absurd ⟨other, among, heard⟩ later
        subst first
        refine (refreshed.others _ ?_).trans took.self
        rintro ⟨u, told, hu, same⟩
        rw [wiring.sequences] at hu
        rw [wiring.durationOf] at same
        exact later ((h.sequence t ht).durationOf_inj (h.sequence u hu) same ▸ told)
    · have kept : (mid.param p).value = (r.param p).value :=
        took.others p fun same => free ⟨s, ⟨entry, List.mem_cons_self, told⟩, hs, same⟩
      refine (refreshed.others p ?_).trans kept
      rw [wiring.durationsOf]
      rintro ⟨t, mem, ht, same⟩
      exact free ⟨t, rest_told mem, ht, same⟩

theorem announce_stop_run (only : r.OnlyRefreshes n) (enough : 6 ≤ fuel) :
    ∃ after, (r.stopOf n).announce (engine fuel) r = (.ok (), after) ∧
      r.Refreshed (r.hearers n) after :=
  h.tell_run settled enough (r.param (r.stopOf n)).value only

theorem announce_stop_split {before rest : List (ListenerId × Listener)}
    {entry : ListenerId × Listener} (enough : 6 ≤ fuel)
    (heard : (r.param (r.stopOf n)).listeners = before ++ entry :: rest)
    (refreshes : ∀ other ∈ before, ∃ s : SequenceId,
      s.index < r.sequences.size ∧ other.2 = r.refresher s) :
    ∃ mid, r.Refreshed {s | ∃ other ∈ before, other.2 = r.refresher s} mid ∧
      (r.stopOf n).announce (engine fuel) r = (do
        ParamId.tell (engine fuel) (r.param (r.stopOf n)).value entry.2
        rest.forM fun other => ParamId.tell (engine fuel) (r.param (r.stopOf n)).value other.2 :
          Act RegistryError Unit) mid := by
  obtain ⟨mid, told, refreshed⟩ :=
    h.tell_run settled enough (r.param (r.stopOf n)).value refreshes
  refine ⟨mid, refreshed, ?_⟩
  have parted (f : ListenerId × Listener → Act RegistryError Unit) :
      (before ++ entry :: rest).forM f = (do before.forM f; (entry :: rest).forM f) :=
    List.forM_append
  rw [ParamId.announce, Act.bind_run, ParamId.state_run]
  dsimp only
  rw [heard, parted, Act.bind_run, told]
  rfl

theorem timed_of_refreshed {told : Set SequenceId} (refreshed : r.Refreshed told after)
    (hs : s.index < r.sequences.size) (timed : s ∈ told ∨ r.Timed s) : after.Timed s := by
  have wiring := refreshed.wiring
  have same := h.samePulses_of_refreshed refreshed
  have stops : ∀ n ∈ r.membersOf s, after.stopUnits n = r.stopUnits n :=
    fun n mem => same.stopUnits wiring h (h.mem_of_member hs mem)
  by_cases hears : s ∈ told
  · obtain ⟨x, value, count⟩ := settled.durationValue s
    have units := h.durationUnits_of_wiring wiring hs stops
    exact ⟨x, by rw [wiring.durationOf, refreshed.durations s hears hs, value], by rw [units, count]⟩
  · refine h.timed_of wiring hs (refreshed.others _ ?_) stops (timed.resolve_left hears)
    rintro ⟨t, told, ht, same⟩
    exact hears ((h.sequence s hs).durationOf_inj (h.sequence t ht) same ▸ told)

end Working

/-! ## Leaving no sequence behind -/

/-- Only some caches were written, and all stops are up to date. -/
structure Writes (r : Registry) (pulses : Set NodeId) (written : Set ParamId) (after : Registry) :
    Prop where
  wiring : r.SameWiring after
  bench : after.bench = r.bench
  settled : after.Settled pulses
  others : ∀ p ∉ written, (after.param p).value = (r.param p).value

/-- Besides, sequences that were as they should are so again. -/
structure Maintained (r : Registry) (pulses : Set NodeId) (written : Set ParamId)
    (after : Registry) : Prop extends r.Writes pulses written after where
  timed : ∀ s : SequenceId, s.index < r.sequences.size → r.Timed s → after.Timed s

namespace Maintained

theorem of_settled (settled : r.Settled pulses) : r.Maintained pulses written r :=
  ⟨⟨refl r, rfl, settled, fun _ _ => rfl⟩, fun _ _ timed => timed⟩

theorem mono {written' : Set ParamId} (h : r.Maintained pulses written after)
    (le : written ⊆ written') : r.Maintained pulses written' after :=
  { h with others := fun p free => h.others p fun mem => free (le mem) }

theorem trans (h : r.Maintained pulses written mid) (h' : mid.Maintained pulses written after) :
    r.Maintained pulses written after where
  wiring := IsTrans.trans _ _ _ h.wiring h'.wiring
  bench := h'.bench.trans h.bench
  settled := h'.settled
  others p free := (h'.others p free).trans (h.others p free)
  timed s hs timed := h'.timed s (by rwa [h.wiring.sequences]) (h.timed s hs timed)

end Maintained

theorem Settled.writes_of_took (settled : r.Settled pulses) (took : r.Took p v after)
    (times : ∀ n ∈ pulses, ∀ i, 1 ≤ i → i < 4 → p ≠ ⟨r.firstParam n + i⟩) :
    r.Writes pulses {p} after where
  wiring := took.wiring
  bench := took.bench
  settled := {
    stop := fun n hn => took.wiring.stopCurrent (settled.stop n hn) fun i least hi =>
      took.others _ (times n hn i least hi).symm
    fixed := fun s duration fixed => by
      rw [took.wiring.sequence] at fixed
      exact settled.fixed s duration fixed }
  others p free := took.others p free

namespace Working

variable (h : r.Working pulses)

include h

theorem maintained_of_refreshed {told : Set SequenceId} (settled : r.Settled pulses)
    (refreshed : r.Refreshed told after) : r.Maintained pulses (r.durationsOf told) after where
  wiring := refreshed.wiring
  bench := refreshed.bench
  settled := settled.of_values refreshed.wiring (h.samePulses_of_refreshed refreshed)
  timed _ hs timed := h.timed_of_refreshed settled refreshed hs (.inr timed)
  others := refreshed.others

theorem maintained_of_sameState (settled : r.Settled pulses) (same : r.SameState after) :
    r.Maintained pulses written after where
  wiring := same.wiring
  bench := same.bench
  settled := settled.of_values same.wiring same.samePulses
  timed _ hs timed := h.timed_of same.wiring hs (same.value _)
    (fun _ mem => same.samePulses.stopUnits same.wiring h (h.mem_of_member hs mem)) timed
  others p _ := same.value p

theorem maintained_of_took (settled : r.Settled pulses) (took : r.Took p v after)
    (sequences : ∀ s : SequenceId, s.index < r.sequences.size → p ≠ r.durationOf s)
    (times : ∀ n ∈ pulses, ∀ i, 1 ≤ i → i < 4 → p ≠ ⟨r.firstParam n + i⟩)
    (enabled : ∀ s : SequenceId, s.index < r.sequences.size →
      ∀ n ∈ r.membersOf s, p ≠ ⟨r.firstParam n⟩) : r.Maintained pulses {p} after where
  toWrites := settled.writes_of_took took times
  timed s hs timed := by
    refine h.timed_of took.wiring hs (took.others _ (sequences s hs).symm) (fun n mem => ?_) timed
    have hn := h.mem_of_member hs mem
    exact h.stopUnits_of took.wiring hn (took.others _ (enabled s hs n mem).symm)
      (congrArg _ (took.others _ (times n hn 3 (by decide) (by decide)).symm))

/-! ### Stops -/

section

variable (others : r.Settled (pulses \ {n})) (hn : n ∈ pulses)

include others hn

theorem settled_of_took_stop
    (took : r.Took (r.stopOf n) (r.stopValue (r.firstParam n)) after) : after.Settled pulses where
  stop m hm := by
    by_cases same : m = n
    · subst same
      exact took.stopCurrent
    · exact took.wiring.stopCurrent (others.stop m ⟨hm, same⟩) fun i _ hi =>
        took.others _ ((h.pulse m hm).param_ne (j := 3) (h.pulse n hn) same (by omega) (by decide))
  fixed s duration fixed := by
    rw [took.wiring.sequence] at fixed
    exact others.fixed s duration fixed

theorem timed_of_took_stop (took : r.Took (r.stopOf n) v after) (hs : s.index < r.sequences.size)
    (same : n ∈ r.membersOf s → v.units? = (r.param (r.stopOf n)).value.units?)
    (timed : r.Timed s) : after.Timed s := by
  have ready := h.pulse n hn
  refine h.timed_of took.wiring hs
    (took.others _ ((h.sequence s hs).ne_durationOf (i := 3) ready (by decide)).symm)
    (fun m mem => ?_) timed
  have hm := h.mem_of_member hs mem
  have enabled := (h.pulse m hm).param_ne_of (i := 0) (j := 3) ready (by decide) (by decide) (by decide)
  refine h.stopUnits_of took.wiring hm (took.others _ enabled) ?_
  by_cases self : m = n
  · subst self
    rw [took.self, same mem]
  · exact congrArg _ (took.others _
      ((h.pulse m hm).param_ne (i := 3) (j := 3) ready self (by decide) (by decide)))

/-- Where start and duration of one pulse are ahead of its stop, taking the stop over and telling its
listeners, if it changed, leaves no sequence behind. -/
theorem follow_stop_run (only : r.OnlyRefreshes n) (enough : 6 ≤ fuel)
    (took : r.Took (r.stopOf n) (r.stopValue (r.firstParam n)) mid) :
    ∃ after, (if r.stopValue (r.firstParam n) == (r.param (r.stopOf n)).value then (.ok (), mid)
        else (r.stopOf n).announce (engine fuel) mid) = (.ok (), after) ∧
      r.Maintained pulses (insert (r.stopOf n) (r.durationsOf (r.hearers n))) after := by
  have settled := h.settled_of_took_stop others hn took
  have wiring := took.wiring
  cases unchanged : r.stopValue (r.firstParam n) == (r.param (r.stopOf n)).value with
  | true =>
    refine ⟨mid, rfl, ⟨wiring, took.bench, settled, fun p free => ?_⟩, fun s hs timed => ?_⟩
    · exact took.others p fun same => free (.inl same)
    · exact h.timed_of_took_stop others hn took hs (fun _ => Value.units?_of_eq unchanged) timed
  | false =>
    have h' := wiring.working h
    obtain ⟨after, announced, refreshed⟩ :=
      h'.announce_stop_run settled (wiring.onlyRefreshes only) enough
    rw [wiring.stopOf] at announced
    rw [wiring.hearers] at refreshed
    have maintained := h'.maintained_of_refreshed settled refreshed
    refine ⟨after, announced, ⟨IsTrans.trans _ _ _ wiring refreshed.wiring,
      refreshed.bench.trans took.bench, maintained.settled, fun p free => ?_⟩, fun s hs timed => ?_⟩
    · refine (maintained.others p fun mem => free (.inr ?_)).trans
        (took.others p fun same => free (.inl same))
      rwa [wiring.durationsOf] at mem
    · refine h'.timed_of_refreshed settled refreshed (by rwa [wiring.sequences]) ?_
      by_cases hears : s ∈ r.hearers n
      · exact .inl hears
      · exact .inr (h.timed_of_took_stop others hn took hs
          (fun mem => absurd (h.member s hs n mem).2 hears) timed)

end

end Working
end Registry
end LabRegistry

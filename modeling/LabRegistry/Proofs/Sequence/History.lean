import LabRegistry.Proofs.Sequence.Commands

/-!
# Durations along a run

What happened to the durations of sequences is recorded along a run of commands. From the first
pulse that is added on, the cached duration of a sequence is the one that the record says is fixed,
and else the last stop of the enabled pulses.
-/
namespace LabRegistry

open Registry

/-- What a user reaches with permitted commands, and what happened to durations meanwhile, the
latest last. -/
inductive Registry.Ran (log : Log) (now : Instant) (permitted : SequenceCommand → Prop) :
    List (SequenceId × Timing) → Registry → Prop
  | start : Ran log now permitted [] (.start log now)
  | step {past : List (SequenceId × Timing)} {r : Registry} (c : SequenceCommand)
      (ran : Ran log now permitted past r) (permits : permitted c) (allowed : r.Allows c) :
      Ran log now permitted (past ++ (c.timing? r).toList) (c.act r).2

/-- The command neither enables nor disables a pulse. -/
def SequenceCommand.LeavesEnabled : SequenceCommand → Prop
  | .setPulse _ .enabled _ => False
  | _ => True

/-- The duration that is fixed if the last thing that happened to the sequence fixed it. -/
def override (past : List (SequenceId × Timing)) (s : SequenceId) : Option Double :=
  (past.filter (·.1 = s)).getLast?.bind (·.2.fixed?)

variable {past : List (SequenceId × Timing)} {s t : SequenceId} {timing : Timing}
  {r : Registry} {log : Log} {now : Instant} {permitted : SequenceCommand → Prop}
  {c : SequenceCommand}

private theorem override_append_self : override (past ++ [(s, timing)]) s = timing.fixed? := by
  simp [override]

private theorem override_append_of_ne (ne : t ≠ s) :
    override (past ++ [(t, timing)]) s = override past s := by
  simp [override, ne]

private theorem override_of_unknown (unknown : ∀ timing, (s, timing) ∉ past) :
    override past s = none := by
  have nothing : past.filter (·.1 = s) = [] := by
    refine List.filter_eq_nil_iff.mpr fun event mem same => ?_
    exact unknown event.2 (of_decide_eq_true same ▸ mem)
  rw [override, nothing]
  rfl

namespace Registry

theorem Ran.orderly (h : Ran log now permitted past r) : r.Orderly ∅ := by
  induction h with
  | start => exact orderly_start (fun _ => Set.notMem_empty _) log now
  | step c _ _ allowed ih => exact (ih.outcome allowed (.inl rfl)).orderly

private theorem Orderly.inside_of_timing (h : r.Orderly ∅) (allowed : r.Allows c)
    (done : c.timing? r = some (s, timing)) : s.index < r.sequences.size :=
  (h.offered s).mpr (allowed.handle (SequenceCommand.sequence?_of_timing done))

/-- The record tells which durations are fixed, and the sequences that pulses were added to have the
durations that they should have. -/
structure Accounted (past : List (SequenceId × Timing)) (r : Registry) : Prop where
  known : ∀ s timing, (s, timing) ∈ past → s.index < r.sequences.size
  fixed : ∀ s, (r.sequence s).fixedDuration = override past s
  timed : ∀ s, (s, .added) ∈ past → r.Timed s

private theorem Accounted.step (h : Accounted past r) (orderly : r.Orderly ∅) (allowed : r.Allows c)
    (heard : r.missed c = ∅) : Accounted (past ++ (c.timing? r).toList) (c.act r).2 := by
  have outcome := orderly.outcome allowed (.inl rfl)
  have carries := outcome.carries
  have size := carries.size
  -- A sequence of which nothing is recorded now is as it was.
  have rest (s : SequenceId) (spared : ∀ timing, c.timing? r ≠ some (s, timing)) :
      (((c.act r).2).sequence s).fixedDuration = override past s ∧
        ((s, .added) ∈ past → ((c.act r).2).Timed s) := by
    have untouched : s ∉ r.touched c := by
      rintro (⟨timing, done⟩ | missed)
      · exact spared timing done
      · rw [heard] at missed
        exact missed
    refine ⟨?_, fun added => ?_⟩
    · by_cases old : s.index < r.sequences.size
      · rw [carries.fixed s old untouched, h.fixed]
      · rw [override_of_unknown fun timing mem => old (h.known s timing mem)]
        by_cases new : s.index < (c.act r).2.sequences.size
        · exact carries.free s (not_lt.mp old) new
        · exact fixedDuration_of_size_le (not_lt.mp new)
    · exact carries.timed s (h.known s _ added) untouched (h.timed s added)
  cases done : c.timing? r with
  | none =>
    rw [Option.toList_none, List.append_nil]
    have spared (s : SequenceId) (timing : Timing) : c.timing? r ≠ some (s, timing) := by
      rw [done]
      exact nofun
    exact ⟨fun s timing mem => (h.known s timing mem).trans_le size, fun s => (rest s (spared s)).1,
      fun s => (rest s (spared s)).2⟩
  | some event =>
    obtain ⟨t, timing⟩ := event
    have retimed := outcome.retimed t timing done
    have inside := orderly.inside_of_timing allowed done
    rw [Option.toList_some]
    refine ⟨fun s timing' mem => ?_, fun s => ?_, fun s added => ?_⟩
    · rcases List.mem_append.mp mem with old | new
      · exact (h.known s timing' old).trans_le size
      · cases List.mem_singleton.mp new
        exact inside.trans_le size
    all_goals
      by_cases same : t = s
      · subst same
        first
          | exact retimed.1.trans override_append_self.symm
          | exact retimed.2
      have spared (timing' : Timing) : c.timing? r ≠ some (s, timing') := by
        rw [done]
        rintro ⟨⟩
        exact same rfl
    · rw [override_append_of_ne same]
      exact (rest s spared).1
    · refine (rest s spared).2 ((List.mem_append.mp added).resolve_right fun new => ?_)
      cases List.mem_singleton.mp new
      exact same rfl

private theorem Ran.accounted (h : Ran log now SequenceCommand.LeavesEnabled past r) :
    Accounted past r := by
  induction h with
  | start =>
    refine ⟨nofun, fun s => ?_, nofun⟩
    exact fixedDuration_of_size_le (Nat.zero_le _)
  | @step past r c ran permits allowed ih =>
    refine ih.step ran.orderly allowed ?_
    unfold missed
    split
    · exact permits.elim
    · rfl

/-- As long as no pulse is enabled or disabled after it was made, a duration is fixed if and only if
a set to a number was the last of what is recorded of the sequence, and from the first added pulse on
the cached duration is the fixed one, or else the largest of zero and the stops of the enabled pulses,
which are their starts plus their durations. -/
theorem duration_of_ran (h : Ran log now SequenceCommand.LeavesEnabled past r)
    (s : SequenceId) : (r.sequence s).fixedDuration = override past s ∧
      ((s, .added) ∈ past →
        (∀ n ∈ r.pulses (r.nodeOf s), r.cached n "t_stop" =
          ((r.cached n "t_start").add? (r.cached n "duration")).getD .null) ∧
        ∃ x, r.cached (r.nodeOf s) "duration" = .number (.float x) ∧
          match override past s with
          | some duration => (Double.finite x).eq duration = true
          | none => (Double.finite x).IsLargest (.zero :: r.memberStops s)) := by
  have orderly := h.orderly
  have working := orderly.arranged.working
  have accounted := h.accounted
  have fixed := accounted.fixed s
  refine ⟨fixed, fun added => ?_⟩
  have hs := accounted.known s _ added
  constructor
  · intro n mem
    rw [working.pulses_eq hs] at mem
    have hn := working.mem_of_member hs mem
    have ready := working.pulse n hn
    have start : r.cached n "t_start" = _ := ready.fitted.cached (i := 1) rfl
    have duration : r.cached n "duration" = _ := ready.fitted.cached (i := 2) rfl
    rw [ready.cached_stop, orderly.settled.stop n hn, start, duration]
    rfl
  · obtain ⟨x, value, units⟩ := accounted.timed s added
    have cached : r.cached (r.nodeOf s) "duration" = (r.param (r.durationOf s)).value :=
      (working.sequence s hs).fitted.cached (i := 2) rfl
    refine ⟨x, by rw [cached, value], ?_⟩
    rw [durationUnits] at units
    cases overridden : (r.sequence s).fixedDuration with
    | some duration =>
      obtain ⟨y, rfl⟩ := orderly.settled.fixed s duration overridden
      rw [overridden] at units
      rw [← fixed, overridden]
      have same : x.units = y.units := units
      simp [Double.eq, same]
    | none =>
      rw [overridden] at units
      rw [← fixed, overridden]
      exact Double.isLargest_of_units (r.memberStops_finite s) units

/-- A pulse that is moved after it was added moves the duration. -/
theorem duration_of_moved_pulse :
    let plan : PulsePlan := {
      name := some "p"
      start := some (.ofInteger { val := 1 })
      duration := some (.ofInteger { val := 2 }) }
    let sequence : SequenceCommand := .createSequence "s" none
    let pulse : SequenceCommand := .createPulse "p" plan
    let add : SequenceCommand := .addPulse ⟨0⟩ ⟨1⟩
    let move : SequenceCommand := .setPulse ⟨1⟩ .start (.ofInteger { val := 5 })
    let made := (pulse.act (sequence.act (start {} default)).2).2
    let added := (add.act made).2
    let r := (move.act added).2
    (r.memberStops ⟨0⟩).map Double.units? = [some (7 * 2 ^ 1074)] ∧
      ∃ x, r.cached (r.nodeOf ⟨0⟩) "duration" = .number (.float x) ∧
        (Double.finite x).IsLargest (.zero :: r.memberStops ⟨0⟩) := by
  intro plan sequence pulse add move made added r
  have free : (sequence.act (start {} default)).2.bench.handles.contains "p" = false := by
    decide +kernel
  have handles : .sequence ⟨0⟩ ∈ made.bench.handles.values ∧ .pulse ⟨1⟩ ∈ made.bench.handles.values ∧
      .pulse ⟨1⟩ ∈ added.bench.handles.values := by decide +kernel
  have timing : add.timing? made = some (⟨0⟩, .added) := by decide +kernel
  have ran : Ran {} default SequenceCommand.LeavesEnabled _ made :=
    .step pulse (.step sequence .start trivial rfl) trivial free
  have ran' : Ran {} default SequenceCommand.LeavesEnabled _ r :=
    .step move (.step add ran trivial ⟨handles.1, .inl handles.2.1⟩) trivial (.inl handles.2.2)
  rw [timing] at ran'
  obtain ⟨x, cached, largest⟩ := ((duration_of_ran ran' ⟨0⟩).2 List.mem_cons_self).2
  exact ⟨by decide +kernel, x, cached, largest⟩

end Registry
end LabRegistry

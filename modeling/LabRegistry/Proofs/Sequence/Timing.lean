import LabRegistry.Proofs.Sequence.Working
import LabRegistry.Proofs.Value.Units

/-!
# The duration that a sequence should have

The duration of a sequence is the fixed one or the last stop of its enabled pulses. Computed from
the cached stops it is what a get gives, as long as the stops are settled.
-/
namespace LabRegistry

namespace Registry

variable {r after : Registry} {n : NodeId} {s t : SequenceId} {pulses : Set NodeId}

/-- The cached stops of the enabled pulses of a sequence, as far as they are numbers. -/
def memberStops (r : Registry) (s : SequenceId) : List Double :=
  ((r.pulses (r.nodeOf s)).filter r.isEnabled).filterMap fun n => (r.cached n "t_stop").toDouble?

def memberTimes (r : Registry) (s : SequenceId) (parameter : String) : List Double :=
  ((r.pulses (r.nodeOf s)).filter r.isEnabled).filterMap fun n => (r.cached n parameter).toDouble?

def durationValue (r : Registry) (s : SequenceId) : Value :=
  match (r.sequence s).fixedDuration with
  | some duration => .ofDouble duration
  | none => .ofDouble (((r.memberStops s).mergeSort Double.totalLe).foldl Double.larger .zero)

/-- How many units the duration counts that a sequence should have. -/
def durationUnits (r : Registry) (s : SequenceId) : Int :=
  match (r.sequence s).fixedDuration with
  | some duration => duration.units?.getD 0
  | none => ((r.memberStops s).filterMap Double.units?).foldl max 0

/-- The cached duration of a sequence is as large as it should be. -/
def Timed (r : Registry) (s : SequenceId) : Prop :=
  ∃ x, (r.param (r.durationOf s)).value = .number (.float x) ∧ x.units = r.durationUnits s

/-- Stops are up to date, and fixed durations are finite. -/
structure Settled (r : Registry) (pulses : Set NodeId) : Prop where
  stop : ∀ n ∈ pulses, r.StopCurrent n
  fixed : ∀ s duration, (r.sequence s).fixedDuration = some duration → ∃ x, duration = .finite x

theorem memberStops_finite (r : Registry) (s : SequenceId) :
    ∀ x ∈ r.memberStops s, ∃ y, x = .finite y := by
  intro x mem
  obtain ⟨n, -, number⟩ := List.mem_filterMap.mp mem
  exact Value.toDouble?_finite number

theorem Settled.durationValue (h : r.Settled pulses) (s : SequenceId) :
    ∃ x, r.durationValue s = .number (.float x) ∧ x.units = r.durationUnits s := by
  rw [Registry.durationValue, durationUnits]
  cases fixed : (r.sequence s).fixedDuration with
  | some duration =>
    obtain ⟨x, rfl⟩ := h.fixed s duration fixed
    exact ⟨x, rfl, rfl⟩
  | none =>
    have perm := (r.memberStops s).mergeSort_perm Double.totalLe
    obtain ⟨x, run, units⟩ := Double.foldl_larger
      (fun x mem => r.memberStops_finite s x (perm.mem_iff.mp mem)) .zero
    refine ⟨x, ?_, ?_⟩
    · dsimp only
      rw [Double.zero, run]
      rfl
    · exact units.trans ((perm.filterMap _).foldl_eq _)

theorem duration_getter_run (s : SequenceId) (handler : Handler) (n : NodeId) (r : Registry) :
    s.duration handler n r = match (r.sequence s).fixedDuration with
      | some duration => (.ok (.ofDouble duration), r)
      | none => (do
        let stops ← n.pulseTimes handler "t_stop"
        return .ofDouble (stops.foldl Double.larger .zero) : Act RegistryError Value) r := by
  have state : (s.state : Act RegistryError Sequence) r = (.ok (r.sequence s), r) := rfl
  rw [SequenceId.duration, Act.bind_run, state]
  dsimp only
  cases (r.sequence s).fixedDuration <;> rfl

/-! ## What the duration depends on -/

/-- How many units the stop of a pulse counts, if the pulse is enabled. -/
def stopUnits (r : Registry) (n : NodeId) : Option Int :=
  if r.isEnabled n then (r.cached n "t_stop").units? else none

theorem PulseReady.stopUnits (h : r.PulseReady n) : r.stopUnits n =
    if (r.param ⟨r.firstParam n⟩).value == .bool false then none
    else (r.param (r.stopOf n)).value.units? := by
  rw [Registry.stopUnits, h.isEnabled, h.cached_stop]
  cases (r.param ⟨r.firstParam n⟩).value == .bool false <;> rfl

private theorem Working.memberUnits (h : r.Working pulses) (hs : s.index < r.sequences.size) :
    (r.memberStops s).filterMap Double.units? = (r.membersOf s).filterMap r.stopUnits := by
  rw [memberStops, h.pulses_eq hs, List.filterMap_filterMap, List.filterMap_filter]
  rfl

theorem Working.durationUnits_of (h : r.Working pulses) (h' : after.Working pulses)
    (hs : s.index < r.sequences.size) (hs' : s.index < after.sequences.size)
    (fixed : (after.sequence s).fixedDuration = (r.sequence s).fixedDuration)
    (members : after.membersOf s = r.membersOf s)
    (stops : ∀ n ∈ r.membersOf s, after.stopUnits n = r.stopUnits n) :
    after.durationUnits s = r.durationUnits s := by
  rw [durationUnits, durationUnits, fixed, h.memberUnits hs, h'.memberUnits hs', members,
    List.filterMap_congr stops]

/-! ## One more listener -/

theorem Settled.hear (h : r.Settled pulses) (p : ParamId) (listener : Listener) :
    (r.hear p listener).Settled pulses where
  stop n hn := by
    change ((r.hear p listener).param (r.stopOf n)).value = (r.hear p listener).stopValue (r.firstParam n)
    rw [value_hear, h.stop n hn, stopValue, stopValue, value_hear, value_hear]
  fixed := h.fixed

theorem Working.timed_hear (h : r.Working pulses) (hn : n ∈ pulses) (listener : Listener)
    (hs : s.index < r.sequences.size) (timed : r.Timed s) :
    (r.hear (r.stopOf n) listener).Timed s := by
  have h' := h.hear hn listener
  obtain ⟨x, value, count⟩ := timed
  refine ⟨x, (r.value_hear _ _ _).trans value, ?_⟩
  rw [count, h.durationUnits_of h' hs hs rfl rfl fun m mem => ?_]
  have hm := h.mem_of_member hs mem
  rw [(h.pulse m hm).stopUnits, (h'.pulse m hm).stopUnits, value_hear, value_hear]
  rfl

/-! ## Writing caches -/

/-- Apart from their amplitudes the cached values of the pulses are the same. -/
def SamePulses (r : Registry) (pulses : Set NodeId) (after : Registry) : Prop :=
  ∀ n ∈ pulses, ∀ i < 4,
    (after.param ⟨r.firstParam n + i⟩).value = (r.param ⟨r.firstParam n + i⟩).value

theorem SameState.samePulses (h : r.SameState after) : r.SamePulses pulses after :=
  fun _ _ _ _ => h.value _

section

variable (wiring : r.SameWiring after)

include wiring

theorem Working.stopUnits_of (h : r.Working pulses) (hn : n ∈ pulses)
    (enabled : (after.param ⟨r.firstParam n⟩).value = (r.param ⟨r.firstParam n⟩).value)
    (stop : (after.param (r.stopOf n)).value.units? = (r.param (r.stopOf n)).value.units?) :
    after.stopUnits n = r.stopUnits n := by
  rw [(wiring.pulseReady (h.pulse n hn)).stopUnits, (h.pulse n hn).stopUnits, wiring.firstParam,
    wiring.stopOf, enabled, stop]

theorem Working.durationUnits_of_wiring (h : r.Working pulses) (hs : s.index < r.sequences.size)
    (stops : ∀ n ∈ r.membersOf s, after.stopUnits n = r.stopUnits n) :
    after.durationUnits s = r.durationUnits s :=
  h.durationUnits_of (wiring.working h) hs (by rwa [wiring.sequences]) (by rw [wiring.sequence])
    (wiring.membersOf s) stops

/-- Without a change of its cache and of the stops of its members, a sequence stays as it should. -/
theorem Working.timed_of (h : r.Working pulses) (hs : s.index < r.sequences.size)
    (own : (after.param (r.durationOf s)).value = (r.param (r.durationOf s)).value)
    (stops : ∀ n ∈ r.membersOf s, after.stopUnits n = r.stopUnits n)
    (timed : r.Timed s) : after.Timed s := by
  have units := h.durationUnits_of_wiring wiring hs stops
  obtain ⟨x, value, count⟩ := timed
  exact ⟨x, by rw [wiring.durationOf, own, value], by rw [units, count]⟩

variable (same : r.SamePulses pulses after)

include same

theorem Settled.of_values (h : r.Settled pulses) : after.Settled pulses where
  stop n hn := wiring.stopCurrent (h.stop n hn) fun i _ hi => same n hn i hi
  fixed s duration fixed := by
    rw [wiring.sequence] at fixed
    exact h.fixed s duration fixed

theorem SamePulses.stopUnits (h : r.Working pulses) (hn : n ∈ pulses) :
    after.stopUnits n = r.stopUnits n :=
  h.stopUnits_of wiring hn (same n hn 0 (by decide)) (congrArg _ (same n hn 3 (by decide)))

private theorem SamePulses.isEnabled (h : r.Working pulses) (hn : n ∈ pulses) :
    after.isEnabled n = r.isEnabled n := by
  have enabled := same n hn 0 (by decide)
  rw [Nat.add_zero] at enabled
  rw [((wiring.working h).pulse n hn).isEnabled, (h.pulse n hn).isEnabled, wiring.firstParam, enabled]

private theorem SamePulses.cached_time {parameter : String} (h : r.Working pulses) (hn : n ∈ pulses)
    (timed : parameter ∈ ["t_start", "t_stop"]) : after.cached n parameter = r.cached n parameter := by
  obtain ⟨i, hi, plan, planned, rfl⟩ : ∃ i < 4, ∃ plan, Pulse.plans[i]? = some plan ∧
      plan.name = parameter := by
    simp only [List.mem_cons, List.not_mem_nil, or_false] at timed
    rcases timed with rfl | rfl
    · exact ⟨1, by decide, _, rfl, rfl⟩
    · exact ⟨3, by decide, _, rfl, rfl⟩
  rw [((wiring.working h).pulse n hn).fitted.cached planned, (h.pulse n hn).fitted.cached planned,
    wiring.firstParam, same n hn i hi]

theorem Working.memberTimes_of {parameter : String} (h : r.Working pulses)
    (hs : s.index < r.sequences.size) (timed : parameter ∈ ["t_start", "t_stop"]) :
    after.memberTimes s parameter = r.memberTimes s parameter := by
  have hs' : s.index < after.sequences.size := by rwa [wiring.sequences]
  rw [memberTimes, memberTimes, h.pulses_eq hs, (wiring.working h).pulses_eq hs', wiring.membersOf,
    List.filterMap_filter, List.filterMap_filter]
  refine List.filterMap_congr fun n mem => ?_
  have hn := h.mem_of_member hs mem
  rw [same.isEnabled wiring h hn, same.cached_time wiring h hn timed]

private theorem Working.memberStops_of (h : r.Working pulses) (hs : s.index < r.sequences.size) :
    after.memberStops s = r.memberStops s :=
  h.memberTimes_of wiring same hs (show "t_stop" ∈ ["t_start", "t_stop"] by decide)

theorem Working.durationValue_of (h : r.Working pulses) (hs : s.index < r.sequences.size) :
    after.durationValue s = r.durationValue s := by
  rw [durationValue, wiring.sequence, h.memberStops_of wiring same hs, durationValue]

end

end Registry
end LabRegistry

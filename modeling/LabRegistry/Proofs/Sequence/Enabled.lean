import LabRegistry.Proofs.Sequence.Operated
import LabRegistry.Proofs.Sequence.Stops

/-!
# Enabling and disabling a pulse in a sequence

Nothing that pulses and sequences bring along listens to whether a pulse is enabled. So the cached
duration of a sequence stays as it is when one of its pulses is enabled or disabled, and it is out of
date exactly if the stop of this pulse exceeds zero and all other stops.
-/
namespace LabRegistry

open Registry

variable {r after : Registry} {n m : NodeId} {s : SequenceId} {b : Bool} {x : Double} {log : Log}
  {now : Instant}

namespace Registry

def otherStops (r : Registry) (s : SequenceId) (n : NodeId) : List Double :=
  ((r.pulses (r.nodeOf s)).filter (· ≠ n)).filterMap r.activeStop

/-- The cached duration of a sequence is the largest of zero and the stops of its enabled pulses. -/
def DurationCurrent (r : Registry) (s : SequenceId) : Prop :=
  ∃ x, (r.cached (r.nodeOf s) "duration").toDouble? = some x ∧ x.IsLargest (.zero :: r.activeStops s)

instance (r : Registry) (s : SequenceId) : Decidable (r.DurationCurrent s) :=
  decidable_of_iff ((r.cached (r.nodeOf s) "duration").toDouble?.any
    fun x => decide (x.IsLargest (.zero :: r.activeStops s))) (by
      simp [DurationCurrent, Option.any_eq_true])

private theorem mem_activeStops_iff (member : n ∈ r.pulses (r.nodeOf s)) :
    x ∈ r.activeStops s ↔ r.activeStop n = some x ∨ x ∈ r.otherStops s n := by
  simp only [activeStops, otherStops, List.mem_filterMap, List.mem_filter, decide_eq_true_eq]
  constructor
  · rintro ⟨m, mem, stop⟩
    by_cases same : m = n
    · exact .inl (same ▸ stop)
    · exact .inr ⟨m, ⟨mem, same⟩, stop⟩
  · rintro (stop | ⟨m, ⟨mem, -⟩, stop⟩)
    · exact ⟨n, member, stop⟩
    · exact ⟨m, mem, stop⟩

/-! ## What changes -/

namespace Took

variable (took : r.Took ⟨r.firstParam n⟩ (.bool b) after) (wired : r.PulseWired n (r.firstParam n))

include took wired

private theorem value_of_name {p : ParamId} (other : (r.param p).name ≠ "enabled") :
    (after.param p).value = (r.param p).value := by
  refine took.others p ?_
  rintro rfl
  exact other (wired.fitted.name (i := 0) rfl)

private theorem isEnabled_self : after.isEnabled n = b := by
  rw [(took.wiring.pulseWired wired).isEnabled, took.wiring.firstParam, took.self]
  cases b <;> rfl

private theorem stopValue_eq (wired' : r.PulseWired m (r.firstParam m)) :
    after.stopValue (r.firstParam m) = r.stopValue (r.firstParam m) := by
  have start : (r.param (Pulse.startAt (r.firstParam m))).name = "t_start" :=
    wired'.fitted.name (i := 1) rfl
  have duration : (r.param (Pulse.durationAt (r.firstParam m))).name = "duration" :=
    wired'.fitted.name (i := 2) rfl
  rw [stopValue, took.value_of_name wired (start ▸ by decide),
    took.value_of_name wired (duration ▸ by decide), stopValue]

private theorem activeStop_self : after.activeStop n = if b then r.stop? n else none := by
  rw [activeStop, took.isEnabled_self wired, stop?, took.wiring.firstParam,
    took.stopValue_eq wired wired, stop?]

private theorem activeStop_other (wired' : r.PulseWired m (r.firstParam m)) (other : m ≠ n) :
    after.activeStop m = r.activeStop m := by
  have kept : (after.param ⟨r.firstParam m⟩).value = (r.param ⟨r.firstParam m⟩).value :=
    took.others _ (wired'.param_ne wired other (i := 0) (j := 0) (by decide) (by decide))
  have enabled : after.isEnabled m = r.isEnabled m := by
    rw [(took.wiring.pulseWired wired').isEnabled, wired'.isEnabled, took.wiring.firstParam, kept]
  rw [activeStop, enabled, stop?, took.wiring.firstParam, took.stopValue_eq wired wired', activeStop,
    stop?]

private theorem otherStops_eq (all : ∀ m ∈ r.pulses (r.nodeOf s), r.PulseWired m (r.firstParam m)) :
    after.otherStops s n = r.otherStops s n := by
  rw [otherStops, otherStops, took.wiring.nodeOf, took.wiring.nodes.pulses]
  refine List.filterMap_congr fun m mem => ?_
  obtain ⟨mem, other⟩ := List.mem_filter.mp mem
  exact took.activeStop_other wired (all m mem) (of_decide_eq_true other)

private theorem duration_eq
    (fitted : r.Fitted (r.nodeOf s) (r.firstParam (r.nodeOf s)) SequenceId.plans) :
    after.cached (r.nodeOf s) "duration" = r.cached (r.nodeOf s) "duration" := by
  have name : (r.param (r.durationOf s)).name = "duration" := fitted.name (i := 2) rfl
  have fitted' := fitted.of_same took.wiring.nodes took.wiring.setups
  calc
    after.cached (r.nodeOf s) "duration" = (after.param (r.durationOf s)).value :=
      fitted'.cached (i := 2) rfl
    _ = (r.param (r.durationOf s)).value := took.value_of_name wired (name ▸ by decide)
    _ = r.cached (r.nodeOf s) "duration" := (fitted.cached (i := 2) rfl).symm

end Took

private theorem PulseWired.set_enabled_run (wired : r.PulseWired n (r.firstParam n)) (b : Bool) :
    ∃ after, r.Took ⟨r.firstParam n⟩ (.bool b) after ∧ n.set "enabled" (.bool b) r =
      ParamId.announce (engine (r.depthLimit - 1)) ⟨r.firstParam n⟩ after := by
  obtain ⟨after, took, run⟩ := wired.fitted.setWith_run (i := 0) rfl ⟨rfl, rfl, rfl⟩
    (v := .bool b) rfl (engine (r.depthLimit - 1))
  have found : n.parameter "enabled" r = (.ok ⟨r.firstParam n⟩, r) :=
    wired.fitted.parameter_run (i := 0) rfl
  refine ⟨after, took, ?_⟩
  rw [NodeId.set, Act.bind_run, found]
  exact (ParamId.set_eq _ _ _).trans run

/-! ## When the largest stop stays the same -/

/-- A double that was the largest of zero and the stops is so afterwards if and only if the pulse is
enabled as it was, or its stop does not exceed zero and all other stops. -/
theorem Took.isLargest_iff (took : r.Took ⟨r.firstParam n⟩ (.bool b) after)
    (all : ∀ m ∈ r.pulses (r.nodeOf s), r.PulseWired m (r.firstParam m))
    (member : n ∈ r.pulses (r.nodeOf s)) (largest : x.IsLargest (.zero :: r.activeStops s)) :
    x.IsLargest (.zero :: after.activeStops s) ↔ r.isEnabled n = b ∨
      ∀ stop ∈ r.stop? n, ∃ y ∈ Double.zero :: r.otherStops s n, y.lt stop = false := by
  have wired := all n member
  have member' : n ∈ after.pulses (after.nodeOf s) := by
    rwa [took.wiring.nodeOf, took.wiring.nodes.pulses]
  have mem (y : Double) : y ∈ r.activeStops s ↔
      (if r.isEnabled n then r.stop? n else none) = some y ∨ y ∈ r.otherStops s n :=
    mem_activeStops_iff member
  have mem' (y : Double) : y ∈ after.activeStops s ↔
      (if b then r.stop? n else none) = some y ∨ y ∈ r.otherStops s n := by
    rw [mem_activeStops_iff member', took.activeStop_self wired, took.otherStops_eq wired all]
  by_cases same : r.isEnabled n = b
  · refine iff_of_true ((Double.isLargest_congr fun y => ?_).mp largest) (.inl same)
    rw [List.mem_cons, List.mem_cons, mem, mem', same]
  rw [or_iff_right same]
  cases stopped : r.stop? n with
  | none =>
    refine iff_of_true ((Double.isLargest_congr fun y => ?_).mp largest) nofun
    rw [List.mem_cons, List.mem_cons, mem, mem', stopped, ite_self, ite_self]
  | some stop =>
    obtain rfl : b = !r.isEnabled n := Bool.eq_not_of_ne (Ne.symm same)
    have counted (on : Bool) (y : Double) :
        (if on then some stop else none) = some y ↔ on = true ∧ y = stop := by
      cases on <;> simp [eq_comm]
    simp only [Option.mem_some_iff, forall_eq']
    refine Double.isLargest_switch_iff (r.isEnabled n) ?_ (fun y => ?_) (fun y => ?_) largest
    · intro y listed
      rcases List.mem_cons.mp listed with rfl | listed
      · exact Value.toDouble?_finite stopped
      rcases List.mem_cons.mp listed with rfl | listed
      · exact ⟨_, rfl⟩
      · obtain ⟨m, -, stop⟩ := List.mem_filterMap.mp listed
        exact activeStop_finite stop
    · rw [List.mem_cons, List.mem_cons, mem, stopped, counted, or_left_comm]
    · rw [List.mem_cons, List.mem_cons, mem', stopped, counted, Bool.not_eq_true', or_left_comm]

/-- Enabling or disabling a pulse of a sequence whose duration is up to date and not fixed only writes the
switch, before the listeners of the switch are told; there are none unless the user adds some. The cached
duration stays, and a get gives the largest of zero and the stops. So the cache is up to date if and only
if the switch was like that before, or the stop of the pulse exceeds neither zero nor the other stops. -/
theorem duration_of_set_enabled_iff (operated : Operated log now r) (hs : s.index < r.sequences.size)
    (alive : r.isAlive (r.nodeOf s) = true) (free : (r.sequence s).fixedDuration = none)
    (current : r.DurationCurrent s) (member : n ∈ r.pulses (r.nodeOf s)) (b : Bool) :
    ∃ after, r.Took ⟨r.firstParam n⟩ (.bool b) after ∧
      n.set "enabled" (.bool b) r =
        ParamId.announce (engine (r.depthLimit - 1)) ⟨r.firstParam n⟩ after ∧
      ((r.param ⟨r.firstParam n⟩).listeners = [] → n.set "enabled" (.bool b) r = (.ok (), after)) ∧
      after.isEnabled n = b ∧ after.cached (r.nodeOf s) "duration" = r.cached (r.nodeOf s) "duration" ∧
      (∃ x final, (Double.finite x).IsLargest (.zero :: after.activeStops s) ∧
        (r.nodeOf s).get "duration" after = (.ok (.number (.float x)), final)) ∧
      (after.DurationCurrent s ↔ r.isEnabled n = b ∨
        ∀ stop ∈ r.stop? n, ∃ y ∈ Double.zero :: r.otherStops s n, y.lt stop = false) := by
  have intact := operated.intact
  have all (m : NodeId) (mem : m ∈ r.pulses (r.nodeOf s)) := intact.wired_of_mem_pulses alive mem
  have wired := all n member
  obtain ⟨after, took, set⟩ := wired.set_enabled_run b
  have duration := took.duration_eq wired (intact.sequence s hs).fitted
  have got : ∃ x final, (Double.finite x).IsLargest (.zero :: after.activeStops s) ∧
      (after.nodeOf s).get "duration" after = (.ok (.number (.float x)), final) :=
    (took.wiring.intact intact).get_duration_run
      (by rwa [took.wiring.nodeOf, took.wiring.nodes.isAlive]) (by rwa [took.wiring.sequence])
      (by rwa [took.wiring.sequences])
  rw [took.wiring.nodeOf] at got
  obtain ⟨x, cached, largest⟩ := current
  refine ⟨after, took, set, fun silent => ?_, took.isEnabled_self wired, duration, got, ?_⟩
  · rw [set]
    exact ParamId.announce_silent ((took.wiring.listeners _).trans silent) _
  · rw [← took.isLargest_iff all member largest, DurationCurrent, took.wiring.nodeOf, duration, cached]
    simp

/-- Disabling a pulse without times leaves the duration up to date, which the other pulse decides. -/
theorem duration_of_disabled_untimed :
    let run (r : Registry) (c : SequenceCommand) := (Activity.sequence c).run r
    let plan : PulsePlan := {
      name := some "q"
      start := some (.ofInteger { val := 1 })
      duration := some (.ofInteger { val := 2 }) }
    let begun := run (start {} default) (.createSequence "s" none)
    let made := run (run begun (.createPulse "p" { name := some "p" })) (.createPulse "q" plan)
    let r := run (run made (.addPulse ⟨0⟩ ⟨1⟩)) (.addPulse ⟨0⟩ ⟨2⟩)
    ∃ after, NodeId.set ⟨1⟩ "enabled" (.bool false) r = (.ok (), after) ∧
      after.isEnabled ⟨1⟩ = false ∧ after.DurationCurrent ⟨0⟩ := by
  intro run plan begun made r
  have operated : Operated {} default r := by
    refine .step _ (.step _ (.step _ (.step _ (.step _ .start nofun) nofun) nofun) ?_) ?_
    all_goals
      rintro _ ⟨⟩
      decide +kernel
  obtain ⟨after, -, -, set, disabled, -, -, exact⟩ := duration_of_set_enabled_iff (s := ⟨0⟩) (n := ⟨1⟩)
    operated (by decide +kernel) (by decide +kernel) (by decide +kernel) (by decide +kernel)
    (by decide +kernel) false
  have untimed : r.stop? ⟨1⟩ = none := by decide +kernel
  refine ⟨after, set (by decide +kernel), disabled, exact.mpr (.inr fun stop mem => ?_)⟩
  rw [untimed] at mem
  cases mem

/-- Disabling the only pulse of a sequence leaves the stop of the pulse in the cache of the duration. -/
theorem duration_of_disabled_only :
    let run (r : Registry) (c : SequenceCommand) := (Activity.sequence c).run r
    let plan : PulsePlan := {
      name := some "p"
      start := some (.ofInteger { val := 1 })
      duration := some (.ofInteger { val := 2 }) }
    let made := run (run (start {} default) (.createSequence "s" none)) (.createPulse "p" plan)
    let r := run made (.addPulse ⟨0⟩ ⟨1⟩)
    let after := run r (.setPulse ⟨1⟩ .enabled (.bool false))
    Operated {} default r ∧ ⟨1⟩ ∈ r.pulses (r.nodeOf ⟨0⟩) ∧ (r.sequence ⟨0⟩).fixedDuration = none ∧
      r.DurationCurrent ⟨0⟩ ∧ after.isEnabled ⟨1⟩ = false ∧ ¬ after.DurationCurrent ⟨0⟩ := by
  intro run plan made r after
  refine ⟨.step _ (.step _ (.step _ .start nofun) nofun) ?_, by decide +kernel, by decide +kernel,
    by decide +kernel, by decide +kernel, by decide +kernel⟩
  rintro _ ⟨⟩
  decide +kernel

end Registry
end LabRegistry

import LabRegistry.Proofs.Pulse.Times
import LabRegistry.Proofs.Sequence.Intact

/-!
# Getting the duration of a sequence

A get of the duration reads the stops of the enabled pulses of a sequence, whatever the caches hold, and
gives the largest of them and of zero.
-/
namespace LabRegistry

open Registry

variable {r after : Registry} {n : NodeId} {s : SequenceId} {fuel first i : Nat} {getter : Callable}
  {v : Value} {plan : ParameterPlan} {plans : List ParameterPlan}

namespace Registry

def stop? (r : Registry) (n : NodeId) : Option Double := (r.stopValue (r.firstParam n)).toDouble?

def activeStop (r : Registry) (n : NodeId) : Option Double :=
  if r.isEnabled n then r.stop? n else none

def activeStops (r : Registry) (s : SequenceId) : List Double :=
  (r.pulses (r.nodeOf s)).filterMap r.activeStop

theorem activeStop_finite {x : Double} (h : r.activeStop n = some x) : ∃ y, x = .finite y := by
  rw [activeStop] at h
  split at h
  · exact Value.toDouble?_finite h
  · cases h

private theorem activeStops_finite (r : Registry) (s : SequenceId) :
    ∀ x ∈ r.activeStops s, ∃ y, x = .finite y := by
  intro x mem
  obtain ⟨n, -, stop⟩ := List.mem_filterMap.mp mem
  exact activeStop_finite stop

/-- The number that a get of a parameter of an enabled pulse gives. -/
def activeTime (r : Registry) (parameter : String) (n : NodeId) : Option Double :=
  if r.isEnabled n then (r.got n parameter).toDouble? else none

private theorem activeTime_stop (r : Registry) : r.activeTime "t_stop" = r.activeStop := rfl

private theorem PulseWired.activeTime_reread (h : r.PulseWired n (r.firstParam n))
    (same : r.Reread after)
    (parameter : String) : after.activeTime parameter n = r.activeTime parameter n := by
  rw [activeTime, h.isEnabled_reread same, h.got_reread same, activeTime]

theorem Fitted.getWith_run_of_owner (fitted : r.Fitted n first plans) (hi : plans[i]? = some plan)
    (alive : r.isAlive n = true) (source : plan.getSource = .owner) (plain : plan.getParser = none)
    (delegate : ((r.node n).delegatesFor plan.name).getter = some getter)
    (called : (getter.run (engine fuel) (.delegate n ⟨first + i⟩ .null)).Rereads r v) :
    ∃ mid after, r.Reread mid ∧ mid.Took ⟨first + i⟩ v after ∧
      (⟨first + i⟩ : ParamId).getWith (engine (fuel + 1)) r = (.ok v, after) := by
  obtain ⟨mid, run, same⟩ := called
  have wiring := same.wiring
  obtain ⟨after, received, recorded⟩ := ParamId.receive_run
    ((wiring.getParser _).trans ((fitted.getParser hi).trans plain))
    (wiring.speaks _ (fitted.speaksAt hi)) (engine (fuel + 1)) v
  have answered : engine (fuel + 1) (.call getter (.delegate n ⟨first + i⟩ .null)) r = (.ok v, mid) := run
  refine ⟨mid, after, same, recorded.took (wiring.size ▸ fitted.lt_size hi), ?_⟩
  rw [ParamId.getWith_run_of_owner ((fitted.getSource hi).trans source) (fitted.owner? hi alive)
    (fitted.name hi ▸ delegate), Act.bind_run, answered]
  exact received

theorem Fitted.get_run_of_owner (fitted : r.Fitted n first plans) (hi : plans[i]? = some plan)
    (alive : r.isAlive n = true) (source : plan.getSource = .owner) (plain : plan.getParser = none)
    (delegate : ((r.node n).delegatesFor plan.name).getter = some getter)
    (called : ∀ fuel, 3 ≤ fuel →
      (getter.run (engine fuel) (.delegate n ⟨first + i⟩ .null)).Rereads r v) :
    ∃ after, n.get plan.name r = (.ok v, after) := by
  obtain ⟨fuel, enough, performed⟩ := (Request.get ⟨first + i⟩).perform_run r
  obtain ⟨fuel, rfl⟩ : ∃ k, fuel = k + 1 := ⟨fuel - 1, by omega⟩
  obtain ⟨_, after, -, -, got⟩ := fitted.getWith_run_of_owner hi alive source plain delegate
    (called fuel (by omega))
  refine ⟨after, ?_⟩
  rw [NodeId.get, Act.bind_run, fitted.parameter_run hi]
  exact performed.trans got

end Registry

private theorem NodeId.timesOf_rereads (hi : Pulse.plans[i]? = some plan) (enough : 3 ≤ fuel)
    {members : List NodeId} (h : ∀ n ∈ members, r.PulseWired n (r.firstParam n)) :
    (timesOf (engine fuel) plan.name members).Rereads r (members.filterMap (r.activeTime plan.name)) := by
  induction members generalizing r with
  | nil => exact .pure _
  | cons n rest ih =>
    have wired := h n List.mem_cons_self
    -- The rest is read after the time of the first one was.
    have others {mid : Registry} (same : r.Reread mid) :
        (timesOf (engine fuel) plan.name rest).Rereads mid
          (rest.filterMap (r.activeTime plan.name)) := by
      have rereads := @ih mid fun m mem =>
        same.wiring.pulseWired (h m (List.mem_cons_of_mem _ mem))
      rwa [List.filterMap_congr fun m mem =>
        (h m (List.mem_cons_of_mem _ mem)).activeTime_reread same _] at rereads
    refine .bind (x := r.isEnabled n) ⟨r, wired.isEnabled_run, refl r⟩ fun mid same => ?_
    rw [List.filterMap_cons, activeTime]
    cases r.isEnabled n with
    | false => exact others same
    | true =>
      have time := (same.wiring.pulseWired wired).getWith_rereads hi enough
      rw [wired.got_reread same] at time
      refine .bind time fun mid' same' => .bind (others (IsTrans.trans _ _ _ same same')) fun _ _ => ?_
      rw [if_pos rfl]
      cases (r.got n plan.name).toDouble? <;> exact .pure _

namespace Registry

namespace Intact

variable (h : r.Intact) (alive : r.isAlive (r.nodeOf s) = true)

include h alive

theorem pulseTimes_rereads (hi : Pulse.plans[i]? = some plan) (enough : 3 ≤ fuel) :
    ((r.nodeOf s).pulseTimes (engine fuel) plan.name).Rereads r
      (((r.pulses (r.nodeOf s)).filterMap (r.activeTime plan.name)).mergeSort Double.totalLe) := by
  refine .bind (x := r.pulses (r.nodeOf s)) ⟨r, rfl, refl r⟩ fun mid same => ?_
  have wired (m : NodeId) (mem : m ∈ r.pulses (r.nodeOf s)) := h.wired_of_mem_pulses alive mem
  have times := NodeId.timesOf_rereads hi enough fun m mem => same.wiring.pulseWired (wired m mem)
  rw [List.filterMap_congr fun m mem => (wired m mem).activeTime_reread same _] at times
  exact .bind times fun _ _ => .pure _

variable (free : (r.sequence s).fixedDuration = none)

include free

theorem duration_rereads :
    ∃ x, (Double.finite x).IsLargest (.zero :: r.activeStops s) ∧ ∀ fuel, 3 ≤ fuel →
      (s.duration (engine fuel) (r.nodeOf s)).Rereads r (.number (.float x)) := by
  have perm := (r.activeStops s).mergeSort_perm Double.totalLe
  have finite := r.activeStops_finite s
  obtain ⟨x, folded, units⟩ := Double.foldl_larger
    (fun y mem => finite y (perm.mem_iff.mp mem)) FiniteDouble.zero
  refine ⟨x, Double.isLargest_of_units finite (units.trans ((perm.filterMap _).foldl_eq _)),
    fun fuel enough => ?_⟩
  have stops : ((r.nodeOf s).pulseTimes (engine fuel) "t_stop").Rereads r
      (((r.pulses (r.nodeOf s)).filterMap (r.activeTime "t_stop")).mergeSort Double.totalLe) :=
    h.pulseTimes_rereads alive (i := 3) rfl enough
  rw [activeTime_stop, ← activeStops] at stops
  rw [Act.Rereads, duration_getter_run, free]
  refine Act.Rereads.bind stops fun _ _ => ?_
  rw [Double.zero, folded]
  exact .pure _

theorem get_duration_run (hs : s.index < r.sequences.size) :
    ∃ x after, (Double.finite x).IsLargest (.zero :: r.activeStops s) ∧
      (r.nodeOf s).get "duration" r = (.ok (.number (.float x)), after) := by
  have sequence := h.sequence s hs
  have delegate : ((r.node (r.nodeOf s)).delegatesFor "duration").getter =
      some (.sequenceDuration s) := congrArg (·.getter) sequence.delegates
  obtain ⟨x, largest, called⟩ := h.duration_rereads alive free
  obtain ⟨after, got⟩ := sequence.fitted.get_run_of_owner (i := 2) rfl alive rfl rfl delegate called
  exact ⟨x, after, largest, got⟩

end Intact
end Registry
end LabRegistry

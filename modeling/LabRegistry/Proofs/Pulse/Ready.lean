import LabRegistry.Proofs.Pulse.Wiring

/-!
# Pulses with their own listeners

A pulse is ready if it is wired and its parameters, apart from the stop, have the listeners that they
were made with. Its parameters are numbered from its first one on.
-/
namespace LabRegistry

namespace Registry

def firstParam (r : Registry) (n : NodeId) : Nat :=
  ((r.node n).parameters.values.head?.map (·.index)).getD 0

def stopOf (r : Registry) (n : NodeId) : ParamId := Pulse.stopAt (r.firstParam n)

/-- A live pulse whose parameters, apart from its stop, have the listeners that it was made with. -/
structure PulseReady (r : Registry) (n : NodeId) : Prop extends
    r.PulseWired n (r.firstParam n) where
  feeds : ∀ i < 5, i ≠ 3 →
    (r.param ⟨r.firstParam n + i⟩).listeners = Pulse.listeners (r.firstParam n) i

/-- The cached stop of a pulse is its start plus its duration. -/
def StopCurrent (r : Registry) (n : NodeId) : Prop :=
  (r.param (r.stopOf n)).value = r.stopValue (r.firstParam n)

variable {r after : Registry} {n : NodeId} {i : Nat} {v : Value}

theorem firstParam_of_node (h : (after.node n).parameters = (r.node n).parameters) :
    after.firstParam n = r.firstParam n := by
  rw [firstParam, h, firstParam]

theorem stopOf_of_node (h : (after.node n).parameters = (r.node n).parameters) :
    after.stopOf n = r.stopOf n := by
  rw [stopOf, firstParam_of_node h, stopOf]

theorem Fitted.firstParam {first : Nat} {plan : ParameterPlan} {plans : List ParameterPlan}
    (h : r.Fitted n first (plan :: plans)) : r.firstParam n = first := by
  rw [Registry.firstParam, OrderedMap.values, h.entries]
  rfl

namespace SameWiring

variable (h : r.SameWiring after)

include h

theorem firstParam (n : NodeId) : after.firstParam n = r.firstParam n :=
  firstParam_of_node (by rw [h.nodes.node])

theorem stopOf (n : NodeId) : after.stopOf n = r.stopOf n := stopOf_of_node (by rw [h.nodes.node])

theorem pulseWired (wired : r.PulseWired n (r.firstParam n)) :
    after.PulseWired n (after.firstParam n) := by
  rw [h.firstParam]
  exact wired.of_wiring h

theorem pulseReady (ready : r.PulseReady n) : after.PulseReady n where
  toPulseWired := h.pulseWired ready.toPulseWired
  feeds i hi ne := by
    rw [h.firstParam, h.listeners]
    exact ready.feeds i hi ne

theorem stopCurrent (current : r.StopCurrent n)
    (same : ∀ i, 1 ≤ i → i < 4 →
      (after.param ⟨r.firstParam n + i⟩).value = (r.param ⟨r.firstParam n + i⟩).value) :
    after.StopCurrent n := by
  have start : (after.param (Pulse.startAt (r.firstParam n))).value = _ :=
    same 1 (by decide) (by decide)
  have duration : (after.param (Pulse.durationAt (r.firstParam n))).value = _ :=
    same 2 (by decide) (by decide)
  have stop : (after.param (r.stopOf n)).value = _ := same 3 (by decide) (by decide)
  rw [StopCurrent, h.firstParam, h.stopOf, stopValue, start, duration, stop]
  exact current

end SameWiring

theorem SameState.stopCurrent (h : r.SameState after) (current : r.StopCurrent n) :
    after.StopCurrent n :=
  h.wiring.stopCurrent current fun _ _ _ => h.value _

theorem Took.stopCurrent (h : r.Took (r.stopOf n) (r.stopValue (r.firstParam n)) after) :
    after.StopCurrent n := by
  have ne {i : Nat} (hi : i ≠ 3) : (⟨r.firstParam n + i⟩ : ParamId) ≠ r.stopOf n := by
    rw [stopOf, Pulse.stopAt, ne_eq, ParamId.mk.injEq]
    omega
  rw [StopCurrent, h.wiring.stopOf, h.wiring.firstParam, h.self, stopValue, stopValue,
    h.others (Pulse.startAt (r.firstParam n)) (ne (by decide)),
    h.others (Pulse.durationAt (r.firstParam n)) (ne (by decide))]

def isEnabled (r : Registry) (pulse : NodeId) : Bool :=
  match (r.node pulse).parameters.get? "enabled" with
  | some p => !((r.param p).value == .bool false)
  | none => true

theorem PulseWired.isEnabled (h : r.PulseWired n (r.firstParam n)) :
    r.isEnabled n = !((r.param ⟨r.firstParam n⟩).value == .bool false) := by
  have found : (r.node n).parameters.get? "enabled" = some ⟨r.firstParam n⟩ :=
    h.fitted.get? (i := 0) rfl
  rw [Registry.isEnabled, found]

theorem PulseWired.isEnabled_run {ε : Type} (h : r.PulseWired n (r.firstParam n)) :
    (n.isEnabled : Act ε Bool) r = (.ok (r.isEnabled n), r) := by
  have found : (n.parameter "enabled") r = (.ok ⟨r.firstParam n⟩, r) :=
    h.fitted.parameter_run (i := 0) rfl
  rw [NodeId.isEnabled, Act.bind_run, Act.attempt_of_ok found, h.isEnabled]
  rfl

namespace PulseReady

variable (h : r.PulseReady n)

include h

theorem param_inside (hi : i < 5) : r.firstParam n + i < r.params.size :=
  (Nat.add_lt_add_left hi _).trans_le h.fitted.inside

theorem cached_stop : r.cached n "t_stop" = (r.param (r.stopOf n)).value :=
  h.fitted.cached (i := 3) rfl

theorem isPulse : r.isPulse n = true := by
  rw [Registry.isPulse, h.config]
  rfl

theorem isEnabled : r.isEnabled n = !((r.param ⟨r.firstParam n⟩).value == .bool false) :=
  h.toPulseWired.isEnabled

theorem getWith_stop_reads (current : r.StopCurrent n) (fuel : Nat) :
    (n.getWith (engine fuel) "t_stop").Reads r (r.cached n "t_stop") (fuel < 3) := by
  refine .bind (.of_run h.parameter_stop) fun after same => ?_
  have settled : (after.param (r.stopOf n)).value = after.stopValue (r.firstParam n) := by
    rw [same.value, same.stopValue, current]
  rw [h.cached_stop, ← same.value]
  cases fuel with
  | zero => exact ⟨after, refl after, .inr ⟨by omega, rfl⟩⟩
  | succ fuel =>
    have takes := (h.toPulseWired.of_wiring same.wiring).stop_getWith_takes fuel
    rw [← settled] at takes
    exact takes.reads.mono fun few => by omega

end PulseReady
end Registry
end LabRegistry

import LabRegistry.Proofs.Pulse.Setting

/-!
# Values given to a pulse

As long as those that hear of the stop leave the pulse alone, a set of one of its parameters changes
nothing else of the pulse but its stop. A set of the stop ends as a set of the duration does, with the
stop brought up to date.
-/
namespace LabRegistry

open Registry

variable {r mid after : Registry} {n : NodeId} {i fuel : Nat} {v : Value} {plan : ParameterPlan}

namespace Registry

/-- The wiring and the values of the pulse are the same, and if its stop was up to date it still is. -/
structure Leaves (n : NodeId) (r after : Registry) : Prop where
  wiring : r.SameWiring after
  value : ∀ i < 5, i ≠ 3 →
    (after.param ⟨r.firstParam n + i⟩).value = (r.param ⟨r.firstParam n + i⟩).value
  current : r.StopCurrent n → after.StopCurrent n

instance : IsPreorder Registry (Leaves n) where
  refl r := ⟨refl r, fun _ _ _ => rfl, id⟩
  trans r mid after h h' := by
    refine ⟨IsTrans.trans _ _ _ h.wiring h'.wiring, fun i hi other => ?_, h'.current ∘ h.current⟩
    have later := h'.value i hi other
    rw [h.wiring.firstParam] at later
    exact later.trans (h.value i hi other)

private theorem Took.leaves (took : r.Took (r.stopOf n) (r.stopValue (r.firstParam n)) after) :
    r.Leaves n after := by
  refine ⟨took.wiring, fun i _ other => took.others _ ?_, fun _ => took.stopCurrent⟩
  rw [stopOf, Pulse.stopAt, ne_eq, ParamId.mk.injEq]
  omega

/-- Whoever hears of the stop of the pulse is told without fail and leaves the pulse alone. -/
def Calm (r : Registry) (n : NodeId) : Prop :=
  ∀ mid fuel, r.SameWiring mid → 6 ≤ fuel → ∃ after,
    (mid.stopOf n).announce (engine fuel) mid = (.ok (), after) ∧ mid.Leaves n after

private theorem SameWiring.calm (h : r.SameWiring after) (calm : r.Calm n) : after.Calm n :=
  fun mid fuel same => calm mid fuel (IsTrans.trans _ _ _ h same)

theorem calm_of_unheard (unheard : (r.param (r.stopOf n)).listeners = []) : r.Calm n := by
  intro mid fuel same _
  refine ⟨mid, ParamId.announce_silent ?_ _, refl mid⟩
  rw [same.stopOf, same.listeners, unheard]

def OnlyFeeds (r : Registry) (n : NodeId) (i : Nat) : Prop :=
  ∀ entry ∈ (r.param ⟨r.firstParam n + i⟩).listeners, entry.2 = .callback (.refresh (r.stopOf n))

private theorem SameWiring.onlyFeeds (h : r.SameWiring after) (only : r.OnlyFeeds n i) :
    after.OnlyFeeds n i := by
  rw [OnlyFeeds, h.firstParam, h.listeners, h.stopOf]
  exact only

theorem PulseReady.onlyFeeds (h : r.PulseReady n) (hi : i < 5) (away : i ≠ 3) : r.OnlyFeeds n i := by
  intro entry mem
  rw [h.feeds i hi away] at mem
  unfold Pulse.listeners at mem
  split at mem
  · exact congrArg (·.2) (List.mem_singleton.mp mem)
  · exact congrArg (·.2) (List.mem_singleton.mp mem)
  · exact absurd mem List.not_mem_nil

/-- A parameter of the pulse has the value, the others have kept theirs. -/
structure Gave (r : Registry) (n : NodeId) (i : Nat) (v : Value) (after : Registry) : Prop where
  wiring : r.SameWiring after
  self : (after.param ⟨r.firstParam n + i⟩).value = v
  others : ∀ j < 5, j ≠ i → j ≠ 3 →
    (after.param ⟨r.firstParam n + j⟩).value = (r.param ⟨r.firstParam n + j⟩).value

private theorem Took.gave (took : r.Took ⟨r.firstParam n + i⟩ v after) : r.Gave n i v after := by
  refine ⟨took.wiring, took.self, fun j _ other _ => took.others _ ?_⟩
  rw [ne_eq, ParamId.mk.injEq]
  omega

namespace Gave

variable (gave : r.Gave n i v after) (wired : r.PulseWired n (r.firstParam n))

include gave wired

theorem cached_self (hi : Pulse.plans[i]? = some plan) : after.cached n plan.name = v := by
  rw [(gave.wiring.pulseWired wired).fitted.cached hi, gave.wiring.firstParam, gave.self]

theorem cached {j : Nat} (hj : Pulse.plans[j]? = some plan) (other : j ≠ i) (away : j ≠ 3) :
    after.cached n plan.name = r.cached n plan.name := by
  have five : j < 5 := (List.getElem?_eq_some_iff.mp hj).1
  rw [(gave.wiring.pulseWired wired).fitted.cached hj, wired.fitted.cached hj, gave.wiring.firstParam,
    gave.others j five other away]

end Gave

theorem Gave.stopValue (gave : r.Gave n 2 v after) : after.stopValue (after.firstParam n) =
    ((r.param (Pulse.startAt (r.firstParam n))).value.add? v).getD .null := by
  have start : (after.param (Pulse.startAt (r.firstParam n))).value =
      (r.param (Pulse.startAt (r.firstParam n))).value :=
    gave.others 1 (by decide) (by decide) (by decide)
  have duration : (after.param (Pulse.durationAt (r.firstParam n))).value = v := gave.self
  rw [gave.wiring.firstParam, Registry.stopValue, start, duration]

private theorem SameState.gave (same : r.SameState mid) (gave : mid.Gave n i v after) :
    r.Gave n i v after where
  wiring := IsTrans.trans _ _ _ same.wiring gave.wiring
  self := same.wiring.firstParam n ▸ gave.self
  others j hj other away := by
    have kept := gave.others j hj other away
    rw [same.wiring.firstParam] at kept
    exact kept.trans (same.value _)

private theorem Gave.leaves (gave : r.Gave n i v mid) (left : mid.Leaves n after) (hi : i < 5)
    (away : i ≠ 3) :
    r.Gave n i v after := by
  have value (j : Nat) (hj : j < 5) (other : j ≠ 3) :
      (after.param ⟨r.firstParam n + j⟩).value = (mid.param ⟨r.firstParam n + j⟩).value := by
    rw [← gave.wiring.firstParam]
    exact left.value j hj other
  exact ⟨IsTrans.trans _ _ _ gave.wiring left.wiring, (value i hi away).trans gave.self,
    fun j hj other away => (value j hj away).trans (gave.others j hj other away)⟩

end Registry

theorem ParamId.tell_all_leaves {handler : Handler} {entries : List (ListenerId × Listener)}
    (each : ∀ entry ∈ entries, ∀ mid, r.SameWiring mid →
      ∃ after, tell handler v entry.2 mid = (.ok (), after) ∧ mid.Leaves n after) :
    ∃ after, (entries.forM fun entry => tell handler v entry.2 : Act RegistryError Unit) r =
      (.ok (), after) ∧ r.Leaves n after := by
  induction entries generalizing r with
  | nil => exact ⟨r, rfl, refl r⟩
  | cons entry rest ih =>
    obtain ⟨mid, told, left⟩ := each entry List.mem_cons_self r (refl r)
    obtain ⟨after, run, left'⟩ := ih fun other mem mid' same =>
      each other (List.mem_cons_of_mem _ mem) mid' (IsTrans.trans _ _ _ left.wiring same)
    refine ⟨after, ?_, IsTrans.trans _ _ _ left left'⟩
    change (tell handler v entry.2 >>= fun _ => rest.forM _) r = _
    rw [Act.bind_run, told]
    exact run

namespace Registry.PulseWired

variable (h : r.PulseWired n (r.firstParam n)) (calm : r.Calm n)

include h calm

/-! ## Parameters that are kept in their caches -/

private theorem refresh_run (enough : 8 ≤ fuel) (v : Value) : ∃ after,
    ParamId.tell (engine fuel) v (.callback (.refresh (r.stopOf n))) r = (.ok (), after) ∧
      r.Leaves n after ∧ after.StopCurrent n := by
  obtain ⟨fuel, rfl⟩ : ∃ k, fuel = k + 2 := ⟨fuel - 2, by omega⟩
  obtain ⟨mid, took, updated⟩ := h.update_stop_run (show 2 ≤ fuel by omega)
  obtain ⟨after, announced, left⟩ := calm mid fuel took.wiring (by omega)
  rw [took.wiring.stopOf] at announced
  have told : ParamId.tell (engine (fuel + 2)) v (.callback (.refresh (r.stopOf n))) r = (do
      let _ ← (do
        let _ ← (r.stopOf n).updateWith (engine fuel)
        return .null : Act RegistryError Value)
      return () : Act RegistryError Unit) r := rfl
  rw [told, Act.bind_run, Act.bind_run, updated]
  cases r.stopValue (r.firstParam n) == (r.param (r.stopOf n)).value with
  | true => exact ⟨mid, rfl, took.leaves, took.stopCurrent⟩
  | false =>
    rw [Bool.not_false, if_pos rfl, Act.bind_run, announced]
    exact ⟨after, rfl, IsTrans.trans _ _ _ took.leaves left, left.current took.stopCurrent⟩

private theorem announce_feed_run (only : r.OnlyFeeds n i) (enough : 8 ≤ fuel) : ∃ after,
    (⟨r.firstParam n + i⟩ : ParamId).announce (engine fuel) r = (.ok (), after) ∧ r.Leaves n after ∧
      ((r.param ⟨r.firstParam n + i⟩).listeners ≠ [] → after.StopCurrent n) := by
  let v := (r.param ⟨r.firstParam n + i⟩).value
  have each (entry) (mem : entry ∈ (r.param ⟨r.firstParam n + i⟩).listeners) (mid : Registry)
      (same : r.SameWiring mid) : ∃ after, ParamId.tell (engine fuel) v entry.2 mid = (.ok (), after) ∧
        mid.Leaves n after ∧ after.StopCurrent n := by
    rw [only entry mem, ← same.stopOf]
    exact (same.pulseWired h).refresh_run (same.calm calm) enough v
  have announced : (⟨r.firstParam n + i⟩ : ParamId).announce (engine fuel) r =
      ((r.param ⟨r.firstParam n + i⟩).listeners.forM fun entry =>
        ParamId.tell (engine fuel) v entry.2 : Act RegistryError Unit) r := rfl
  rw [announced]
  cases listeners : (r.param ⟨r.firstParam n + i⟩).listeners with
  | nil => exact ⟨r, rfl, refl r, fun none => absurd rfl none⟩
  | cons entry rest =>
    rw [listeners] at each
    obtain ⟨mid, told, left, current⟩ := each entry List.mem_cons_self r (refl r)
    obtain ⟨after, run, left'⟩ := ParamId.tell_all_leaves fun other mem mid' same => by
      obtain ⟨after, told, left, -⟩ := each other (List.mem_cons_of_mem _ mem) mid'
        (IsTrans.trans _ _ _ left.wiring same)
      exact ⟨after, told, left⟩
    refine ⟨after, ?_, IsTrans.trans _ _ _ left left', fun _ => left'.current current⟩
    change (ParamId.tell (engine fuel) v entry.2 >>= fun _ => rest.forM _) r = _
    rw [Act.bind_run, told]
    exact run

private theorem setWith_gave (hi : Pulse.plans[i]? = some plan) (plain : plan.Plain) (away : i ≠ 3)
    (only : r.OnlyFeeds n i) (accepted : plan.validator.validate v = .ok ()) (enough : 8 ≤ fuel) :
    ∃ after, (⟨r.firstParam n + i⟩ : ParamId).setWith (engine fuel) v r = (.ok (), after) ∧
      r.Gave n i v after ∧
      (r.StopCurrent n → (i = 1 ∨ i = 2 → (r.param ⟨r.firstParam n + i⟩).listeners ≠ []) →
        after.StopCurrent n) := by
  obtain ⟨mid, took, run⟩ := h.fitted.setWith_run hi plain accepted (engine fuel)
  have wiring := took.wiring
  obtain ⟨after, announced, left, refreshed⟩ := (wiring.pulseWired h).announce_feed_run
    (wiring.calm calm) (wiring.onlyFeeds only) enough
  rw [wiring.firstParam] at announced refreshed
  rw [wiring.listeners] at refreshed
  have five : i < 5 := (List.getElem?_eq_some_iff.mp hi).1
  refine ⟨after, run.trans announced, took.gave.leaves left five away, fun current heard => ?_⟩
  by_cases feeds : i = 1 ∨ i = 2
  · exact refreshed (heard feeds)
  · refine left.current (wiring.stopCurrent current fun j low high => took.others _ ?_)
    rw [ne_eq, ParamId.mk.injEq]
    omega

/-! ## The stop -/

theorem stop_setWith_gave (only : r.OnlyFeeds n 2) {duration : Value}
    (valid : (r.param (r.stopOf n)).validator.validate v = .ok ())
    (left : v.requireSub (r.param (Pulse.startAt (r.firstParam n))).value = .ok duration)
    (accepted : (r.param (Pulse.durationAt (r.firstParam n))).validator.validate duration = .ok ())
    (enough : 8 ≤ fuel) : ∃ after, (r.stopOf n).setWith (engine (fuel + 2)) v r = (.ok (), after) ∧
      r.Gave n 2 duration after ∧ after.StopCurrent n := by
  obtain ⟨s, same, run⟩ := h.stop_setWith_run valid left (show 1 ≤ fuel by omega)
  have validator : (r.param (Pulse.durationAt (r.firstParam n))).validator = _ :=
    h.fitted.validator (i := 2) rfl
  rw [validator] at accepted
  obtain ⟨mid, set, given, -⟩ := (same.wiring.pulseWired h).setWith_gave
    (same.wiring.calm calm) (i := 2) rfl ⟨rfl, rfl, rfl⟩ (by decide) (same.wiring.onlyFeeds only)
    accepted enough
  have gave := same.gave given
  rw [same.wiring.firstParam] at set
  rw [Pulse.durationAt, set] at run
  obtain ⟨t, took, run⟩ := run (gave.wiring.pulseWired h) (gave.wiring.firstParam n)
  have wiring := IsTrans.trans _ _ _ gave.wiring took.wiring
  rw [← gave.wiring.stopOf, ← gave.wiring.firstParam] at took
  obtain ⟨after, announced, left⟩ := calm t (fuel + 2) wiring (by omega)
  rw [wiring.stopOf] at announced
  exact ⟨after, run.trans announced,
    (gave.leaves took.leaves (by decide) (by decide)).leaves left (by decide) (by decide),
    left.current took.stopCurrent⟩

/-! ## Sets of the user -/

theorem set_gave (hi : Pulse.plans[i]? = some plan) (plain : plan.Plain) (away : i ≠ 3)
    (only : r.OnlyFeeds n i) (accepted : plan.validator.validate v = .ok ()) :
    ∃ after, n.set plan.name v r = (.ok (), after) ∧ r.Gave n i v after ∧
      (r.StopCurrent n → (i = 1 ∨ i = 2 → (r.param ⟨r.firstParam n + i⟩).listeners ≠ []) →
        after.StopCurrent n) := by
  obtain ⟨fuel, enough, set⟩ := h.fitted.set_run hi v
  obtain ⟨after, run, given⟩ := h.setWith_gave calm hi plain away only accepted
    (show 8 ≤ fuel by omega)
  exact ⟨after, set.trans run, given⟩

theorem set_stop_gave (only : r.OnlyFeeds n 2) {duration : Value}
    (valid : (r.param (r.stopOf n)).validator.validate v = .ok ())
    (left : v.requireSub (r.param (Pulse.startAt (r.firstParam n))).value = .ok duration)
    (accepted : (r.param (Pulse.durationAt (r.firstParam n))).validator.validate duration = .ok ()) :
    ∃ after, n.set "t_stop" v r = (.ok (), after) ∧ r.Gave n 2 duration after ∧
      after.StopCurrent n := by
  obtain ⟨fuel, enough, set⟩ := h.fitted.set_run (i := 3) rfl v
  obtain ⟨fuel, rfl⟩ : ∃ k, fuel = k + 2 := ⟨fuel - 2, by omega⟩
  obtain ⟨after, run, given⟩ := h.stop_setWith_gave calm only valid left accepted
    (show 8 ≤ fuel by omega)
  exact ⟨after, set.trans run, given⟩

theorem sameState_of_failed_set_stop (only : r.OnlyFeeds n 2) {halt : Halt RegistryError}
    (failed : n.set "t_stop" v r = (.error halt, after)) : r.SameState after := by
  obtain ⟨fuel, enough, set⟩ := h.fitted.set_run (i := 3) rfl v
  obtain ⟨fuel, rfl⟩ : ∃ k, fuel = k + 2 := ⟨fuel - 2, by omega⟩
  rcases h.stop_refused_or_accepted (show 1 ≤ fuel by omega) v with
    ⟨_, s, same, run⟩ | ⟨valid, duration, left, accepted⟩
  · cases failed.symm.trans (set.trans run)
    exact same
  · obtain ⟨s, run, -⟩ := h.set_stop_gave calm only valid left accepted
    cases failed.symm.trans run

end Registry.PulseWired
end LabRegistry

import LabRegistry.Proofs.Pulse.Consistent
import LabRegistry.Proofs.Sequence.Overlap

/-!
# Reading the times of pulses

Whether two pulses overlap is decided by their starts and by the sums of start and duration, whatever
the caches of the stops hold. These caches are all that reading the times changes.
-/
namespace LabRegistry

open Registry

variable {ε α β : Type} {r mid after : Registry} {n m : NodeId} {p : ParamId} {x : α} {v : Value}
  {plan : ParameterPlan} {i fuel : Nat}

namespace Registry

/-- The wiring and all values are the same, except that stops may have been brought up to date. -/
structure Reread (r after : Registry) : Prop where
  wiring : r.SameWiring after
  value : ∀ p, (after.param p).value = (r.param p).value ∨ ∃ n, r.PulseWired n (r.firstParam n) ∧
    p = r.stopOf n ∧ (after.param p).value = r.stopValue (r.firstParam n)

theorem SameState.reread (h : r.SameState after) :
    r.Reread after := ⟨h.wiring, fun p => .inl (h.value p)⟩

private theorem Reread.value_of_name (h : r.Reread after) (other : (r.param p).name ≠ "t_stop") :
    (after.param p).value = (r.param p).value := by
  rcases h.value p with same | ⟨n, wired, rfl, -⟩
  · exact same
  · exact absurd wired.stop_name other

/-- Of the parameters of a pulse only the stop may have been brought up to date. -/
theorem Reread.value_of_owner (h : r.Reread after) (owner : (r.param p).owner = some n) :
    (after.param p).value = (r.param p).value ∨
      p = r.stopOf n ∧ (after.param p).value = r.stopValue (r.firstParam n) := by
  refine (h.value p).imp_right fun ⟨m, wired, stop, value⟩ => ?_
  have same : some n = some m := by
    rw [← owner, stop]
    exact wired.fitted.owner (i := 3) rfl
  cases same
  exact ⟨stop, value⟩

namespace PulseWired

variable (h : r.PulseWired n (r.firstParam n))

include h

private theorem start_value_reread (same : r.Reread after) :
    (after.param (Pulse.startAt (r.firstParam n))).value =
      (r.param (Pulse.startAt (r.firstParam n))).value := by
  have name : (r.param (Pulse.startAt (r.firstParam n))).name = "t_start" := h.fitted.name (i := 1) rfl
  exact same.value_of_name (name ▸ by decide)

theorem stopValue_reread (same : r.Reread after) :
    after.stopValue (r.firstParam n) = r.stopValue (r.firstParam n) := by
  have name : (r.param (Pulse.durationAt (r.firstParam n))).name = "duration" :=
    h.fitted.name (i := 2) rfl
  rw [stopValue, h.start_value_reread same, same.value_of_name (name ▸ by decide), stopValue]

private theorem reread_of_took (took : r.Took (r.stopOf n) (r.stopValue (r.firstParam n)) after) :
    r.Reread after := by
  refine ⟨took.wiring, fun p => ?_⟩
  by_cases stop : p = r.stopOf n
  · exact .inr ⟨n, h, stop, stop ▸ took.self⟩
  · exact .inl (took.others p stop)

end PulseWired

instance : IsPreorder Registry Reread where
  refl r := ⟨refl r, fun _ => .inl rfl⟩
  trans r mid _ h h' := by
    refine ⟨IsTrans.trans _ _ _ h.wiring h'.wiring, fun p => ?_⟩
    rcases h'.value p with same | ⟨n, wired, stop, value⟩
    · rw [same]
      exact h.value p
    · have before : r.PulseWired n (r.firstParam n) := h.wiring.symm.pulseWired wired
      rw [h.wiring.firstParam, before.stopValue_reread h] at value
      exact .inr ⟨n, before, stop.trans (h.wiring.stopOf n), value⟩

/-- What a get of a parameter of a pulse gives: of the stop the sum of start and duration, of any
other what is in its cache. -/
def got (r : Registry) (n : NodeId) (name : String) : Value :=
  if name = "t_stop" then r.stopValue (r.firstParam n) else r.cached n name

def times (r : Registry) (n : NodeId) : Option (Double × Double) :=
  (r.param (Pulse.startAt (r.firstParam n))).value.toDouble?.bind fun start =>
    (r.stopValue (r.firstParam n)).toDouble?.map fun stop => (start, stop)

end Registry

/-- The operation gives `x` and changes nothing but the caches of stops. -/
def Act.Rereads (act : Act ε α) (r : Registry) (x : α) : Prop :=
  ∃ after, act r = (.ok x, after) ∧ r.Reread after

namespace Act.Rereads

theorem pure (x : α) : (Pure.pure x : Act ε α).Rereads r x := ⟨r, rfl, refl r⟩

theorem bind {act : Act ε α} {next : α → Act ε β} {y : β} (h : act.Rereads r x)
    (hnext : ∀ after, r.Reread after → (next x).Rereads after y) : (act >>= next).Rereads r y := by
  obtain ⟨after, run, same⟩ := h
  obtain ⟨final, run', same'⟩ := hnext after same
  exact ⟨final, by rw [bind_run, run]; exact run', IsTrans.trans _ _ _ same same'⟩

theorem lift {act : Act RegistryError α} (h : act.Rereads r x) :
    (liftM act : Act DomainError α).Rereads r x := by
  obtain ⟨after, run, same⟩ := h
  exact ⟨after, Act.lift_ok run, same⟩

end Act.Rereads

theorem Act.Reads.rereads {act : Act ε α} (h : act.Reads r x False) : act.Rereads r x := by
  obtain ⟨after, run, same⟩ := h.run
  exact ⟨after, run, same.reread⟩

namespace Registry.PulseWired

variable (h : r.PulseWired n (r.firstParam n))

include h

theorem cached_reread {name : String} (same : r.Reread after) (other : name ≠ "t_stop") :
    after.cached n name = r.cached n name := by
  by_cases known : name ∈ Pulse.plans.map (·.name)
  · obtain ⟨i, plan, hi, rfl⟩ := ParameterPlan.exists_of_mem_names known
    rw [(h.of_wiring same.wiring).fitted.cached hi, h.fitted.cached hi,
      same.value_of_name (h.fitted.name hi ▸ other)]
  · rw [(h.of_wiring same.wiring).fitted.cached_of_unknown known, h.fitted.cached_of_unknown known]

theorem got_reread (same : r.Reread after) (name : String) : after.got n name = r.got n name := by
  by_cases stop : name = "t_stop"
  · rw [got, if_pos stop, same.wiring.firstParam, h.stopValue_reread same, got, if_pos stop]
  · rw [got, if_neg stop, h.cached_reread same stop, got, if_neg stop]

theorem isEnabled_reread (same : r.Reread after) : after.isEnabled n = r.isEnabled n := by
  have name : (r.param ⟨r.firstParam n⟩).name = "enabled" := h.fitted.name (i := 0) rfl
  rw [(same.wiring.pulseWired h).isEnabled, h.isEnabled, same.wiring.firstParam,
    same.value_of_name (name ▸ by decide)]

private theorem getWith_reads (hi : Pulse.plans[i]? = some plan) (other : plan.name ≠ "t_stop")
    (enough : 1 ≤ fuel) : (n.getWith (engine fuel) plan.name).Reads r (r.got n plan.name) False := by
  have cached : ∀ plan ∈ Pulse.plans, plan.name ≠ "t_stop" → plan.getSource = .cache := by
    simp [Pulse.plans, ParameterPlan.delegated]
  have read := h.fitted.getWith_reads hi (cached plan (List.mem_of_getElem? hi) other) fuel
  rw [got, if_neg other, h.fitted.cached hi]
  exact read.mono fun few => by omega

theorem getWith_rereads (hi : Pulse.plans[i]? = some plan) (enough : 3 ≤ fuel) :
    (n.getWith (engine fuel) plan.name).Rereads r (r.got n plan.name) := by
  by_cases stop : plan.name = "t_stop"
  · obtain ⟨fuel, rfl⟩ : ∃ k, fuel = k + 1 := ⟨fuel - 1, by omega⟩
    have found : n.getWith (engine (fuel + 1)) "t_stop" r =
        (Pulse.stopAt (r.firstParam n)).getWith (engine fuel) r := by
      rw [NodeId.getWith, Act.bind_run, h.parameter_stop]
      rfl
    rw [got, if_pos stop, stop]
    rcases h.stop_getWith_takes fuel with ⟨after, run, took⟩ | ⟨_, few, _⟩
    · exact ⟨after, found.trans run, h.reread_of_took took⟩
    · omega
  · exact (h.getWith_reads hi stop (by omega)).rereads

theorem get_reads (hi : Pulse.plans[i]? = some plan) (other : plan.name ≠ "t_stop") :
    (n.get plan.name).Reads r (r.got n plan.name) False :=
  have enough := r.fuel_le
  .of_getWith 1 (by decide) ((h.getWith_reads hi other (by omega)).mono False.elim)

theorem get_rereads (hi : Pulse.plans[i]? = some plan) :
    (n.get plan.name).Rereads r (r.got n plan.name) := by
  have enough := r.fuel_le
  rw [Act.Rereads, n.get_run]
  exact h.getWith_rereads hi (by omega)

private theorem times_reread (same : r.Reread after) : after.times n = r.times n := by
  rw [times, same.wiring.firstParam, h.start_value_reread same, h.stopValue_reread same, times]

theorem start?_rereads :
    (Pulse.start? n).Rereads r (r.param (Pulse.startAt (r.firstParam n))).value.toDouble? := by
  have start : r.cached n "t_start" = _ := h.fitted.cached (i := 1) rfl
  have read : (n.get "t_start").Rereads r (r.cached n "t_start") := h.get_rereads (i := 1) rfl
  rw [Pulse.startAt, ← start]
  exact .bind read.lift fun _ _ => .pure _

theorem stop?_rereads : (Pulse.stop? n).Rereads r (r.stopValue (r.firstParam n)).toDouble? := by
  have read : (n.get "t_stop").Rereads r (r.stopValue (r.firstParam n)) := h.get_rereads (i := 3) rfl
  exact .bind read.lift fun _ _ => .pure _

private theorem interval?_rereads : (Pulse.interval? n).Rereads r (r.times n) := by
  refine .bind h.start?_rereads fun mid same => ?_
  have stop := (same.wiring.pulseWired h).stop?_rereads
  rw [same.wiring.firstParam, h.stopValue_reread same] at stop
  exact .bind stop fun _ _ => .pure _

theorem overlaps_rereads (h' : r.PulseWired m (r.firstParam m)) :
    (Pulse.overlaps n m).Rereads r (Pulse.intervalsMeet (r.times n) (r.times m)) := by
  refine .bind h.interval?_rereads fun mid same => ?_
  have theirs := (same.wiring.pulseWired h').interval?_rereads
  rw [h'.times_reread same] at theirs
  exact .bind theirs fun _ _ => .pure _

end Registry.PulseWired
end LabRegistry

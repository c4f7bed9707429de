import LabRegistry.Proofs.Pulse.Ready

/-!
# Setting the times of a pulse

A set of the start or the duration of a pulse takes the value over, then the stop that follows from
it, and tells the listeners of the stop if the stop changed. A set of the stop sets the duration,
reads the stop back and tells its listeners once more. What these do is left open here.
-/
namespace LabRegistry

open Registry

variable {r after : Registry} {n : NodeId} {i fuel : Nat} {v : Value}

theorem ParamId.announce_silent {p : ParamId} (silent : (r.param p).listeners = [])
    (handler : Handler) : p.announce handler r = (.ok (), r) := by
  rw [announce, Act.bind_run, state_run]
  dsimp only
  rw [silent]
  rfl

theorem ParamId.updateWith_silent {p : ParamId} {handler : Handler}
    (got : p.getWith handler r = (.ok v, after)) (silent : (after.param p).listeners = []) :
    p.updateWith handler r = (.ok v, after) := by
  rw [updateWith, Act.bind_run, state_run]
  dsimp only
  rw [Act.bind_run, got]
  dsimp only
  split
  · rw [Act.bind_run, announce_silent silent]
    rfl
  · rfl

private theorem NodeId.setWith_run {name : String} {p : ParamId}
    (found : n.parameter name r = (.ok p, r)) (fuel : Nat) (v : Value) :
    n.setWith (engine (fuel + 1)) name v r = p.setWith (engine fuel) v r := by
  rw [setWith, Act.bind_run, found]
  change (do
    let _ ← (do
      p.setWith (engine fuel) v
      return .null : Act RegistryError Value)
    return () : Act RegistryError Unit) r = _
  rw [Act.bind_run, Act.bind_run]
  rcases p.setWith (engine fuel) v r with ⟨_ | _, _⟩ <;> rfl

/-- The parameter keeps in its cache what it is set to. -/
structure ParameterPlan.Plain (plan : ParameterPlan) : Prop where
  getSource : plan.getSource = .cache
  setSource : plan.setSource = none
  setParser : plan.setParser = none

namespace Registry

section

variable {first : Nat} {plan : ParameterPlan} {plans : List ParameterPlan}
  (h : r.Fitted n first plans) (hi : plans[i]? = some plan)

include h hi

theorem Fitted.validator : (r.param ⟨first + i⟩).validator = plan.validator :=
  congrArg (·.validator) (h.setup i plan hi)

theorem Fitted.set_run (v : Value) : ∃ fuel, 399999 ≤ fuel ∧
    n.set plan.name v r = (⟨first + i⟩ : ParamId).setWith (engine fuel) v r := by
  obtain ⟨fuel, enough, run⟩ := ParamId.set_run ⟨first + i⟩ v r
  refine ⟨fuel, enough, ?_⟩
  rw [NodeId.set, Act.bind_run, h.parameter_run hi]
  exact run

theorem Fitted.setWith_refused (plain : plan.Plain) {v : Value} {reason : String}
    (refused : plan.validator.validate v = .error reason) (handler : Handler) :
    (⟨first + i⟩ : ParamId).setWith handler v r =
      (.error (r.naming ⟨first + i⟩ (.invalidValue · reason)), r) := by
  have source : (r.param ⟨first + i⟩).setSource = .cache := by
    rw [h.setSource hi, plain.setSource, plain.getSource]
    rfl
  rw [ParamId.setWith, Act.bind_run,
    ParamId.write_run_of_cache source ((h.setParser hi).trans plain.setParser), h.validator hi, refused]

theorem Fitted.setWith_run (plain : plan.Plain) {v : Value}
    (accepted : plan.validator.validate v = .ok ()) (handler : Handler) :
    ∃ s, r.Took ⟨first + i⟩ v s ∧
      (⟨first + i⟩ : ParamId).setWith handler v r = (⟨first + i⟩ : ParamId).announce handler s := by
  have source : (r.param ⟨first + i⟩).setSource = .cache := by
    rw [h.setSource hi, plain.setSource, plain.getSource]
    rfl
  obtain ⟨s, run, recorded⟩ := ParamId.record_spoken (h.speaksAt hi) v v
  refine ⟨s, recorded.took (h.lt_size hi), ?_⟩
  rw [ParamId.setWith, Act.bind_run,
    ParamId.write_run_of_cache source ((h.setParser hi).trans plain.setParser), h.validator hi, accepted]
  dsimp only
  rw [run]

theorem Fitted.setWith_silent (plain : plan.Plain) (silent : (r.param ⟨first + i⟩).listeners = [])
    {v : Value} (accepted : plan.validator.validate v = .ok ()) (handler : Handler) :
    ∃ s, r.Took ⟨first + i⟩ v s ∧ (⟨first + i⟩ : ParamId).setWith handler v r = (.ok (), s) := by
  obtain ⟨s, took, run⟩ := h.setWith_run hi plain accepted handler
  refine ⟨s, took, run.trans (ParamId.announce_silent ?_ handler)⟩
  rw [took.wiring.listeners, silent]

end

namespace PulseWired

variable (h : r.PulseWired n (r.firstParam n))

include h

/-! ## Start and duration -/

theorem update_stop_run (enough : 2 ≤ fuel) :
    ∃ s, r.Took (r.stopOf n) (r.stopValue (r.firstParam n)) s ∧
      (r.stopOf n).updateWith (engine fuel) r = (do
        if !(r.stopValue (r.firstParam n) == (r.param (r.stopOf n)).value) then
          (r.stopOf n).announce (engine fuel)
        return r.stopValue (r.firstParam n) : Act RegistryError Value) s := by
  rcases h.stop_getWith_takes fuel with ⟨s, run, took⟩ | ⟨_, few, _⟩
  case inr => omega
  refine ⟨s, took, ?_⟩
  rw [ParamId.updateWith, Act.bind_run, ParamId.state_run]
  dsimp only
  rw [Act.bind_run, stopOf, run]

private theorem feed_planned (hi : i = 1 ∨ i = 2) :
    ∃ plan, Pulse.plans[i]? = some plan ∧ plan.Plain ∧
    (r.param ⟨r.firstParam n + i⟩).validator = plan.validator := by
  rcases hi with rfl | rfl
  · exact ⟨_, rfl, ⟨rfl, rfl, rfl⟩, h.fitted.validator (i := 1) rfl⟩
  · exact ⟨_, rfl, ⟨rfl, rfl, rfl⟩, h.fitted.validator (i := 2) rfl⟩

theorem feed_setWith_refused (hi : i = 1 ∨ i = 2) {reason : String}
    (refused : (r.param ⟨r.firstParam n + i⟩).validator.validate v = .error reason)
    (handler : Handler) : (⟨r.firstParam n + i⟩ : ParamId).setWith handler v r =
      (.error (r.naming ⟨r.firstParam n + i⟩ (.invalidValue · reason)), r) := by
  obtain ⟨plan, planned, plain, validator⟩ := h.feed_planned hi
  exact h.fitted.setWith_refused planned plain (validator ▸ refused) handler

/-! ## The stop -/

private theorem stop_write_run (handler : Handler) (v : Value) :
    (r.stopOf n).write handler v r = (do
      let raw ← (r.stopOf n).rawOf handler v
      let _ ← handler (.call .setPulseStop (.delegate n (r.stopOf n) raw))
      let _ ← handler (.call .pulseStop (.delegate n (r.stopOf n) .null)) >>=
        (r.stopOf n).receive handler
      return ()) r :=
  ParamId.write_run_of_owner (h.fitted.setSource (i := 3) rfl) h.stop_owner
    h.stop_delegates handler v

theorem stop_setWith_refused {reason : String}
    (refused : (r.param (r.stopOf n)).validator.validate v = .error reason) (handler : Handler) :
    (r.stopOf n).setWith handler v r =
      (.error (r.naming (r.stopOf n) (.invalidValue · reason)), r) := by
  have plain : (r.param (r.stopOf n)).setParser = none := h.fitted.setParser (i := 3) rfl
  rw [ParamId.setWith, Act.bind_run, h.stop_write_run, Act.bind_run, ParamId.rawOf_run plain, refused]

private theorem setPulseStop_call_run (enough : 1 ≤ fuel) (v : Value) : ∃ s, r.SameState s ∧
    engine (fuel + 2) (.call .setPulseStop (.delegate n (r.stopOf n) v)) r =
      (do
        let duration ← Act.ofExcept (v.requireSub (r.param (Pulse.startAt (r.firstParam n))).value)
        (Pulse.durationAt (r.firstParam n)).setWith (engine fuel) duration
        return .null : Act RegistryError Value) s := by
  obtain ⟨s, same, run | ⟨few, -⟩⟩ := h.start_reads (fuel + 1)
  case inr => omega
  refine ⟨s, same, ?_⟩
  have found : n.parameter "duration" s = (.ok (Pulse.durationAt (r.firstParam n)), s) :=
    (h.of_wiring same.wiring).parameter_duration
  change (do
    n.setPulseStop (engine (fuel + 1)) v
    return .null : Act RegistryError Value) r = _
  rw [Act.bind_run, NodeId.setPulseStop, Act.bind_run, run]
  dsimp only
  rw [Act.bind_run, Act.bind_run]
  cases v.requireSub (r.param (Pulse.startAt (r.firstParam n))).value with
  | error cause => rfl
  | ok duration =>
    simp only [Act.ofExcept, Act.pure_run]
    rw [NodeId.setWith_run found, Act.bind_run]
    rcases (Pulse.durationAt (r.firstParam n)).setWith (engine fuel) duration s with
      ⟨_ | _, _⟩ <;> rfl

theorem stop_setWith_failed {cause : RegistryError}
    (accepted : (r.param (r.stopOf n)).validator.validate v = .ok ())
    (failed : v.requireSub (r.param (Pulse.startAt (r.firstParam n))).value = .error cause)
    (enough : 1 ≤ fuel) : ∃ s, r.SameState s ∧
      (r.stopOf n).setWith (engine (fuel + 2)) v r = (.error (.failed cause), s) := by
  have plain : (r.param (r.stopOf n)).setParser = none := h.fitted.setParser (i := 3) rfl
  obtain ⟨s, same, called⟩ := h.setPulseStop_call_run enough v
  refine ⟨s, same, ?_⟩
  rw [ParamId.setWith, Act.bind_run, h.stop_write_run, Act.bind_run, ParamId.rawOf_run plain, accepted]
  dsimp only
  rw [Act.bind_run, called, failed]
  rfl

theorem stop_setWith_run {duration : Value}
    (accepted : (r.param (r.stopOf n)).validator.validate v = .ok ())
    (left : v.requireSub (r.param (Pulse.startAt (r.firstParam n))).value = .ok duration)
    (enough : 1 ≤ fuel) : ∃ s, r.SameState s ∧
      match (Pulse.durationAt (r.firstParam n)).setWith (engine fuel) duration s with
      | (.error halt, after) => (r.stopOf n).setWith (engine (fuel + 2)) v r = (.error halt, after)
      | (.ok (), after) => after.PulseWired n (after.firstParam n) →
          after.firstParam n = r.firstParam n →
          ∃ t, after.Took (r.stopOf n) (after.stopValue (r.firstParam n)) t ∧
            (r.stopOf n).setWith (engine (fuel + 2)) v r =
              (r.stopOf n).announce (engine (fuel + 2)) t := by
  have plain : (r.param (r.stopOf n)).setParser = none := h.fitted.setParser (i := 3) rfl
  obtain ⟨s, same, called⟩ := h.setPulseStop_call_run enough v
  refine ⟨s, same, ?_⟩
  have written : (r.stopOf n).setWith (engine (fuel + 2)) v r = (do
      (do
        (Pulse.durationAt (r.firstParam n)).setWith (engine fuel) duration
        let _ ← engine (fuel + 2) (.call .pulseStop (.delegate n (r.stopOf n) .null)) >>=
          (r.stopOf n).receive (engine (fuel + 2))
        return ())
      (r.stopOf n).announce (engine (fuel + 2)) : Act RegistryError Unit) s := by
    rw [ParamId.setWith, Act.bind_run, h.stop_write_run, Act.bind_run, ParamId.rawOf_run plain,
      accepted]
    dsimp only
    simp only [Act.bind_run, called, left, Act.ofExcept, Act.pure_run]
    rcases (Pulse.durationAt (r.firstParam n)).setWith (engine fuel) duration s with
      ⟨_ | _, _⟩ <;> rfl
  rw [written, Act.bind_run, Act.bind_run]
  rcases (Pulse.durationAt (r.firstParam n)).setWith (engine fuel) duration s with
    ⟨halt | u, after⟩
  · rfl
  · intro wired first
    rw [first] at wired
    rcases wired.stop_receive_takes (fuel + 2) with ⟨t, read, took⟩ | ⟨_, few, _⟩
    case inr => omega
    refine ⟨t, took, ?_⟩
    dsimp only
    rw [Act.bind_run, stopOf, read]
    rfl

theorem stop_setWith_unfit {duration : Value} {reason : String}
    (accepted : (r.param (r.stopOf n)).validator.validate v = .ok ())
    (left : v.requireSub (r.param (Pulse.startAt (r.firstParam n))).value = .ok duration)
    (refused : (r.param (Pulse.durationAt (r.firstParam n))).validator.validate duration = .error reason)
    (enough : 1 ≤ fuel) : ∃ s, r.SameState s ∧ (r.stopOf n).setWith (engine (fuel + 2)) v r =
      (.error (r.naming (Pulse.durationAt (r.firstParam n)) (.invalidValue · reason)), s) := by
  obtain ⟨s, same, run⟩ := h.stop_setWith_run accepted left enough
  have first := same.wiring.firstParam n
  have failed := (same.wiring.pulseWired h).feed_setWith_refused (i := 2) (.inr rfl)
    (by rw [first, same.wiring.validator]; exact refused) (engine fuel)
  rw [first, same.wiring.naming] at failed
  rw [Pulse.durationAt, failed] at run
  exact ⟨s, same, run⟩

theorem stop_refused_or_accepted (enough : 1 ≤ fuel) (v : Value) :
    (∃ halt s, r.SameState s ∧ (r.stopOf n).setWith (engine (fuel + 2)) v r = (.error halt, s)) ∨
      (r.param (r.stopOf n)).validator.validate v = .ok () ∧ ∃ duration,
        v.requireSub (r.param (Pulse.startAt (r.firstParam n))).value = .ok duration ∧
        (r.param (Pulse.durationAt (r.firstParam n))).validator.validate duration = .ok () := by
  cases valid : (r.param (r.stopOf n)).validator.validate v with
  | error reason => exact .inl ⟨_, r, refl r, h.stop_setWith_refused valid _⟩
  | ok _ =>
  cases left : v.requireSub (r.param (Pulse.startAt (r.firstParam n))).value with
  | error cause =>
    obtain ⟨s, same, run⟩ := h.stop_setWith_failed valid left enough
    exact .inl ⟨_, s, same, run⟩
  | ok duration =>
  cases accepted : (r.param (Pulse.durationAt (r.firstParam n))).validator.validate duration with
  | ok _ => exact .inr ⟨rfl, duration, rfl, accepted⟩
  | error reason =>
    obtain ⟨s, same, run⟩ := h.stop_setWith_unfit valid left accepted enough
    exact .inl ⟨_, s, same, run⟩

end PulseWired

namespace PulseReady

variable (ready : r.PulseReady n)

include ready

theorem feed_setWith_run (hi : i = 1 ∨ i = 2) (enough : 2 ≤ fuel)
    (accepted : (r.param ⟨r.firstParam n + i⟩).validator.validate v = .ok ()) :
    ∃ s s', r.Took ⟨r.firstParam n + i⟩ v s ∧
      s.Took (s.stopOf n) (s.stopValue (s.firstParam n)) s' ∧
      (⟨r.firstParam n + i⟩ : ParamId).setWith (engine (fuel + 2)) v r =
        if s.stopValue (s.firstParam n) == (r.param (r.stopOf n)).value then (.ok (), s')
        else (s.stopOf n).announce (engine fuel) s' := by
  obtain ⟨plan, planned, plain, validator⟩ := ready.feed_planned hi
  obtain ⟨s, took, run⟩ :=
    ready.fitted.setWith_run planned plain (validator ▸ accepted) (engine (fuel + 2))
  have wiring := took.wiring
  obtain ⟨s', took', updated⟩ := (wiring.pulseReady ready).update_stop_run enough
  have stop : (s.param (s.stopOf n)).value = (r.param (r.stopOf n)).value := by
    rw [wiring.stopOf]
    apply took.others
    rw [stopOf, Pulse.stopAt, ne_eq, ParamId.mk.injEq]
    omega
  have heard : (s.param ⟨r.firstParam n + i⟩).listeners =
      [(⟨0⟩, .callback (.refresh (s.stopOf n)))] := by
    rw [wiring.listeners, ready.feeds i (by omega) (by omega), wiring.stopOf]
    rcases hi with rfl | rfl <;> rfl
  have announced : (⟨r.firstParam n + i⟩ : ParamId).announce (engine (fuel + 2)) s = (do
      let _ ← (do
        let _ ← (do
          let _ ← (s.stopOf n).updateWith (engine fuel)
          return .null : Act RegistryError Value)
        return () : Act RegistryError Unit)
      return () : Act RegistryError Unit) s := by
    rw [ParamId.announce, Act.bind_run, ParamId.state_run]
    dsimp only
    rw [heard]
    rfl
  refine ⟨s, s', took, took', run.trans ?_⟩
  rw [announced, Act.bind_run, Act.bind_run, Act.bind_run, updated, stop]
  cases s.stopValue (s.firstParam n) == (r.param (r.stopOf n)).value with
  | true => rfl
  | false =>
    simp only [Bool.not_false, if_true, Bool.false_eq_true, if_false]
    rw [Act.bind_run]
    rcases (s.stopOf n).announce (engine fuel) s' with ⟨_ | _, _⟩ <;> rfl

/-- The stop that is read back after the duration was set is the one that the duration brought up to
date. -/
theorem stop_setWith_outcome (enough : 1 ≤ fuel) (v : Value) :
    (∃ halt s, r.SameState s ∧ (r.stopOf n).setWith (engine (fuel + 2)) v r = (.error halt, s)) ∨
      ∃ duration s, r.SameState s ∧
        (s.param (Pulse.durationAt (r.firstParam n))).validator.validate duration = .ok () ∧
        match (Pulse.durationAt (r.firstParam n)).setWith (engine fuel) duration s with
        | (.error halt, after) => (r.stopOf n).setWith (engine (fuel + 2)) v r = (.error halt, after)
        | (.ok (), after) => after.PulseReady n → after.firstParam n = r.firstParam n →
            after.StopCurrent n → ∃ t, after.SameState t ∧
              (r.stopOf n).setWith (engine (fuel + 2)) v r =
                (r.stopOf n).announce (engine (fuel + 2)) t := by
  refine (ready.stop_refused_or_accepted enough v).imp_right ?_
  rintro ⟨valid, duration, left, accepted⟩
  obtain ⟨s, same, run⟩ := ready.stop_setWith_run valid left enough
  refine ⟨duration, s, same, (congrArg (·.validate duration) (same.wiring.validator _)).trans accepted, ?_⟩
  rcases set : (Pulse.durationAt (r.firstParam n)).setWith (engine fuel) duration s with
    ⟨halt | u, after⟩
  all_goals rw [set] at run
  · exact run
  · intro ready' first current
    obtain ⟨t, took, run⟩ := run ready'.toPulseWired first
    refine ⟨t, ⟨took.wiring, took.bench, fun p => ?_⟩, run⟩
    by_cases stop : p = r.stopOf n
    · rw [StopCurrent, stopOf, first, ← stopOf] at current
      rw [stop, took.self, current]
    · exact took.others p stop

end PulseReady
end Registry
end LabRegistry

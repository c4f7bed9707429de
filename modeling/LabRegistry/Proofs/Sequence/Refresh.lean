import LabRegistry.Proofs.Sequence.Timing

/-!
# How the duration of a sequence is refreshed

Getting the duration of a sequence reads the stops of its members, and updating it takes the result
into its cache, to which nothing listens.
-/
namespace LabRegistry

open Registry

variable {r after : Registry} {n : NodeId} {s t : SequenceId} {pulses : Set NodeId} {fuel : Nat}

theorem ParamId.tell_refreshOwned_of_dead {p : ParamId} (gone : r.owner? p = none) (v : Value) :
    tell (engine (fuel + 1)) v (.callback (.refreshOwned p)) r = (.ok (), r) := by
  have asked : (p.owner? : Act RegistryError (Option NodeId)) r = (.ok none, r) := by
    rw [← gone]
    rfl
  have called : engine (fuel + 1) (.call (.refreshOwned p) (.withValue v)) r = (.ok .null, r) := by
    change (Callable.refreshOwned p).run (engine fuel) (.withValue v) r = _
    rw [Callable.run, Act.bind_run, asked]
    rfl
  rw [tell, Act.bind_run, called]
  rfl

theorem ParamId.tell_refreshOwned {p : ParamId} {x : Value} (owner : r.owner? p = some n)
    (updated : engine fuel (.update p) r = (.ok x, after)) (v : Value) :
    tell (engine (fuel + 1)) v (.callback (.refreshOwned p)) r = (.ok (), after) := by
  have asked : (p.owner? : Act RegistryError (Option NodeId)) r = (.ok (some n), r) := by
    rw [← owner]
    rfl
  have called : engine (fuel + 1) (.call (.refreshOwned p) (.withValue v)) r = (.ok .null, after) := by
    change (Callable.refreshOwned p).run (engine fuel) (.withValue v) r = _
    rw [Callable.run, Act.bind_run, asked]
    dsimp only
    rw [Act.bind_run, updated]
    rfl
  rw [tell, Act.bind_run, called]
  rfl

namespace Registry

/-! ## Reading the stops -/

namespace SameState

variable (h : r.SameState after)

include h

theorem cached (n : NodeId) (name : String) : after.cached n name = r.cached n name := by
  rw [Registry.cached, Registry.cached, h.wiring.nodes.node]
  cases (r.node n).parameters.get? name with
  | none => rfl
  | some p => exact h.value p

theorem isEnabled (n : NodeId) : after.isEnabled n = r.isEnabled n := by
  rw [Registry.isEnabled, Registry.isEnabled, h.wiring.nodes.node]
  cases (r.node n).parameters.get? "enabled" with
  | none => rfl
  | some p => simp only [h.value]

end SameState
end Registry

private theorem Registry.PulseReady.getWith_time_reads {parameter : String} (h : r.PulseReady n)
    (current : r.StopCurrent n) (timed : parameter ∈ ["t_start", "t_stop"]) (fuel : Nat) :
    (n.getWith (engine fuel) parameter).Reads r (r.cached n parameter) (fuel < 3) := by
  simp only [List.mem_cons, List.not_mem_nil, or_false] at timed
  rcases timed with rfl | rfl
  · have start : r.cached n "t_start" = _ := h.fitted.cached (i := 1) rfl
    rw [start]
    exact (h.start_reads fuel).mono fun few => by omega
  · exact h.getWith_stop_reads current fuel

private theorem NodeId.timesOf_reads {members : List NodeId} {parameter : String}
    (timed : parameter ∈ ["t_start", "t_stop"]) (fuel : Nat)
    (h : ∀ n ∈ members, r.PulseReady n ∧ r.StopCurrent n) :
    (timesOf (engine fuel) parameter members).Reads r
      ((members.filter r.isEnabled).filterMap fun n => (r.cached n parameter).toDouble?)
      (fuel < 3) := by
  induction members generalizing r with
  | nil => exact .pure _
  | cons n rest ih =>
    obtain ⟨ready, current⟩ := h n List.mem_cons_self
    -- The rest is read after the time of the first one was.
    have others {s : Registry} (same : r.SameState s) :
        (timesOf (engine fuel) parameter rest).Reads s
          ((rest.filter r.isEnabled).filterMap fun n => (r.cached n parameter).toDouble?)
          (fuel < 3) := by
      have reads := @ih s fun m mem =>
        ⟨same.wiring.pulseReady (h m (List.mem_cons_of_mem _ mem)).1,
          same.stopCurrent (h m (List.mem_cons_of_mem _ mem)).2⟩
      simpa only [funext same.isEnabled, same.cached] using reads
    refine .bind (x := r.isEnabled n) (.of_run ready.isEnabled_run) fun s same => ?_
    rw [List.filter_cons]
    cases r.isEnabled n with
    | false => exact others same
    | true =>
      have time := (same.wiring.pulseReady ready).getWith_time_reads (same.stopCurrent current) timed fuel
      rw [same.cached] at time
      refine .bind time fun s' same' => .bind (others (IsTrans.trans _ _ _ same same')) fun _ _ => ?_
      rw [if_pos rfl, List.filterMap_cons]
      cases (r.cached n parameter).toDouble? <;> exact .pure _

/-! ## Refreshing a sequence -/

namespace Registry

namespace SequenceReady

variable (h : r.SequenceReady s)

include h

theorem duration_inside : (r.durationOf s).index < r.params.size := h.fitted.lt_size (i := 2) rfl

theorem duration_owner : r.owner? (r.durationOf s) = some (r.nodeOf s) :=
  h.fitted.owner? (i := 2) rfl h.alive

theorem duration_delegates :
    (r.node (r.nodeOf s)).delegatesFor (r.param (r.durationOf s)).name =
      ⟨some (.sequenceDuration s), some (.fixDuration s)⟩ := by
  have name : (r.param (r.durationOf s)).name = "duration" := h.fitted.name (i := 2) rfl
  rw [name, h.delegates]

end SequenceReady

namespace Working

variable (h : r.Working pulses) (settled : r.Settled pulses) (hs : s.index < r.sequences.size)

include h settled hs

theorem pulseTimes_reads {parameter : String} (timed : parameter ∈ ["t_start", "t_stop"]) (fuel : Nat) :
    ((r.nodeOf s).pulseTimes (engine fuel) parameter).Reads r
      ((r.memberTimes s parameter).mergeSort Double.totalLe) (fuel < 3) := by
  have members : ∀ n ∈ r.pulses (r.nodeOf s), r.PulseReady n ∧ r.StopCurrent n := by
    intro n mem
    rw [h.pulses_eq hs] at mem
    have hn := h.mem_of_member hs mem
    exact ⟨h.pulse n hn, settled.stop n hn⟩
  refine .bind (x := r.pulses (r.nodeOf s)) (.of_run rfl) fun after same => ?_
  have reads := NodeId.timesOf_reads timed fuel fun n mem =>
    ⟨same.wiring.pulseReady (members n mem).1, same.stopCurrent (members n mem).2⟩
  simp only [funext same.isEnabled, same.cached] at reads
  exact .bind reads fun _ _ => .pure _

private theorem duration_reads (fuel : Nat) :
    (s.duration (engine fuel) (r.nodeOf s)).Reads r (r.durationValue s) (fuel < 3) := by
  have stops := h.pulseTimes_reads settled hs (show "t_stop" ∈ ["t_start", "t_stop"] by decide) fuel
  rw [durationValue, Act.Reads, duration_getter_run]
  cases (r.sequence s).fixedDuration with
  | some duration => exact Act.Reads.pure _
  | none => exact Act.Reads.bind stops fun _ _ => .pure _

private theorem duration_call_reads (fuel : Nat) (p : Option ParamId) (v : Value)
    (args : List Value) :
    (engine fuel (.call (.sequenceDuration s) ⟨some (r.nodeOf s), p, v, args⟩)).Reads r
      (r.durationValue s) (fuel < 4) := by
  cases fuel with
  | zero => exact ⟨r, refl r, .inr ⟨by omega, rfl⟩⟩
  | succ fuel => exact (h.duration_reads settled hs fuel).mono fun few => by omega

theorem duration_receive_takes (fuel : Nat) :
    (engine fuel (.call (.sequenceDuration s)
      (.delegate (r.nodeOf s) (r.durationOf s) .null)) >>=
        (r.durationOf s).receive (engine fuel)).Takes r (r.durationOf s) (r.durationValue s)
          (fuel < 4) :=
  ParamId.receive_takes _ ((h.sequence s hs).fitted.getParser (i := 2) rfl)
    ((h.sequence s hs).fitted.speaksAt (i := 2) rfl) (h.sequence s hs).duration_inside
    (h.duration_call_reads settled hs fuel _ _ _)

theorem duration_getWith_takes (fuel : Nat) : ((r.durationOf s).getWith (engine fuel)).Takes r
    (r.durationOf s) (r.durationValue s) (fuel < 4) := by
  have ready := h.sequence s hs
  have source : (r.param (r.durationOf s)).getSource = .owner :=
    ready.fitted.getSource (i := 2) rfl
  have asked := ParamId.getWith_run_of_owner source ready.duration_owner
    (congrArg (·.getter) ready.duration_delegates) (engine fuel)
  rw [Act.Takes, asked]
  exact h.duration_receive_takes settled hs fuel

theorem update_run (enough : 5 ≤ fuel) :
    ∃ after, engine fuel (.update (r.durationOf s)) r = (.ok (r.durationValue s), after) ∧
      r.Took (r.durationOf s) (r.durationValue s) after := by
  obtain ⟨fuel, rfl⟩ : ∃ k, fuel = k + 1 := ⟨fuel - 1, by omega⟩
  rcases h.duration_getWith_takes settled hs fuel with ⟨after, run, took⟩ | ⟨_, few, _⟩
  · refine ⟨after, ?_, took⟩
    have silent : (after.param (r.durationOf s)).listeners = [] := by
      rw [took.wiring.listeners]
      exact (h.sequence s hs).silent 2 (by decide)
    exact ParamId.updateWith_silent run silent
  · omega

theorem refreshOwned_run (enough : 6 ≤ fuel) (v : Value) :
    ∃ after, ParamId.tell (engine fuel) v (r.refresher s) r = (.ok (), after) ∧
      r.Took (r.durationOf s) (r.durationValue s) after := by
  obtain ⟨fuel, rfl⟩ : ∃ k, fuel = k + 1 := ⟨fuel - 1, by omega⟩
  obtain ⟨after, run, took⟩ := h.update_run settled hs (show 5 ≤ fuel by omega)
  exact ⟨after, ParamId.tell_refreshOwned (h.sequence s hs).duration_owner run v, took⟩

end Working
end Registry
end LabRegistry

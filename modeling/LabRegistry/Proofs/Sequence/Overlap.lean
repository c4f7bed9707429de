import LabRegistry.Proofs.Sequence.Refresh

/-!
# Overlapping pulses

Whether two pulses overlap is decided by their starts and stops, which are read and left as they are.
A pulse is refused for the first of the enabled pulses of a sequence that it overlaps with.
-/
namespace LabRegistry

open Registry

variable {r after : Registry} {n m : NodeId} {α : Type} {x : α}

theorem NodeId.get_run (n : NodeId) (name : String) (r : Registry) :
    n.get name r = n.getWith (engine r.depthLimit) name r := by
  rw [get, getWith, Act.bind_run, Act.bind_run]
  cases found : (r.node n).parameters.get? name with
  | some p =>
    rw [parameter_run found]
    rfl
  | none =>
    have missing : n.parameter name r = (.error (r.refusal n (.noAttribute · name)), r) :=
      find_missing found
    rw [missing]

namespace Act.Reads

theorem of_getWith {name : String} {v : Value} (least : Nat) (few : least ≤ 399999)
    (h : (n.getWith (engine r.depthLimit) name).Reads r v (r.depthLimit < least)) :
    (n.get name).Reads r v False := by
  obtain ⟨after, same, run | ⟨short, -⟩⟩ := h
  · exact ⟨after, same, .inl (n.get_run name r ▸ run)⟩
  · rw [Registry.depthLimit] at short
    omega

theorem lift {act : Act RegistryError α} {short : Prop} (h : act.Reads r x short) :
    (liftM act : Act DomainError α).Reads r x short := by
  obtain ⟨after, same, run | ⟨few, run⟩⟩ := h
  · exact ⟨after, same, .inl (Act.lift_ok run)⟩
  · exact ⟨after, same, .inr ⟨few, Act.lift_error run⟩⟩

theorem run {ε : Type} {act : Act ε α} (h : act.Reads r x False) :
    ∃ after, act r = (.ok x, after) ∧ r.SameState after := by
  obtain ⟨after, same, run | ⟨never, -⟩⟩ := h
  · exact ⟨after, run, same⟩
  · exact never.elim

end Act.Reads

theorem Pulse.intervalsMeet_comm (mine theirs : Option (Double × Double)) :
    intervalsMeet mine theirs = intervalsMeet theirs mine := by
  rcases mine with _ | ⟨start, stop⟩ <;> rcases theirs with _ | ⟨start', stop'⟩
  all_goals first | rfl | exact Bool.and_comm _ _

namespace Registry

def interval (r : Registry) (n : NodeId) : Option (Double × Double) :=
  (r.cached n "t_start").toDouble?.bind fun start =>
    (r.cached n "t_stop").toDouble?.map fun stop => (start, stop)

def meet (r : Registry) (n m : NodeId) : Bool := Pulse.intervalsMeet (r.interval n) (r.interval m)

theorem meet_comm (r : Registry) (n m : NodeId) : r.meet n m = r.meet m n :=
  Pulse.intervalsMeet_comm _ _

def obstructs (r : Registry) (n m : NodeId) : Bool := r.isEnabled m && r.meet n m

namespace SameState

variable (h : r.SameState after)

include h

private theorem interval (n : NodeId) : after.interval n = r.interval n := by
  rw [Registry.interval, h.cached, h.cached, Registry.interval]

private theorem meet (n m : NodeId) : after.meet n m = r.meet n m := by
  rw [Registry.meet, h.interval, h.interval, Registry.meet]

theorem obstructs (n m : NodeId) : after.obstructs n m = r.obstructs n m := by
  rw [Registry.obstructs, h.isEnabled, h.meet, Registry.obstructs]

end SameState

namespace PulseReady

private theorem interval_reads (ready : r.PulseReady n) (current : r.StopCurrent n) :
    (Pulse.interval? n).Reads r (r.interval n) False := by
  have number {s : Registry} {name : String} {v : Value} (get : (n.get name).Reads s v False) :
      (Pulse.number? n name).Reads s v.toDouble? False :=
    .bind get.lift fun _ _ => .pure _
  have start : (n.get "t_start").Reads r (r.cached n "t_start") False := by
    refine .of_getWith 1 (by decide) ?_
    rw [ready.fitted.cached (i := 1) rfl]
    exact ready.start_reads _
  refine .bind (number start) fun mid same => ?_
  have stop : (n.get "t_stop").Reads mid (r.cached n "t_stop") False := by
    rw [← same.cached]
    exact .of_getWith 3 (by decide)
      ((same.wiring.pulseReady ready).getWith_stop_reads (same.stopCurrent current) _)
  exact .bind (number stop) fun _ _ => .pure _

theorem overlaps_reads (ready : r.PulseReady n) (current : r.StopCurrent n) (ready' : r.PulseReady m)
    (current' : r.StopCurrent m) : (Pulse.overlaps n m).Reads r (r.meet n m) False := by
  refine .bind (ready.interval_reads current) fun mid same => ?_
  have theirs := (same.wiring.pulseReady ready').interval_reads (same.stopCurrent current')
  rw [same.interval] at theirs
  exact .bind theirs fun _ _ => .pure _

end PulseReady
end Registry

theorem SequenceId.refuseOverlap_run (ready : r.PulseReady n) (current : r.StopCurrent n)
    (name : String) {others : List NodeId} (all : ∀ m ∈ others, r.PulseReady m ∧ r.StopCurrent m) :
    ∃ after, r.SameState after ∧ refuseOverlap n name others r =
      (match others.find? (r.obstructs n) with
        | some m => .error (.failed (.pulsesOverlap name ((r.node m).name.getD "")))
        | none => .ok (), after) := by
  induction others generalizing r with
  | nil => exact ⟨r, refl r, rfl⟩
  | cons m rest ih =>
    have later {mid : Registry} (same : r.SameState mid) : ∃ after, r.SameState after ∧
        refuseOverlap n name rest mid = (match rest.find? (r.obstructs n) with
          | some m => .error (.failed (.pulsesOverlap name ((r.node m).name.getD "")))
          | none => .ok (), after) := by
      obtain ⟨after, same', run⟩ := ih (same.wiring.pulseReady ready) (same.stopCurrent current)
        fun m mem => ⟨same.wiring.pulseReady (all m (List.mem_cons_of_mem _ mem)).1,
          same.stopCurrent (all m (List.mem_cons_of_mem _ mem)).2⟩
      refine ⟨after, IsTrans.trans _ _ _ same same', ?_⟩
      rw [run, funext (same.obstructs n)]
      simp only [same.wiring.nodes.node]
    obtain ⟨ready', current'⟩ := all m List.mem_cons_self
    rw [List.find?_cons, Registry.obstructs, refuseOverlap, Act.bind_run, ready'.isEnabled_run]
    dsimp only
    cases r.isEnabled m with
    | false => exact later (refl r)
    | true =>
      obtain ⟨mid, run, same⟩ := (ready.overlaps_reads current ready' current').run
      rw [if_pos rfl, Act.bind_run, run]
      dsimp only
      cases r.meet n m with
      | false => exact later same
      | true =>
        refine ⟨mid, same, ?_⟩
        rw [if_pos rfl, Act.bind_run, NodeId.state_run, same.wiring.nodes.node]
        rfl

end LabRegistry

import LabRegistry.Proofs.Sequence.Ordered

/-!
# Asking for pulses

A query takes the pulses that meet all its conditions, and a pulse meets a condition by what a get of the
parameter gives. A get may renew the stop of the pulse, but it does not change what any other get gives.
So a query is a filter: neither the order of its conditions nor the queries before it matter. A pulse
without the parameter is passed over after the error was composed, which takes a chain of parents that
ends.
-/
namespace LabRegistry

open Registry

variable {r mid after : Registry} {n : NodeId} {s : SequenceId} {stops : Prop} {plan : ParameterPlan}
  {i : Nat} {log : Log} {now : Instant}

namespace Registry

def meets (r : Registry) (n : NodeId) (condition : String × Value) : Bool :=
  match (n.get condition.1 r).1 with
  | .ok v => v.agrees condition.2
  | .error _ => false

/-- The pulse has the name and meets the conditions of a query. -/
def admits (r : Registry) (query : PulseQuery) (n : NodeId) : Bool :=
  (query.name.isNone || (r.node n).name == query.name) && query.conditions.all (r.meets n)

def candidates (r : Registry) (s : SequenceId) (query : PulseQuery) : List NodeId :=
  if query.includeDisabled then r.pulses (r.nodeOf s) else r.startOrder s

/-- The pulses that a query asks for. -/
def admitted (r : Registry) (s : SequenceId) (query : PulseQuery) : List NodeId :=
  (r.candidates s query).filter (r.admits query)

/-- Stops were brought up to date, and no values have changed unless `stops` were asked for. -/
structure Queried (stops : Prop) (r after : Registry) : Prop extends r.Reread after where
  kept : ¬ stops → ∀ p, (after.param p).value = (r.param p).value

instance : IsPreorder Registry (Queried stops) where
  refl r := ⟨refl r, fun _ _ => rfl⟩
  trans _ _ _ h h' := ⟨IsTrans.trans _ _ _ h.toReread h'.toReread,
    fun none p => (h'.kept none p).trans (h.kept none p)⟩

private theorem SameState.queried (same : r.SameState after) : r.Queried stops after :=
  ⟨same.reread, fun _ => same.value⟩

/-! ## Conditions -/

namespace PulseWired

variable (h : r.PulseWired n (r.firstParam n))

include h

private theorem get_queried (hi : Pulse.plans[i]? = some plan)
    (asked : plan.name = "t_stop" → stops) :
    ∃ after, n.get plan.name r = (.ok (r.got n plan.name), after) ∧ r.Queried stops after := by
  by_cases stop : plan.name = "t_stop"
  · obtain ⟨after, got, same⟩ := h.get_rereads hi
    exact ⟨after, got, same, fun none => absurd (asked stop) none⟩
  · obtain ⟨after, got, same⟩ := (h.get_reads hi stop).run
    exact ⟨after, got, same.queried⟩

private theorem meets_eq (condition : String × Value) : r.meets n condition =
    (decide (condition.1 ∈ Pulse.plans.map (·.name)) && (r.got n condition.1).agrees condition.2) := by
  obtain ⟨name, v⟩ := condition
  by_cases known : name ∈ Pulse.plans.map (·.name)
  · obtain ⟨i, plan, hi, rfl⟩ := ParameterPlan.exists_of_mem_names known
    obtain ⟨after, got, -⟩ := h.get_rereads hi
    rw [meets, got, decide_eq_true known, Bool.true_and]
  · have missing : n.parameter name r = (.error (r.refusal n (.noAttribute · name)), r) :=
      NodeId.find_missing (h.fitted.get?_of_unknown known)
    rw [meets, NodeId.get, Act.bind_run, missing, decide_eq_false known, Bool.false_and]

private theorem meets_reread (same : r.Reread after) : after.meets n = r.meets n := by
  funext condition
  rw [(same.wiring.pulseWired h).meets_eq, h.got_reread same, h.meets_eq]

private theorem admits_reread (same : r.Reread after) (query : PulseQuery) :
    after.admits query n = r.admits query n := by
  rw [admits, same.wiring.nodes.node, h.meets_reread same, admits]

/-- A pulse whose chain of parents ends satisfies conditions if it meets each of them. -/
theorem satisfies_run (ends : r.ParentsEnd n) {conditions : List (String × Value)}
    (asked : (∃ v, ("t_stop", v) ∈ conditions) → stops) : ∃ after,
      Pulse.satisfies n conditions r = (.ok (conditions.all (r.meets n)), after) ∧
        r.Queried stops after := by
  induction conditions generalizing r with
  | nil => exact ⟨r, rfl, refl r⟩
  | cons condition rest ih =>
    obtain ⟨name, v⟩ := condition
    rw [Pulse.satisfies, Act.bind_run, NodeId.parameter, NodeId.find_attempt, List.all_cons, h.meets_eq]
    by_cases known : name ∈ Pulse.plans.map (·.name)
    case neg =>
      obtain ⟨shown, named⟩ := Option.isSome_iff_exists.mp (displayName?_isSome_iff.mpr ends)
      rw [h.fitted.get?_of_unknown known, named, decide_eq_false known]
      exact ⟨r, rfl, refl r⟩
    case pos =>
      rw [decide_eq_true known, Bool.true_and]
      obtain ⟨i, plan, hi, rfl⟩ := ParameterPlan.exists_of_mem_names known
      obtain ⟨mid, got, same⟩ := h.get_queried hi fun stop => asked ⟨v, stop ▸ List.mem_cons_self⟩
      rw [NodeId.get, Act.bind_run, h.fitted.parameter_run hi] at got
      have got : (⟨r.firstParam n + i⟩ : ParamId).get r = (.ok (r.got n plan.name), mid) := got
      rw [h.fitted.get? hi]
      dsimp only
      rw [Act.bind_run, Act.lift_ok got]
      dsimp only
      cases (r.got n plan.name).agrees v with
      | false => exact ⟨mid, rfl, same⟩
      | true =>
        obtain ⟨after, run, same'⟩ := ih (same.wiring.pulseWired h)
          (same.wiring.nodes.names.parentsEnd ends)
          fun later => asked (later.imp fun w mem => List.mem_cons_of_mem _ mem)
        rw [h.meets_reread same.toReread] at run
        exact ⟨after, run, IsTrans.trans _ _ _ same same'⟩

end PulseWired
end Registry

/-! ## Queries -/

namespace SequenceId

private theorem matching_run {query : PulseQuery}
    (asked : (∃ v, ("t_stop", v) ∈ query.conditions) → stops)
    {members : List NodeId} (h : ∀ n ∈ members, r.PulseWired n (r.firstParam n))
    (ends : ∀ n ∈ members, r.ParentsEnd n) : ∃ after,
      matching query members r = (.ok (members.filter (r.admits query)), after) ∧
        r.Queried stops after := by
  induction members generalizing r with
  | nil => exact ⟨r, rfl, refl r⟩
  | cons n rest ih =>
    have wired := h n List.mem_cons_self
    -- The rest is asked after the first one was.
    have others {mid : Registry} (same : r.Queried stops mid) : ∃ after,
        matching query rest mid = (.ok (rest.filter (r.admits query)), after) ∧
          r.Queried stops after := by
      obtain ⟨after, run, same'⟩ := @ih mid
        (fun m mem => same.wiring.pulseWired (h m (List.mem_cons_of_mem _ mem)))
        fun m mem => same.wiring.nodes.names.parentsEnd (ends m (List.mem_cons_of_mem _ mem))
      rw [List.filter_congr fun m mem =>
        (h m (List.mem_cons_of_mem _ mem)).admits_reread same.toReread query] at run
      exact ⟨after, run, IsTrans.trans _ _ _ same same'⟩
    rw [matching, Act.bind_run, NodeId.state_run, List.filter_cons, admits]
    dsimp only
    cases query.name.isNone || (r.node n).name == query.name with
    | false => exact others (refl r)
    | true =>
      obtain ⟨mid, run, same⟩ := wired.satisfies_run (ends n List.mem_cons_self) asked
      rw [if_pos rfl, Bool.true_and, Act.bind_run, run]
      dsimp only
      cases query.conditions.all (r.meets n) with
      | false => exact others same
      | true =>
        obtain ⟨after, run', same'⟩ := others same
        rw [if_pos rfl, if_pos rfl, Act.bind_run, run']
        exact ⟨after, rfl, same'⟩

private theorem select_run (intact : r.Intact) (alive : r.isAlive (r.nodeOf s) = true)
    (ends : ∀ n ∈ r.pulses (r.nodeOf s), r.ParentsEnd n) (query : PulseQuery) :
    ∃ after, s.select query r = (.ok (r.admitted s query), after) ∧
      r.Queried (∃ v, ("t_stop", v) ∈ query.conditions) after := by
  have sequel {members : List NodeId} {mid : Registry} (same : r.SameState mid)
      (among : ∀ n ∈ members, n ∈ r.pulses (r.nodeOf s)) : ∃ after,
        matching query members mid = (.ok (members.filter (r.admits query)), after) ∧
          r.Queried (∃ v, ("t_stop", v) ∈ query.conditions) after := by
    have wired (n : NodeId) (mem : n ∈ members) := intact.wired_of_mem_pulses alive (among n mem)
    obtain ⟨after, run, same'⟩ := matching_run id
      (fun n mem => same.wiring.pulseWired (wired n mem))
      fun n mem => same.wiring.nodes.names.parentsEnd (ends n (among n mem))
    rw [List.filter_congr fun n mem => (wired n mem).admits_reread same.reread query] at run
    exact ⟨after, run, IsTrans.trans _ _ _ same.queried same'⟩
  rw [select, admitted, candidates]
  cases query.includeDisabled with
  | true => exact sequel (refl r) fun _ => id
  | false =>
    obtain ⟨mid, run, same⟩ := (enabledPulses_reads intact alive).run
    obtain ⟨after, run', same'⟩ := sequel same fun n mem =>
      (List.mem_filter.mp ((List.mergeSort_perm _ _).mem_iff.mp mem)).1
    refine ⟨after, ?_, same'⟩
    rw [if_neg Bool.false_ne_true, Act.bind_run, run]
    exact run'

end SequenceId

namespace Registry

/-! ## How queries relate -/

section

variable (all : ∀ n ∈ r.pulses (r.nodeOf s), r.PulseWired n (r.firstParam n))

include all

private theorem mem_candidates (query : PulseQuery) (mem : n ∈ r.candidates s query) :
    r.PulseWired n (r.firstParam n) := by
  rw [candidates] at mem
  split at mem
  · exact all n mem
  · exact all n (List.mem_filter.mp ((List.mergeSort_perm _ _).mem_iff.mp mem)).1

private theorem admitted_reread (same : r.Reread after) (query : PulseQuery) :
    after.admitted s query = r.admitted s query := by
  have chosen : after.candidates s query = r.candidates s query := by
    rw [candidates, same.wiring.nodeOf, same.wiring.nodes.pulses, startOrder_reread all same, candidates]
  rw [admitted, chosen, admitted]
  exact List.filter_congr fun n mem => (mem_candidates all query mem).admits_reread same query

end

private theorem admitted_of_mem_iff (query : PulseQuery) {conditions : List (String × Value)}
    (same : ∀ c, c ∈ conditions ↔ c ∈ query.conditions) :
    r.admitted s { query with conditions } = r.admitted s query := by
  refine List.filter_congr fun n _ => ?_
  have met : conditions.all (r.meets n) = query.conditions.all (r.meets n) := by
    rw [Bool.eq_iff_iff, List.all_eq_true, List.all_eq_true]
    exact forall_congr' fun c => by rw [same]
  rw [admits, met, admits]

private theorem admitted_append (query : PulseQuery) (more : List (String × Value)) :
    r.admitted s { query with conditions := query.conditions ++ more } =
      (r.admitted s query).filter fun n => more.all (r.meets n) := by
  rw [admitted, admitted, List.filter_filter]
  refine List.filter_congr fun n _ => ?_
  rw [admits, List.all_append, ← Bool.and_assoc, Bool.and_comm, admits]

private theorem mem_admitted_iff (query : PulseQuery) :
    n ∈ r.admitted s { query with includeDisabled := false } ↔
      n ∈ r.admitted s { query with includeDisabled := true } ∧ r.isEnabled n = true := by
  have enabled : n ∈ r.startOrder s ↔ n ∈ r.pulses (r.nodeOf s) ∧ r.isEnabled n = true :=
    (List.mergeSort_perm _ _).mem_iff.trans List.mem_filter
  have apart : n ∈ r.startOrder s ∧ r.admits query n = true ↔
      (n ∈ r.pulses (r.nodeOf s) ∧ r.admits query n = true) ∧ r.isEnabled n = true := by
    rw [enabled, and_right_comm]
  rw [admitted, admitted, List.mem_filter, List.mem_filter]
  exact apart

/-- A query leaves all cached values of a pulse as they are, but a condition on the stop may bring the
stop up to date. -/
theorem Queried.cached (h : r.Queried stops after) (intact : r.Intact) (pulse : r.isPulse n = true)
    (name : String) : after.cached n name = r.cached n name ∨ name = "t_stop" ∧ stops ∧
      after.cached n name = ((r.cached n "t_start").add? (r.cached n "duration")).getD .null := by
  have fitted := (intact.pulse n pulse).fitted
  have fitted' := fitted.of_same h.wiring.nodes h.wiring.setups
  by_cases known : name ∈ Pulse.plans.map (·.name)
  case neg => exact .inl (by rw [fitted.cached_of_unknown known, fitted'.cached_of_unknown known])
  case pos =>
    obtain ⟨i, plan, hi, rfl⟩ := ParameterPlan.exists_of_mem_names known
    rw [fitted.cached hi, fitted'.cached hi]
    by_cases asked : stops
    case neg => exact .inl (h.kept asked _)
    case pos =>
      refine (h.value_of_owner (fitted.owner hi)).imp_right fun ⟨stop, value⟩ => ?_
      have start : r.cached n "t_start" = _ := fitted.cached (i := 1) rfl
      have duration : r.cached n "duration" = _ := fitted.cached (i := 2) rfl
      have name : (r.param (r.stopOf n)).name = "t_stop" := fitted.name (i := 3) rfl
      rw [start, duration]
      exact ⟨by rw [← fitted.name hi, stop, name], asked, value⟩

end Registry
end LabRegistry

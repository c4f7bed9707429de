import LabRegistry.Proofs.Sequence.Propagation

/-!
# Setting times and settings

Whatever a set does on the times of a pulse or on a setting of a sequence, no sequence is left behind.
A set that is refused changes nothing, and one that is accepted writes the parameter, what follows
from it and nothing else.
-/
namespace LabRegistry

open Registry

variable {r mid after : Registry} {n : NodeId} {s t : SequenceId} {p : ParamId} {v : Value}
  {pulses : Set NodeId} {fuel i : Nat} {plan : ParameterPlan}

namespace Registry

/-- The parameters of a pulse or a sequence. -/
def paramsOf (r : Registry) (n : NodeId) : Set ParamId := {p | ∃ i < 5, p = ⟨r.firstParam n + i⟩}

/-- The parameters of a pulse and the durations of the sequences that hear of it. -/
def scope (r : Registry) (n : NodeId) : Set ParamId := r.paramsOf n ∪ r.durationsOf (r.hearers n)

/-- The parameters of a pulse from a place on, and the durations of the sequences that hear of it. -/
def scopeFrom (r : Registry) (n : NodeId) (k : Nat) : Set ParamId :=
  {p | ∃ i < 5, k ≤ i ∧ p = ⟨r.firstParam n + i⟩} ∪ r.durationsOf (r.hearers n)

theorem scopeFrom_subset (k : Nat) : r.scopeFrom n k ⊆ r.scope n :=
  Set.union_subset_union_left _ fun _ ⟨i, hi, _, same⟩ => ⟨i, hi, same⟩

theorem mem_paramsOf (hi : i < 5) : (⟨r.firstParam n + i⟩ : ParamId) ∈ r.paramsOf n := ⟨i, hi, rfl⟩

private theorem SameWiring.paramsOf (h : r.SameWiring after) (n : NodeId) :
    after.paramsOf n = r.paramsOf n := by
  rw [Registry.paramsOf, h.firstParam, Registry.paramsOf]

theorem SameWiring.scope (h : r.SameWiring after) (n : NodeId) : after.scope n = r.scope n := by
  rw [Registry.scope, h.paramsOf, h.hearers, h.durationsOf, Registry.scope]

theorem Fitted.set_silent_run {first : Nat} {plans : List ParameterPlan}
    (h : r.Fitted n first plans) (hi : plans[i]? = some plan) (plain : plan.Plain)
    (silent : (r.param ⟨first + i⟩).listeners = []) (v : Value) :
    match plan.validator.validate v with
    | .error _ => ∃ halt, n.set plan.name v r = (.error halt, r)
    | .ok () => ∃ after, n.set plan.name v r = (.ok (), after) ∧ r.Took ⟨first + i⟩ v after := by
  obtain ⟨fuel, -, run⟩ := h.set_run hi v
  rw [run]
  cases valid : plan.validator.validate v with
  | error reason => exact ⟨_, h.setWith_refused hi plain valid _⟩
  | ok _ =>
    obtain ⟨after, took, run⟩ := h.setWith_silent hi plain silent valid (engine fuel)
    exact ⟨after, run, took⟩

namespace Working

variable (h : r.Working pulses) (settled : r.Settled pulses)

include h settled

/-! ## Times of pulses -/

theorem settled_others_of_took (hn : n ∈ pulses) (hi : i < 5)
    (took : r.Took ⟨r.firstParam n + i⟩ v after) : after.Settled (pulses \ {n}) where
  stop m hm := took.wiring.stopCurrent (settled.stop m hm.1) fun _ _ hj =>
    took.others _ ((h.pulse m hm.1).param_ne (h.pulse n hn) hm.2 (by omega) hi)
  fixed s duration fixed := by
    rw [took.wiring.sequence] at fixed
    exact settled.fixed s duration fixed

omit settled in
theorem timed_of_took_feed (hn : n ∈ pulses) (hi : i = 1 ∨ i = 2)
    (took : r.Took ⟨r.firstParam n + i⟩ v after) (hs : s.index < r.sequences.size)
    (timed : r.Timed s) : after.Timed s := by
  have ready := h.pulse n hn
  refine h.timed_of took.wiring hs
    (took.others _ ((h.sequence s hs).ne_durationOf ready (by omega)).symm) (fun m mem => ?_) timed
  have hm := h.mem_of_member hs mem
  have away {j : Nat} (ne : j ≠ i) (hj : j < 5) :
      (⟨r.firstParam m + j⟩ : ParamId) ≠ ⟨r.firstParam n + i⟩ :=
    (h.pulse m hm).param_ne_of ready ne hj (by omega)
  exact h.stopUnits_of took.wiring hm (took.others _ (away (j := 0) (by omega) (by decide)))
    (congrArg _ (took.others _ (away (j := 3) (by omega) (by decide))))

section Times

variable (hn : n ∈ pulses) (only : r.OnlyRefreshes n)

include hn only

theorem feed_setWith_run (hi : i = 1 ∨ i = 2) (enough : 8 ≤ fuel)
    (accepted : (r.param ⟨r.firstParam n + i⟩).validator.validate v = .ok ()) :
    ∃ after, (⟨r.firstParam n + i⟩ : ParamId).setWith (engine fuel) v r = (.ok (), after) ∧
      r.Maintained pulses
        (insert ⟨r.firstParam n + i⟩ (insert (r.stopOf n) (r.durationsOf (r.hearers n)))) after ∧
      (after.param ⟨r.firstParam n + i⟩).value = v := by
  obtain ⟨fuel, rfl⟩ : ∃ k, fuel = k + 2 := ⟨fuel - 2, by omega⟩
  have ready := h.pulse n hn
  obtain ⟨mid, mid', took, took', run⟩ := ready.feed_setWith_run hi (show 2 ≤ fuel by omega) accepted
  have wiring := took.wiring
  have h' := wiring.working h
  have others := h.settled_others_of_took settled hn (by omega) took
  have ne : r.stopOf n ≠ ⟨r.firstParam n + i⟩ :=
    ready.param_ne_of (i := 3) ready (by omega) (by decide) (by omega)
  obtain ⟨after, followed, maintained⟩ := h'.follow_stop_run others hn (wiring.onlyRefreshes only)
    (show 6 ≤ fuel by omega) took'
  have stop : (mid.param (mid.stopOf n)).value = (r.param (r.stopOf n)).value := by
    rw [wiring.stopOf]
    exact took.others _ ne
  have written : insert (mid.stopOf n) (mid.durationsOf (mid.hearers n)) =
      insert (r.stopOf n) (r.durationsOf (r.hearers n)) := by
    rw [wiring.stopOf, wiring.hearers, wiring.durationsOf]
  rw [stop] at followed
  rw [written] at maintained
  refine ⟨after, run.trans followed, ?_, ?_⟩
  · exact {
      wiring := IsTrans.trans _ _ _ wiring maintained.wiring
      bench := maintained.bench.trans took.bench
      settled := maintained.settled
      others := fun p free => (maintained.others p fun mem => free (.inr mem)).trans
        (took.others p fun same => free (.inl same))
      timed := fun s hs before => maintained.timed s (by rwa [wiring.sequences])
        (h.timed_of_took_feed hn hi took hs before) }
  · refine (maintained.others _ ?_).trans took.self
    rintro (same | ⟨s, -, hs, same⟩)
    · exact ne same.symm
    · exact (h.sequence s hs).ne_durationOf ready (by omega) same

theorem set_feed_run (hi : i = 1 ∨ i = 2) (planned : Pulse.plans[i]? = some plan) (v : Value) :
    match plan.validator.validate v with
    | .error _ => ∃ halt, n.set plan.name v r = (.error halt, r)
    | .ok () => ∃ after, n.set plan.name v r = (.ok (), after) ∧
        r.Maintained pulses
          (insert ⟨r.firstParam n + i⟩ (insert (r.stopOf n) (r.durationsOf (r.hearers n)))) after ∧
        (after.param ⟨r.firstParam n + i⟩).value = v := by
  have ready := h.pulse n hn
  obtain ⟨fuel, enough, run⟩ := ready.fitted.set_run planned v
  have validator := ready.fitted.validator planned
  rw [run]
  cases valid : plan.validator.validate v with
  | error reason => exact ⟨_, ready.feed_setWith_refused hi (validator ▸ valid) _⟩
  | ok _ => exact h.feed_setWith_run settled hn only hi (by omega) (validator ▸ valid)

private theorem stop_setWith (enough : 10 ≤ fuel) (v : Value) :
    r.Maintained pulses (insert (Pulse.durationAt (r.firstParam n))
      (insert (r.stopOf n) (r.durationsOf (r.hearers n))))
        ((r.stopOf n).setWith (engine fuel) v r).2 := by
  obtain ⟨fuel, rfl⟩ : ∃ k, fuel = k + 2 := ⟨fuel - 2, by omega⟩
  have ready := h.pulse n hn
  rcases ready.stop_setWith_outcome (show 1 ≤ fuel by omega) v with
    ⟨halt, after, same, run⟩ | ⟨duration, mid, same, accepted, run⟩
  · rw [run]
    exact h.maintained_of_sameState settled same
  · have wiring := same.wiring
    have first := wiring.firstParam n
    obtain ⟨last, set, maintained, -⟩ := (wiring.working h).feed_setWith_run (i := 2)
      (settled.of_values wiring same.samePulses) hn (wiring.onlyRefreshes only) (.inr rfl)
      (by omega : 8 ≤ fuel) (by rw [first]; exact accepted)
    rw [first, wiring.stopOf, wiring.hearers, wiring.durationsOf] at maintained
    rw [first] at set
    rw [Pulse.durationAt, set] at run
    have total := (h.maintained_of_sameState settled same).trans maintained
    have h'' := total.wiring.working h
    obtain ⟨told, same', read⟩ := run (h''.pulse n hn) (total.wiring.firstParam n)
      (total.settled.stop n hn)
    have kept : last.Maintained pulses (insert (⟨r.firstParam n + 2⟩ : ParamId)
        (insert (r.stopOf n) (r.durationsOf (r.hearers n)))) told :=
      h''.maintained_of_sameState total.settled same'
    have overall := total.trans kept
    obtain ⟨after, announced, refreshed⟩ := (overall.wiring.working h).announce_stop_run
      overall.settled (overall.wiring.onlyRefreshes only) (by omega : 6 ≤ fuel + 2)
    rw [overall.wiring.stopOf] at announced
    rw [read, announced]
    refine overall.trans (((overall.wiring.working h).maintained_of_refreshed overall.settled
      refreshed).mono ?_)
    rw [overall.wiring.hearers, overall.wiring.durationsOf]
    exact (Set.subset_insert _ _).trans (Set.subset_insert _ _)

end Times

/-! ## Settings -/

theorem maintained_of_took_amplitude (hn : n ∈ pulses)
    (took : r.Took ⟨r.firstParam n + 4⟩ v after) :
    r.Maintained pulses {⟨r.firstParam n + 4⟩} after := by
  have ready := h.pulse n hn
  have away {m : NodeId} (hm : m ∈ pulses) {j : Nat} (hj : j < 4) :
      (⟨r.firstParam n + 4⟩ : ParamId) ≠ ⟨r.firstParam m + j⟩ :=
    ready.param_ne_of (h.pulse m hm) (by omega) (by decide) (by omega)
  exact h.maintained_of_took settled took
    (fun s hs => (h.sequence s hs).ne_durationOf ready (by decide)) (fun m hm j _ hj => away hm hj)
    fun s hs m mem => away (h.mem_of_member hs mem) (j := 0) (by decide)

/-- A pulse is enabled or not. Sequences that it is in do not hear of it. -/
theorem writes_of_took_enabled (hn : n ∈ pulses) (took : r.Took ⟨r.firstParam n + 0⟩ v after) :
    r.Writes pulses {⟨r.firstParam n + 0⟩} after :=
  settled.writes_of_took took fun m hm _ _ _ =>
    (h.pulse n hn).param_ne_of (h.pulse m hm) (by omega) (by decide) (by omega)

theorem maintained_of_took_enabled (hn : n ∈ pulses)
    (unheard : (r.param (r.stopOf n)).listeners = [])
    (took : r.Took ⟨r.firstParam n + 0⟩ v after) :
    r.Maintained pulses {⟨r.firstParam n + 0⟩} after := by
  have ready := h.pulse n hn
  refine h.maintained_of_took settled took
    (fun s hs => (h.sequence s hs).ne_durationOf ready (by decide))
    (fun m hm _ _ _ => ready.param_ne_of (h.pulse m hm) (by omega) (by decide) (by omega))
    fun s hs m mem => ?_
  have other : n ≠ m := by
    rintro rfl
    obtain ⟨entry, told, -⟩ := (h.member s hs n mem).2
    rw [unheard] at told
    cases told
  exact ready.param_ne (j := 0) (h.pulse m (h.mem_of_member hs mem)) other (by decide) (by decide)

theorem maintained_of_took_setting (hs : s.index < r.sequences.size) (hi : i < 2)
    (took : r.Took ⟨r.firstParam (r.nodeOf s) + i⟩ v after) :
    r.Maintained pulses {⟨r.firstParam (r.nodeOf s) + i⟩} after := by
  have ready := h.sequence s hs
  refine h.maintained_of_took settled took (fun t ht same => ?_)
    (fun n hn j _ hj => (ready.ne_param (h.pulse n hn) (by omega) (by omega)).symm)
    fun t ht n mem =>
      (ready.ne_param (h.pulse n (h.mem_of_member ht mem)) (i := 0) (by decide) (by omega)).symm
  obtain rfl := ready.param_inj (h.sequence t ht) (by omega) (j := 2) (by decide) same
  rw [durationOf, SequenceId.durationAt, ParamId.mk.injEq] at same
  omega

/-! ## Sets by name -/

/-- Times and the amplitude of a pulse. No set but its own writes the start, and none of these writes
whether the pulse is enabled. -/
theorem set_pulse_from {name : String} {k : Nat} (hn : n ∈ pulses) (only : r.OnlyRefreshes n)
    (setting : name ∈ ["duration", "t_stop", "amplitude"] ∧ k ≤ 2 ∨ name = "t_start" ∧ k ≤ 1)
    (v : Value) : r.Maintained pulses (r.scopeFrom n k) (n.set name v r).2 := by
  have ready := h.pulse n hn
  have own {j : Nat} (hj : j < 5) (le : k ≤ j) :
      (⟨r.firstParam n + j⟩ : ParamId) ∈ r.scopeFrom n k := .inl ⟨j, hj, le, rfl⟩
  have followed {j : Nat} (hj : j < 4) (le : k ≤ j) (le' : k ≤ 3) : (insert ⟨r.firstParam n + j⟩
      (insert (r.stopOf n) (r.durationsOf (r.hearers n)))) ⊆ r.scopeFrom n k :=
    Set.insert_subset (own (by omega) le)
      (Set.insert_subset (own (j := 3) (by decide) le') Set.subset_union_right)
  have feed {j : Nat} {plan : ParameterPlan} (hj : j = 1 ∨ j = 2) (le : k ≤ j)
      (planned : Pulse.plans[j]? = some plan) :
      r.Maintained pulses (r.scopeFrom n k) (n.set plan.name v r).2 := by
    have run := h.set_feed_run settled hn only hj planned v
    split at run
    · obtain ⟨halt, run⟩ := run
      rw [run]
      exact .of_settled settled
    · obtain ⟨after, run, maintained, -⟩ := run
      rw [run]
      exact maintained.mono (followed (by omega) le (by omega))
  simp only [List.mem_cons, List.not_mem_nil, or_false] at setting
  rcases setting with ⟨rfl | rfl | rfl, le⟩ | ⟨rfl, le⟩
  · exact feed (.inr rfl) le rfl
  · obtain ⟨fuel, enough, run⟩ : ∃ fuel, 399999 ≤ fuel ∧
        n.set "t_stop" v r = (r.stopOf n).setWith (engine fuel) v r :=
      ready.fitted.set_run (i := 3) rfl v
    rw [run]
    exact (h.stop_setWith settled hn only (by omega) v).mono
      (followed (by decide) le (le.trans (by decide)))
  · have run := ready.fitted.set_silent_run (i := 4) rfl ⟨rfl, rfl, rfl⟩
      (ready.feeds 4 (by decide) (by decide)) v
    split at run
    · obtain ⟨halt, run⟩ := run
      rw [run]
      exact .of_settled settled
    · obtain ⟨after, run, took⟩ := run
      rw [run]
      exact (h.maintained_of_took_amplitude settled hn took).mono
        (Set.singleton_subset_iff.mpr (own (by decide) (le.trans (by decide))))
  · exact feed (.inl rfl) le rfl

theorem set_pulse {name : String} (hn : n ∈ pulses) (only : r.OnlyRefreshes n)
    (setting : name ∈ ["t_start", "duration", "t_stop", "amplitude"]) (v : Value) :
    r.Maintained pulses (r.scope n) (n.set name v r).2 := by
  refine (h.set_pulse_from settled hn only (k := 1) ?_ v).mono (scopeFrom_subset 1)
  rcases List.mem_cons.mp setting with rfl | rest
  · exact .inr ⟨rfl, le_rfl⟩
  · exact .inl ⟨rest, by decide⟩

omit settled in
theorem set_enabled_run (hn : n ∈ pulses) (v : Value) :
    (∃ halt, n.set "enabled" v r = (.error halt, r)) ∨
      ∃ after, n.set "enabled" v r = (.ok (), after) ∧ r.Took ⟨r.firstParam n + 0⟩ v after := by
  have ready := h.pulse n hn
  have run := ready.fitted.set_silent_run (i := 0) rfl ⟨rfl, rfl, rfl⟩
    (ready.feeds 0 (by decide) (by decide)) v
  split at run
  · exact .inl run
  · exact .inr run

theorem set_setting {name : String} (hs : s.index < r.sequences.size)
    (setting : name ∈ ["allow_pulse_overlap", "final_delay"]) (v : Value) :
    r.Maintained pulses (r.paramsOf (r.nodeOf s)) ((r.nodeOf s).set name v r).2 := by
  have ready := h.sequence s hs
  have idle {j : Nat} {plan : ParameterPlan} (hj : j < 2) (plain : plan.Plain)
      (planned : SequenceId.plans[j]? = some plan) :
      r.Maintained pulses (r.paramsOf (r.nodeOf s)) ((r.nodeOf s).set plan.name v r).2 := by
    have run := ready.fitted.set_silent_run planned plain (ready.silent j (by omega)) v
    split at run
    · obtain ⟨halt, run⟩ := run
      rw [run]
      exact .of_settled settled
    · obtain ⟨after, run, took⟩ := run
      rw [run]
      exact (h.maintained_of_took_setting settled hs hj took).mono
        (Set.singleton_subset_iff.mpr (mem_paramsOf (by omega)))
  simp only [List.mem_cons, List.not_mem_nil, or_false] at setting
  rcases setting with rfl | rfl
  · exact idle (j := 0) (by decide) ⟨rfl, rfl, rfl⟩ rfl
  · exact idle (j := 1) (by decide) ⟨rfl, rfl, rfl⟩ rfl

end Working
end Registry
end LabRegistry

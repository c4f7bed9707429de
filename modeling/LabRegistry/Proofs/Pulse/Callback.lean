import LabRegistry.Proofs.Sequence.History

/-!
# A callback on the stop of a pulse

A callback of the user listens to the stop of a pulse. It always succeeds and may do whatever it
wants except touch the pulse or bring sequences out of order. Then no change of the stop is lost on
it: after every set of a parameter of the pulse it was last told what the stop is.
-/
namespace LabRegistry

open Registry

variable {r mid after : Registry} {n : NodeId} {c : Callable} {received : Workbench → List Value}
  {relies : Registry → Prop} {fuel i : Nat} {v : Value}

namespace Registry

/-- The parameters of a pulse have the same values and its stop the same listeners. -/
structure Untouched (r : Registry) (n : NodeId) (after : Registry) : Prop where
  parameters : (after.node n).parameters = (r.node n).parameters
  value : ∀ i < 5,
    (after.param ⟨r.firstParam n + i⟩).value = (r.param ⟨r.firstParam n + i⟩).value
  listeners : (after.param (r.stopOf n)).listeners = (r.param (r.stopOf n)).listeners

namespace Untouched

private theorem stopOf (h : r.Untouched n after) : after.stopOf n = r.stopOf n :=
  stopOf_of_node h.parameters

private theorem trans (h : r.Untouched n mid) (h' : mid.Untouched n after) :
    r.Untouched n after where
  parameters := h'.parameters.trans h.parameters
  value i hi := by
    have later := h'.value i hi
    rw [firstParam_of_node h.parameters] at later
    exact later.trans (h.value i hi)
  listeners := by
    have later := h'.listeners
    rw [h.stopOf] at later
    exact later.trans h.listeners

end Untouched

/-- All is in order, what the callback relies on is given, and the callback and the sequences that
the pulse is in are all that listens to the stop of the pulse. -/
structure Attended (r : Registry) (n : NodeId) (c : Callable) (relies : Registry → Prop) : Prop where
  order : ∃ pulses : Set NodeId, n ∈ pulses ∧ r.Working pulses ∧ r.Settled pulses
  relied : relies r
  heard : ∃ (before rest : List (ListenerId × Listener)) (id : ListenerId),
    (r.param (r.stopOf n)).listeners = before ++ (id, .callback c) :: rest ∧
      ∀ entry ∈ before ++ rest, ∃ s : SequenceId,
        s.index < r.sequences.size ∧ entry.2 = r.refresher s

end Registry

/-- Where all is in order the callback succeeds, keeps it so, touches nothing of the pulse and notes
what it was told. It is none of those that refresh sequences, and what it relies on does not depend
on caches. -/
structure Callable.Considerate (c : Callable) (n : NodeId) (relies : Registry → Prop)
    (received : Workbench → List Value) : Prop where
  foreign : ∀ p, c ≠ .refreshOwned p
  call : ∀ r : Registry, r.Attended n c relies → ∀ fuel, 399900 ≤ fuel → ∀ v, ∃ result after,
    engine fuel (.call c (.withValue v)) r = (.ok result, after) ∧ after.Attended n c relies ∧
      r.Untouched n after ∧ received after.bench = received r.bench ++ [v]
  keeps : ∀ r after : Registry, relies r → r.SameWiring after → after.bench = r.bench →
    relies after

namespace Registry.Attended

variable (h : r.Attended n c relies) (mind : c.Considerate n relies received)

include h

private theorem ready : r.PulseReady n := by
  obtain ⟨pulses, hn, working, -⟩ := h.order
  exact working.pulse n hn

private theorem current : r.StopCurrent n := by
  obtain ⟨pulses, hn, -, settled⟩ := h.order
  exact settled.stop n hn

private theorem of_wiring (wiring : r.SameWiring after) (relied : relies after)
    (settled : ∀ pulses : Set NodeId, n ∈ pulses → r.Working pulses → r.Settled pulses →
      after.Settled pulses) : after.Attended n c relies where
  order := by
    obtain ⟨pulses, hn, working, before⟩ := h.order
    exact ⟨pulses, hn, wiring.working working, settled pulses hn working before⟩
  relied := relied
  heard := by
    rw [wiring.stopOf, wiring.listeners, wiring.sequences]
    simp only [wiring.refresher]
    exact h.heard

include mind

private theorem kept (wiring : r.SameWiring after) (bench : after.bench = r.bench) : relies after :=
  mind.keeps r after h.relied wiring bench

private theorem of_refreshed {told : Set SequenceId} (refreshed : r.Refreshed told after) :
    after.Attended n c relies ∧ r.Untouched n after := by
  have relied := h.kept mind refreshed.wiring refreshed.bench
  refine ⟨h.of_wiring refreshed.wiring relied fun _ _ working settled =>
    (working.maintained_of_refreshed settled refreshed).settled, ?_⟩
  obtain ⟨pulses, hn, working, -⟩ := h.order
  refine ⟨by rw [refreshed.wiring.nodes.node], fun i hi => refreshed.others _ ?_,
    refreshed.wiring.listeners _⟩
  rintro ⟨s, -, hs, same⟩
  exact (working.sequence s hs).ne_durationOf (working.pulse n hn) hi same

private theorem announce_run (enough : 399901 ≤ fuel) :
    ∃ after, (r.stopOf n).announce (engine fuel) r = (.ok (), after) ∧
      after.Attended n c relies ∧ r.Untouched n after ∧
        received after.bench = received r.bench ++ [(r.param (r.stopOf n)).value] := by
  obtain ⟨pulses, hn, working, settled⟩ := h.order
  obtain ⟨before, rest, id, heard, refreshes⟩ := h.heard
  obtain ⟨first, refreshed, run⟩ := working.announce_stop_split settled (by omega : 6 ≤ fuel) heard
    fun entry mem => refreshes entry (List.mem_append_left _ mem)
  obtain ⟨attended, untouched⟩ := h.of_refreshed mind refreshed
  obtain ⟨result, called, call, attended', untouched', noted⟩ :=
    mind.call first attended fuel (by omega) (r.param (r.stopOf n)).value
  -- What listens after the callback still refreshes sequences, whatever the callback did.
  have later : ∀ entry ∈ rest, ∃ s : SequenceId,
      s.index < called.sequences.size ∧ entry.2 = called.refresher s := by
    intro entry mem
    obtain ⟨before', rest', id', heard', refreshes'⟩ := attended'.heard
    have still : entry ∈ before' ++ (id', .callback c) :: rest' := by
      rw [← heard', (untouched.trans untouched').stopOf, (untouched.trans untouched').listeners, heard]
      exact List.mem_append_right _ (List.mem_cons_of_mem _ mem)
    obtain ⟨s, -, refreshes⟩ := refreshes entry (List.mem_append_right _ mem)
    rcases List.mem_append.mp still with mem' | mem'
    · exact refreshes' entry (List.mem_append_left _ mem')
    rcases List.mem_cons.mp mem' with rfl | mem'
    · exact absurd (Listener.callback.inj refreshes) (mind.foreign _)
    · exact refreshes' entry (List.mem_append_right _ mem')
  obtain ⟨pulses', -, working', settled'⟩ := attended'.order
  obtain ⟨after, told, refreshed'⟩ := working'.tell_run settled' (by omega : 6 ≤ fuel)
    (r.param (r.stopOf n)).value later
  obtain ⟨attended'', untouched''⟩ := attended'.of_refreshed mind refreshed'
  refine ⟨after, ?_, attended'', (untouched.trans untouched').trans untouched'', ?_⟩
  · rw [run, Act.bind_run, ParamId.tell, Act.bind_run, call]
    exact told
  · rw [refreshed'.bench, noted, refreshed.bench]

private theorem feed_setWith_run (hi : i = 1 ∨ i = 2) (enough : 399904 ≤ fuel)
    (accepted : (r.param ⟨r.firstParam n + i⟩).validator.validate v = .ok ()) :
    ∃ after, (⟨r.firstParam n + i⟩ : ParamId).setWith (engine fuel) v r = (.ok (), after) ∧
      after.Attended n c relies ∧ (after.node n).parameters = (r.node n).parameters ∧
      received after.bench =
        if (after.param (r.stopOf n)).value == (r.param (r.stopOf n)).value then received r.bench
        else received r.bench ++ [(after.param (r.stopOf n)).value] := by
  obtain ⟨fuel, rfl⟩ : ∃ k, fuel = k + 2 := ⟨fuel - 2, by omega⟩
  obtain ⟨mid, mid', took, took', run⟩ :=
    h.ready.feed_setWith_run hi (by omega : 2 ≤ fuel) accepted
  have wiring := IsTrans.trans _ _ _ took.wiring took'.wiring
  have bench := took'.bench.trans took.bench
  have attended : mid'.Attended n c relies :=
    h.of_wiring wiring (h.kept mind wiring bench) fun pulses hn working settled =>
      (took.wiring.working working).settled_of_took_stop
        (working.settled_others_of_took settled hn (by omega) took) hn took'
  have stop : mid'.stopOf n = r.stopOf n := wiring.stopOf n
  have taken := took'.self
  rw [took.wiring.stopOf] at taken
  rw [← taken] at run
  cases unchanged : (mid'.param (r.stopOf n)).value == (r.param (r.stopOf n)).value with
  | true =>
    rw [unchanged] at run
    refine ⟨mid', run, attended, by rw [wiring.nodes.node], ?_⟩
    rw [unchanged, bench]
    rfl
  | false =>
    rw [unchanged] at run
    obtain ⟨after, announced, attended', untouched, noted⟩ := attended.announce_run mind
      (by omega : 399901 ≤ fuel)
    rw [stop] at announced noted
    have same : (after.param (r.stopOf n)).value = (mid'.param (r.stopOf n)).value := by
      have value := untouched.value 3 (by decide)
      rwa [wiring.firstParam] at value
    refine ⟨after, ?_, attended', ?_, ?_⟩
    · rw [run, took.wiring.stopOf]
      exact announced
    · rw [untouched.parameters, wiring.nodes.node]
    · rw [same, unchanged, noted, bench]
      rfl

omit mind in
private theorem stop_numeric : (r.param (r.stopOf n)).value.Numeric := by
  rw [h.current]
  exact Value.numeric_add _ _

end Registry.Attended

/-! ## No change is lost -/

/-- All is in order again, and the callback was told last what the stop is, or it was told nothing
and the stop is equal to what it was. -/
structure Registry.Followed (r : Registry) (n : NodeId) (c : Callable) (relies : Registry → Prop)
    (received : Workbench → List Value) (after : Registry) : Prop where
  attended : after.Attended n c relies
  parameters : (after.node n).parameters = (r.node n).parameters
  told : ∃ news, received after.bench = received r.bench ++ news ∧
    (news.getLastD (r.param (r.stopOf n)).value == (after.param (r.stopOf n)).value) = true

namespace Registry.Followed

private theorem trans (h : r.Followed n c relies received mid)
    (h' : mid.Followed n c relies received after) :
    r.Followed n c relies received after where
  attended := h'.attended
  parameters := h'.parameters.trans h.parameters
  told := by
    obtain ⟨first, noted, last⟩ := h.told
    obtain ⟨second, noted', last'⟩ := h'.told
    have numeric := h.attended.stop_numeric
    have stop : mid.stopOf n = r.stopOf n := stopOf_of_node h.parameters
    rw [stop] at last' numeric
    refine ⟨first ++ second, by rw [noted', noted, List.append_assoc], ?_⟩
    cases second with
    | nil =>
      rw [List.append_nil]
      exact numeric.eq_trans last last'
    | cons value rest =>
      rw [List.getLastD_eq_getLast?, List.getLast?_append_of_ne_nil _ (List.cons_ne_nil _ _),
        ← List.getLastD_eq_getLast?]
      rwa [List.getLastD_cons] at last' ⊢

end Registry.Followed

namespace Registry.Attended

variable (h : r.Attended n c relies) (mind : c.Considerate n relies received)

include h mind

private theorem followed_of_writes {written : Set ParamId}
    (writes : ∀ pulses : Set NodeId, n ∈ pulses → r.Working pulses → r.Settled pulses →
      r.Writes pulses written after) (free : r.stopOf n ∉ written) :
    r.Followed n c relies received after := by
  obtain ⟨pulses, hn, working, settled⟩ := h.order
  have done := writes pulses hn working settled
  have relied := h.kept mind done.wiring done.bench
  refine ⟨h.of_wiring done.wiring relied fun pulses hn working settled =>
    (writes pulses hn working settled).settled, by rw [done.wiring.nodes.node], [], ?_, ?_⟩
  · rw [done.bench, List.append_nil]
  · rw [done.others _ free]
    exact h.stop_numeric.eq_self

private theorem followed_of_sameState (same : r.SameState after) :
    r.Followed n c relies received after := by
  have writes {pulses : Set NodeId} (settled : r.Settled pulses) : r.Writes pulses ∅ after :=
    ⟨same.wiring, same.bench, settled.of_values same.wiring same.samePulses, fun p _ => same.value p⟩
  exact h.followed_of_writes mind (fun _ _ _ settled => writes settled) (Set.notMem_empty _)

private theorem announce_followed (enough : 399901 ≤ fuel) :
    r.Followed n c relies received ((r.stopOf n).announce (engine fuel) r).2 := by
  obtain ⟨after, run, attended, untouched, noted⟩ := h.announce_run mind enough
  have stop : (after.param (r.stopOf n)).value = (r.param (r.stopOf n)).value :=
    untouched.value 3 (by decide)
  rw [run]
  refine ⟨attended, untouched.parameters, _, noted, ?_⟩
  rw [stop]
  exact h.stop_numeric.eq_self

private theorem feed_followed (hi : i = 1 ∨ i = 2) (enough : 399904 ≤ fuel)
    (accepted : (r.param ⟨r.firstParam n + i⟩).validator.validate v = .ok ()) :
    r.Followed n c relies received
      ((⟨r.firstParam n + i⟩ : ParamId).setWith (engine fuel) v r).2 := by
  obtain ⟨after, run, attended, parameters, noted⟩ := h.feed_setWith_run mind hi enough accepted
  have stop : after.stopOf n = r.stopOf n := stopOf_of_node parameters
  have numeric := attended.stop_numeric
  rw [stop] at numeric
  rw [run]
  refine ⟨attended, parameters, ?_⟩
  cases unchanged : (after.param (r.stopOf n)).value == (r.param (r.stopOf n)).value with
  | true =>
    rw [unchanged] at noted
    exact ⟨[], noted.trans (List.append_nil _).symm, h.stop_numeric.eq_symm unchanged⟩
  | false =>
    rw [unchanged] at noted
    exact ⟨_, noted, numeric.eq_self⟩

private theorem stop_followed (enough : 399910 ≤ fuel) (v : Value) :
    r.Followed n c relies received ((r.stopOf n).setWith (engine fuel) v r).2 := by
  obtain ⟨fuel, rfl⟩ : ∃ k, fuel = k + 2 := ⟨fuel - 2, by omega⟩
  rcases h.ready.stop_setWith_outcome (show 1 ≤ fuel by omega) v with
    ⟨halt, after, same, run⟩ | ⟨duration, mid, same, accepted, run⟩
  · rw [run]
    exact h.followed_of_sameState mind same
  · have first := same.wiring.firstParam n
    have begun := h.followed_of_sameState mind same
    have fed := begun.attended.feed_followed mind (i := 2) (.inr rfl) (by omega : 399904 ≤ fuel)
      (by rw [first]; exact accepted)
    obtain ⟨last, set, -⟩ := begun.attended.feed_setWith_run mind (i := 2) (.inr rfl)
      (by omega : 399904 ≤ fuel) (by rw [first]; exact accepted)
    rw [set] at fed
    rw [first] at set
    rw [Pulse.durationAt, set] at run
    have total := begun.trans fed
    obtain ⟨told, same', read⟩ := run total.attended.ready (firstParam_of_node total.parameters)
      total.attended.current
    have overall := total.trans (total.attended.followed_of_sameState mind same')
    have announced := overall.attended.announce_followed mind (by omega : 399901 ≤ fuel + 2)
    rw [stopOf_of_node overall.parameters] at announced
    rw [read]
    exact overall.trans announced

private theorem set_followed (setting : PulseSetting) (v : Value) :
    r.Followed n c relies received (n.set setting.name v r).2 := by
  have refl := h.followed_of_sameState mind (refl r)
  have feed {j : Nat} {plan : ParameterPlan} (hj : j = 1 ∨ j = 2)
      (planned : Pulse.plans[j]? = some plan) :
      r.Followed n c relies received (n.set plan.name v r).2 := by
    obtain ⟨fuel, enough, run⟩ := h.ready.fitted.set_run planned v
    have validator := h.ready.fitted.validator planned
    rw [run]
    cases valid : plan.validator.validate v with
    | error reason =>
      rw [h.ready.feed_setWith_refused hj (validator ▸ valid)]
      exact refl
    | ok _ => exact h.feed_followed mind hj (by omega) (validator ▸ valid)
  have silent {j : Nat} {plan : ParameterPlan} (hj : j = 0 ∨ j = 4) (plain : plan.Plain)
      (planned : Pulse.plans[j]? = some plan) :
      r.Followed n c relies received (n.set plan.name v r).2 := by
    have unheard : (r.param ⟨r.firstParam n + j⟩).listeners = [] := by
      rw [h.ready.feeds j (by omega) (by omega)]
      rcases hj with rfl | rfl <;> rfl
    have run := h.ready.fitted.set_silent_run planned plain unheard v
    split at run
    · obtain ⟨halt, run⟩ := run
      rw [run]
      exact refl
    · obtain ⟨after, run, took⟩ := run
      rw [run]
      refine h.followed_of_writes mind (fun pulses hn working settled =>
        settled.writes_of_took took fun m hm k _ hk => ?_) ?_
      · exact h.ready.param_ne_of (working.pulse m hm) (by omega) (by omega) (by omega)
      · exact h.ready.param_ne_of (i := 3) h.ready (by omega) (by decide) (by omega)
  cases setting with
  | enabled => exact silent (.inl rfl) ⟨rfl, rfl, rfl⟩ rfl
  | start => exact feed (.inl rfl) rfl
  | duration => exact feed (.inr rfl) rfl
  | amplitude => exact silent (.inr rfl) ⟨rfl, rfl, rfl⟩ rfl
  | stop =>
    obtain ⟨fuel, enough, run⟩ : ∃ fuel, 399999 ≤ fuel ∧
        n.set "t_stop" v r = (r.stopOf n).setWith (engine fuel) v r :=
      h.ready.fitted.set_run (i := 3) rfl v
    change r.Followed n c relies received (n.set "t_stop" v r).2
    rw [run]
    exact h.stop_followed mind (by omega) v

private theorem feed_set_noted {plan : ParameterPlan} (hi : i = 1 ∨ i = 2)
    (planned : Pulse.plans[i]? = some plan) (v : Value) :
    received (n.set plan.name v r).2.bench =
      if ((n.set plan.name v r).2.param (r.stopOf n)).value == (r.param (r.stopOf n)).value
        then received r.bench
        else received r.bench ++ [((n.set plan.name v r).2.param (r.stopOf n)).value] := by
  obtain ⟨fuel, enough, run⟩ := h.ready.fitted.set_run planned v
  have validator := h.ready.fitted.validator planned
  rw [run]
  cases valid : plan.validator.validate v with
  | error reason =>
    rw [h.ready.feed_setWith_refused hi (validator ▸ valid), h.stop_numeric.eq_self]
    rfl
  | ok _ =>
    obtain ⟨after, set, -, -, noted⟩ :=
      h.feed_setWith_run mind hi (by omega : 399904 ≤ fuel) (validator ▸ valid)
    rw [set]
    exact noted

private theorem sets_followed (sets : List (PulseSetting × Value)) : r.Followed n c relies received
    (sets.foldl (fun s set => (n.set set.1.name set.2 s).2) r) := by
  induction sets generalizing r with
  | nil => exact h.followed_of_sameState mind (refl r)
  | cons set rest ih =>
    have first := h.set_followed mind set.1 set.2
    exact first.trans (ih first.attended)

end Registry.Attended

private theorem Registry.Orderly.attended (h : r.Orderly ∅) (hn : n ∈ r.inReach)
    (relied : relies (r.hear (r.stopOf n) (.callback c))) :
    (r.hear (r.stopOf n) (.callback c)).Attended n c relies where
  order := ⟨r.inReach, hn, h.arranged.working.hear hn _, h.settled.hear _ _⟩
  relied := relied
  heard := by
    refine ⟨(r.param (r.stopOf n)).listeners, [], ⟨(r.param (r.stopOf n)).nextListener⟩, ?_, ?_⟩
    · change ((r.hear (r.stopOf n) (.callback c)).param (r.stopOf n)).listeners = _
      rw [param_hear, if_pos ⟨rfl, (h.arranged.pulse n hn).stop_inside⟩]
      rfl
    · rw [List.append_nil]
      exact h.arranged.onlyRefreshes hn

def Callable.noting (tag : String) : Callable := .script (.mk [.log tag .value] none)

def Workbench.noted (tag : String) (bench : Workbench) : List Value :=
  (bench.journal.filter (·.1 == tag)).map (·.2)

private theorem Callable.considerate_noting (tag : String) (n : NodeId) :
    (noting tag).Considerate n (fun _ => True) (Workbench.noted tag) where
  foreign _ := nofun
  keeps _ _ _ _ _ := trivial
  call r h fuel enough v := by
    obtain ⟨fuel, rfl⟩ : ∃ k, fuel = k + 1 := ⟨fuel - 1, by omega⟩
    let after : Registry :=
      { r with bench := { r.bench with journal := r.bench.journal ++ [(tag, v)] } }
    have wiring : r.SameWiring after := ⟨⟨rfl, rfl⟩, rfl, rfl, rfl, fun _ => rfl⟩
    refine ⟨.null, after, rfl, h.of_wiring wiring trivial fun _ _ _ settled =>
      settled.of_values wiring fun _ _ _ _ => rfl, ⟨rfl, fun _ _ => rfl, rfl⟩, ?_⟩
    simp [Workbench.noted, after]

end LabRegistry

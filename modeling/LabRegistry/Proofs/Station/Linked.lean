import LabRegistry.Proofs.Links.Connecting
import LabRegistry.Proofs.Sequence.Setting

/-!
# A pulse that starts where another one stops

Two pulses make up a sequence, and the stop of the first is linked to the start of the second. One set
may go through both pulses and refresh the duration of the sequence on the way, before the second pulse
has moved; when it ends, the second pulse starts where the first one stops, and the duration is up to
date. A stop that is as before ends the cascade, and nothing is missed by that.
-/
namespace LabRegistry

open Registry

variable {r mid after : Registry} {s : SequenceId} {first second n : NodeId} {v : Value}
  {written : Set ParamId} {fuel i : Nat}

private theorem Value.Numeric.accepted (h : v.Numeric) :
    (Validator.numbers none none).validate v = .ok () := by
  rcases h with rfl | ⟨n, rfl⟩ <;> rfl

namespace Registry

/-- Two enabled pulses make up a sequence without fixed duration, and what listens to the stop of the
first is, at last, a link to the start of the second. -/
structure Coupled (r : Registry) (s : SequenceId) (first second : NodeId) : Prop where
  working : r.Working {first, second}
  settled : r.Settled {first, second}
  distinct : first ≠ second
  inside : s.index < r.sequences.size
  members : r.membersOf s = [first, second]
  free : (r.sequence s).fixedDuration = none
  enabled : ∀ n ∈ ({first, second} : Set NodeId), (r.param ⟨r.firstParam n⟩).value = .bool true
  heard : ∃ before id, (r.param (r.stopOf first)).listeners =
      before ++ [(id, .link (Pulse.startAt (r.firstParam second)) { update := true })] ∧
    ∀ entry ∈ before, ∃ t : SequenceId, t.index < r.sequences.size ∧ entry.2 = r.refresher t
  only : r.OnlyRefreshes second

/-- Besides, the second pulse starts where the first one stops, and the duration of the sequence is
up to date. -/
structure Linked (r : Registry) (s : SequenceId) (first second : NodeId) : Prop
    extends r.Coupled s first second where
  timed : r.Timed s
  linked : ((r.param (Pulse.startAt (r.firstParam second))).value ==
    (r.param (r.stopOf first)).value) = true

namespace Coupled

variable (h : r.Coupled s first second)

include h

theorem first_ready : r.PulseReady first := h.working.pulse _ (.inl rfl)

theorem second_ready : r.PulseReady second := h.working.pulse _ (.inr rfl)

private theorem hears : s ∈ r.hearers first :=
  (h.working.member s h.inside first (by rw [h.members]; exact List.mem_cons_self)).2

private theorem stop_numeric (hn : n ∈ ({first, second} : Set NodeId)) :
    (r.param (r.stopOf n)).value.Numeric := by
  rw [h.settled.stop n hn]
  exact Value.numeric_add _ _

private theorem of_wiring (wiring : r.SameWiring after) (settled : after.Settled {first, second})
    (enabled : ∀ n ∈ ({first, second} : Set NodeId),
      (after.param ⟨r.firstParam n⟩).value = (r.param ⟨r.firstParam n⟩).value) :
    after.Coupled s first second where
  working := wiring.working h.working
  settled := settled
  distinct := h.distinct
  inside := wiring.sequences ▸ h.inside
  members := (wiring.membersOf s).trans h.members
  free := by rw [wiring.sequence, h.free]
  enabled n hn := by rw [wiring.firstParam, enabled n hn, h.enabled n hn]
  heard := by
    rw [wiring.stopOf, wiring.listeners, wiring.firstParam, wiring.sequences]
    simp only [wiring.refresher]
    exact h.heard
  only := wiring.onlyRefreshes h.only

private theorem notMem_durationsOf (hn : n ∈ ({first, second} : Set NodeId)) (hi : i < 5)
    (told : Set SequenceId) : (⟨r.firstParam n + i⟩ : ParamId) ∉ r.durationsOf told := by
  rintro ⟨t, -, ht, same⟩
  exact (h.working.sequence t ht).ne_durationOf (h.working.pulse n hn) hi same

theorem follow_run (timed : r.Timed s) (enough : 8 ≤ fuel) :
    ∃ after, (Pulse.startAt (r.firstParam second)).setWith (engine fuel)
        (r.param (r.stopOf first)).value r = (.ok (), after) ∧ after.Linked s first second ∧ r.SameWiring after := by
  have memFirst : first ∈ ({first, second} : Set NodeId) := .inl rfl
  have memSecond : second ∈ ({first, second} : Set NodeId) := .inr rfl
  let told := (r.param (r.stopOf first)).value
  have accepted : (r.param ⟨r.firstParam second + 1⟩).validator.validate told = .ok () := by
    have validator : (r.param ⟨r.firstParam second + 1⟩).validator = .numbers none none :=
      h.second_ready.fitted.validator (i := 1) rfl
    rw [validator]
    exact (h.stop_numeric memFirst).accepted
  obtain ⟨after, set, maintained, value⟩ := h.working.feed_setWith_run h.settled memSecond h.only
    (i := 1) (.inl rfl) enough accepted
  have away {n : NodeId} (hn : n ∈ ({first, second} : Set NodeId)) {i : Nat} (hi : i < 5)
      (start : (⟨r.firstParam n + i⟩ : ParamId) ≠ ⟨r.firstParam second + 1⟩)
      (stop : (⟨r.firstParam n + i⟩ : ParamId) ≠ r.stopOf second) :
      (after.param ⟨r.firstParam n + i⟩).value = (r.param ⟨r.firstParam n + i⟩).value := by
    refine maintained.others _ ?_
    rintro (same | same | among)
    · exact start same
    · exact stop same
    · exact h.notMem_durationsOf hn hi _ among
  have stays : (after.param (r.stopOf first)).value = told := by
    have between {j : Nat} (hj : j < 5) :
        (⟨r.firstParam first + 3⟩ : ParamId) ≠ ⟨r.firstParam second + j⟩ :=
      h.first_ready.param_ne h.second_ready h.distinct (by decide) hj
    exact away memFirst (i := 3) (by decide) (between (by decide)) (between (j := 3) (by decide))
  have wiring := maintained.wiring
  refine ⟨after, set, ⟨h.of_wiring wiring maintained.settled fun n hn => ?_,
    maintained.timed s h.inside timed, ?_⟩, wiring⟩
  · have ready := h.working.pulse n hn
    exact away hn (i := 0) (by decide)
      (ready.param_ne_of h.second_ready (by decide) (by decide) (by decide))
      (ready.param_ne_of (j := 3) h.second_ready (by decide) (by decide) (by decide))
  · rw [wiring.firstParam, wiring.stopOf, stays, Pulse.startAt, value]
    exact (h.stop_numeric memFirst).eq_self

private theorem announce_run (enough : 9 ≤ fuel) : ∃ after,
    (r.stopOf first).announce (engine fuel) r = (.ok (), after) ∧ after.Linked s first second ∧
      r.SameWiring after := by
  obtain ⟨fuel, rfl⟩ : ∃ k, fuel = k + 1 := ⟨fuel - 1, by omega⟩
  obtain ⟨before, id, heard, refreshes⟩ := h.heard
  obtain ⟨mid, refreshed, announced⟩ :=
    h.working.announce_stop_split h.settled (by omega : 6 ≤ fuel + 1) heard refreshes
  have kept := h.working.maintained_of_refreshed h.settled refreshed
  have wiring := refreshed.wiring
  have pulseValue {n : NodeId} (hn : n ∈ ({first, second} : Set NodeId)) {i : Nat} (hi : i < 5) :
      (mid.param ⟨r.firstParam n + i⟩).value = (r.param ⟨r.firstParam n + i⟩).value :=
    refreshed.others _ (h.notMem_durationsOf hn hi _)
  have coupled : mid.Coupled s first second :=
    h.of_wiring wiring kept.settled fun n hn => pulseValue hn (i := 0) (by decide)
  -- The sequence was refreshed, although the second pulse has not moved yet.
  have timed : mid.Timed s := by
    refine h.working.timed_of_refreshed h.settled refreshed h.inside (.inl ?_)
    obtain ⟨entry, told, refreshes⟩ := h.hears
    rw [heard] at told
    rcases List.mem_append.mp told with among | last
    · exact ⟨entry, among, refreshes⟩
    · rw [List.mem_singleton.mp last] at refreshes
      cases refreshes
  obtain ⟨after, set, linked, later⟩ := coupled.follow_run timed (by omega : 8 ≤ fuel)
  refine ⟨after, ?_, linked, IsTrans.trans _ _ _ wiring later⟩
  have told : (mid.param (r.stopOf first)).value = (r.param (r.stopOf first)).value :=
    pulseValue (.inl rfl) (i := 3) (by decide)
  rw [wiring.firstParam, wiring.stopOf, told] at set
  have asked : ParamId.tell (engine (fuel + 1)) (r.param (r.stopOf first)).value
      (.link (Pulse.startAt (r.firstParam second)) { update := true }) mid = (.ok (), after) := by
    change (do
      let _ ← (do
        (Pulse.startAt (r.firstParam second)).setWith (engine fuel) (Link.apply _ _)
        return .null : Act RegistryError Value)
      return () : Act RegistryError Unit) mid = _
    rw [Act.bind_run, Act.bind_run, Link.apply_plain, set]
    rfl
  rw [announced, Act.bind_run, asked]
  rfl

end Coupled

namespace Linked

variable (h : r.Linked s first second)

include h

private theorem of_maintained (kept : r.Maintained {first, second} written after)
    (enabled : ∀ n ∈ ({first, second} : Set NodeId), (⟨r.firstParam n + 0⟩ : ParamId) ∉ written)
    (source : r.stopOf first ∉ written) (target : Pulse.startAt (r.firstParam second) ∉ written) :
    after.Linked s first second where
  toCoupled := h.toCoupled.of_wiring kept.wiring kept.settled fun n hn => kept.others _ (enabled n hn)
  timed := kept.timed s h.inside h.timed
  linked := by
    rw [kept.wiring.firstParam, kept.wiring.stopOf, kept.others _ source, kept.others _ target]
    exact h.linked

private theorem of_sameState (same : r.SameState after) : after.Linked s first second := by
  have kept : r.Maintained {first, second} ∅ after := h.working.maintained_of_sameState h.settled same
  exact h.of_maintained kept (fun _ _ => Set.notMem_empty _) (Set.notMem_empty _) (Set.notMem_empty _)

private theorem feed_setWith_run (hi : i = 1 ∨ i = 2) (enough : 11 ≤ fuel)
    (accepted : (r.param ⟨r.firstParam first + i⟩).validator.validate v = .ok ()) :
    ∃ after, (⟨r.firstParam first + i⟩ : ParamId).setWith (engine fuel) v r = (.ok (), after) ∧
      after.Linked s first second ∧ r.SameWiring after := by
  obtain ⟨fuel, rfl⟩ : ∃ k, fuel = k + 2 := ⟨fuel - 2, by omega⟩
  have mem : first ∈ ({first, second} : Set NodeId) := .inl rfl
  have working := h.working
  have ready := h.first_ready
  obtain ⟨mid, moved, took, took', run⟩ := ready.feed_setWith_run hi (by omega : 2 ≤ fuel) accepted
  have wiring := took.wiring
  have working' := wiring.working working
  have others := working.settled_others_of_took h.settled mem (by omega) took
  have settled := working'.settled_of_took_stop others mem took'
  have both : r.SameWiring moved := IsTrans.trans _ _ _ wiring took'.wiring
  have away {n : NodeId} (hn : n ∈ ({first, second} : Set NodeId)) {j : Nat} (hj : j < 5)
      (feed : (⟨r.firstParam n + j⟩ : ParamId) ≠ ⟨r.firstParam first + i⟩)
      (stop : (⟨r.firstParam n + j⟩ : ParamId) ≠ r.stopOf first) :
      (moved.param ⟨r.firstParam n + j⟩).value = (r.param ⟨r.firstParam n + j⟩).value :=
    (took'.others _ (by rw [wiring.stopOf]; exact stop)).trans (took.others _ feed)
  have coupled : moved.Coupled s first second := h.toCoupled.of_wiring both settled fun n hn => by
    have ready' := working.pulse n hn
    exact away hn (j := 0) (by decide) (ready'.param_ne_of ready (by omega) (by decide) (by omega))
      (ready'.param_ne_of (j := 3) ready (by decide) (by decide) (by decide))
  rw [run]
  cases unchanged : mid.stopValue (mid.firstParam first) == (r.param (r.stopOf first)).value with
  | true =>
    rw [if_pos rfl]
    refine ⟨moved, rfl, ⟨coupled, ?_, ?_⟩, both⟩
    · have timed := working.timed_of_took_feed mem hi took h.inside h.timed
      refine working'.timed_of_took_stop others mem took' (wiring.sequences ▸ h.inside) (fun _ => ?_) timed
      have stop : (mid.param (mid.stopOf first)).value = (r.param (r.stopOf first)).value := by
        rw [wiring.stopOf]
        exact took.others _ (ready.param_ne_of (i := 3) ready (by omega) (by decide) (by omega))
      rw [stop]
      exact Value.units?_of_eq unchanged
    · have start := away (.inr rfl) (n := second) (j := 1) (by decide)
        (h.second_ready.param_ne ready h.distinct.symm (by decide) (by omega))
        (h.second_ready.param_ne (j := 3) ready h.distinct.symm (by decide) (by decide))
      have stop : (moved.param (moved.stopOf first)).value = mid.stopValue (mid.firstParam first) := by
        rw [took'.wiring.stopOf, took'.self]
      rw [both.firstParam, Pulse.startAt, start, stop]
      exact (h.stop_numeric mem).eq_trans h.linked ((h.stop_numeric mem).eq_symm unchanged)
  | false =>
    rw [if_neg Bool.false_ne_true]
    obtain ⟨after, announced, linked, last⟩ := coupled.announce_run (by omega : 9 ≤ fuel)
    rw [took'.wiring.stopOf] at announced
    exact ⟨after, announced, linked, IsTrans.trans _ _ _ both last⟩

private theorem stop_setWith (enough : 13 ≤ fuel) (v : Value) :
    (((r.stopOf first).setWith (engine fuel) v r).2).Linked s first second := by
  obtain ⟨fuel, rfl⟩ : ∃ k, fuel = k + 2 := ⟨fuel - 2, by omega⟩
  have mem : first ∈ ({first, second} : Set NodeId) := .inl rfl
  rcases h.first_ready.stop_setWith_outcome (by omega : 1 ≤ fuel) v with
    ⟨halt, after, same, run⟩ | ⟨duration, mid, same, accepted, run⟩
  · rw [run]
    exact h.of_sameState same
  · have linked := h.of_sameState same
    have start := same.wiring.firstParam first
    obtain ⟨last, set, linked', wiring⟩ := linked.feed_setWith_run (i := 2) (.inr rfl)
      (by omega : 11 ≤ fuel) (by rw [start]; exact accepted)
    rw [start] at set
    rw [Pulse.durationAt, set] at run
    have both : r.SameWiring last := IsTrans.trans _ _ _ same.wiring wiring
    obtain ⟨told, same', read⟩ := run linked'.first_ready (both.firstParam first)
      (linked'.settled.stop first mem)
    obtain ⟨after, announced, linked'', -⟩ :=
      (linked'.of_sameState same').announce_run (by omega : 9 ≤ fuel + 2)
    rw [same'.wiring.stopOf, both.stopOf] at announced
    rw [read, announced]
    exact linked''

theorem set_first {name : String} (setting : name ∈ ["t_start", "duration", "t_stop"]) (v : Value) :
    ((first.set name v r).2).Linked s first second := by
  have ready := h.first_ready
  have feed {j : Nat} {plan : ParameterPlan} (hj : j = 1 ∨ j = 2)
      (planned : Pulse.plans[j]? = some plan) :
      ((first.set plan.name v r).2).Linked s first second := by
    obtain ⟨fuel, enough, run⟩ := ready.fitted.set_run planned v
    have validator := ready.fitted.validator planned
    rw [run]
    cases valid : plan.validator.validate v with
    | error reason =>
      rw [ready.feed_setWith_refused hj (validator ▸ valid)]
      exact h
    | ok _ =>
      obtain ⟨after, set, linked, -⟩ := h.feed_setWith_run hj (by omega : 11 ≤ fuel) (validator ▸ valid)
      rw [set]
      exact linked
  simp only [List.mem_cons, List.not_mem_nil, or_false] at setting
  rcases setting with rfl | rfl | rfl
  · exact feed (.inl rfl) rfl
  · exact feed (.inr rfl) rfl
  · obtain ⟨fuel, enough, run⟩ : ∃ fuel, 399999 ≤ fuel ∧
        first.set "t_stop" v r = (r.stopOf first).setWith (engine fuel) v r :=
      ready.fitted.set_run (i := 3) rfl v
    rw [run]
    exact h.stop_setWith (by omega) v

theorem set_second {name : String} (setting : name ∈ ["duration", "t_stop", "amplitude"]) (v : Value) :
    ((second.set name v r).2).Linked s first second := by
  have mem : second ∈ ({first, second} : Set NodeId) := .inr rfl
  have ready := h.second_ready
  have kept := h.working.set_pulse_from h.settled mem h.only (.inl ⟨setting, le_rfl⟩) v
  have free {n : NodeId} (hn : n ∈ ({first, second} : Set NodeId)) {i : Nat} (hi : i < 5)
      (apart : n = second → i < 2) : (⟨r.firstParam n + i⟩ : ParamId) ∉ r.scopeFrom second 2 := by
    rintro (⟨j, hj, le, same⟩ | among)
    · by_cases self : n = second
      · have before := apart self
        rw [self, ParamId.mk.injEq] at same
        omega
      · exact (h.working.pulse n hn).param_ne ready self hi hj same
    · exact h.notMem_durationsOf hn hi _ among
  exact h.of_maintained kept (fun n hn => free hn (by decide) fun _ => by decide)
    (free (.inl rfl) (i := 3) (by decide) fun same => absurd same h.distinct)
    (free mem (i := 1) (by decide) fun _ => by decide)

/-- Both pulses count for the duration. -/
theorem duration_isLargest : ∃ x, r.cached (r.nodeOf s) "duration" = .number (.float x) ∧
    (Double.finite x).IsLargest
      (.zero :: [first, second].filterMap fun n => (r.cached n "t_stop").toDouble?) := by
  obtain ⟨x, value, units⟩ := h.timed
  have cached : r.cached (r.nodeOf s) "duration" = (r.param (r.durationOf s)).value :=
    (h.working.sequence s h.inside).fitted.cached (i := 2) rfl
  have enabled : [first, second].filter r.isEnabled = [first, second] := by
    refine List.filter_eq_self.mpr fun n mem => ?_
    have hn : n ∈ ({first, second} : Set NodeId) := by simpa using mem
    rw [(h.working.pulse n hn).isEnabled, h.enabled n hn]
    rfl
  have stops : r.memberStops s =
      [first, second].filterMap fun n => (r.cached n "t_stop").toDouble? := by
    rw [memberStops, h.working.pulses_eq h.inside, h.members, enabled]
  refine ⟨x, cached.trans value, ?_⟩
  rw [durationUnits, h.free] at units
  rw [← stops]
  exact Double.isLargest_of_units (r.memberStops_finite s) units

theorem start_eq_stop : (r.cached second "t_start" == r.cached first "t_stop") = true := by
  have start : r.cached second "t_start" = _ := h.second_ready.fitted.cached (i := 1) rfl
  rw [start, h.first_ready.cached_stop]
  exact h.linked

theorem stop_eq : r.cached second "t_stop" =
    ((r.cached second "t_start").add? (r.cached second "duration")).getD .null := by
  have ready := h.second_ready
  have start : r.cached second "t_start" = _ := ready.fitted.cached (i := 1) rfl
  have duration : r.cached second "duration" = _ := ready.fitted.cached (i := 2) rfl
  rw [ready.cached_stop, h.settled.stop second (.inr rfl), start, duration]
  rfl

end Linked
end Registry
end LabRegistry

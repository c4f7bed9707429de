import LabRegistry.Proofs.Pulse.Copy

/-!
# What snapshots of sequences report

A snapshot of a sequence that updates reports its settings, its duration, the times of its enabled
pulses and what its pulses report. Getting what is delegated renews the caches of the sequence and
nothing else.
-/
namespace LabRegistry

open Registry

namespace Registry

def timesValue (r : Registry) (s : SequenceId) (parameter : String) : Value :=
  .array (((r.memberTimes s parameter).mergeSort Double.totalLe).map .ofDouble)

def sequenceValue (r : Registry) (s : SequenceId) : String → Value
  | "duration" => r.durationValue s
  | "t_start_list" => r.timesValue s "t_start"
  | "t_stop_list" => r.timesValue s "t_stop"
  | name => r.cached (r.nodeOf s) name

def sequenceReport (r : Registry) (s : SequenceId) : List (String × Value) :=
  r.shortReport (r.nodeOf s) SequenceId.plans (r.sequenceValue s) r.pulseReport

def delegatedOf (r : Registry) (s : SequenceId) : Set ParamId :=
  {p | ∃ i, 2 ≤ i ∧ i < 5 ∧ p = ⟨r.firstParam (r.nodeOf s) + i⟩}

variable {r after mid : Registry} {s : SequenceId} {n : NodeId} {pulses : Set NodeId} {i : Nat}
  {plan : ParameterPlan} {parameter : String}

namespace Working

variable (h : r.Working pulses) (settled : r.Settled pulses) (hs : s.index < r.sequences.size)

include h hs

private theorem notMem_delegatedOf (hn : n ∈ pulses) (hi : i < 5) :
    (⟨r.firstParam n + i⟩ : ParamId) ∉
    r.delegatedOf s := by
  rintro ⟨j, -, hj, same⟩
  exact (h.sequence s hs).ne_param (h.pulse n hn) hi hj same

private theorem samePulses_of_renewed (renewed : r.Renewed (r.delegatedOf s) after) :
    r.SamePulses pulses after :=
  fun _ hn _ hi => renewed.others _ (h.notMem_delegatedOf hs hn (by omega))

include settled

private theorem times_reads (timed : parameter ∈ ["t_start", "t_stop"]) (fuel : Nat)
    (p : Option ParamId)
    (v : Value) (args : List Value) :
    (engine fuel (.call (.pulseTimes parameter) ⟨some (r.nodeOf s), p, v, args⟩)).Reads r
      (r.timesValue s parameter) (fuel < 4) := by
  cases fuel with
  | zero => exact ⟨r, refl r, .inr ⟨by omega, rfl⟩⟩
  | succ fuel =>
    have reads : (do
        let times ← (r.nodeOf s).pulseTimes (engine fuel) parameter
        return .array (times.map .ofDouble) : Act RegistryError Value).Reads r
          (r.timesValue s parameter) (fuel < 3) :=
      .bind (h.pulseTimes_reads settled hs timed fuel) fun _ _ => .pure _
    exact reads.mono fun few => by omega

private theorem times_takes (timed : parameter ∈ ["t_start", "t_stop"])
    (planned : SequenceId.plans[i]? = some (ParameterPlan.delegated { name := parameter ++ "_list" }))
    (fuel : Nat) :
    ((⟨r.firstParam (r.nodeOf s) + i⟩ : ParamId).getWith (engine fuel)).Takes r
      ⟨r.firstParam (r.nodeOf s) + i⟩ (r.timesValue s parameter) (fuel < 4) := by
  have ready := h.sequence s hs
  have fitted := ready.fitted
  have getter : ((r.node (r.nodeOf s)).delegatesFor
      (r.param ⟨r.firstParam (r.nodeOf s) + i⟩).name).getter = some (.pulseTimes parameter) := by
    rw [fitted.name planned]
    exact ready.lists parameter timed
  have asked := ParamId.getWith_run_of_owner (fitted.getSource planned)
    (fitted.owner? planned ready.alive) getter (engine fuel)
  rw [Act.Takes, asked]
  exact ParamId.receive_takes _ (fitted.getParser planned) (fitted.speaksAt planned)
    (fitted.lt_size planned) (h.times_reads settled hs timed fuel _ _ _)

/-- Whatever delegated caches of the sequence were renewed, a get of one of its parameters gives what
it is to give. -/
theorem sequence_gives (hi : SequenceId.plans[i]? = some plan) :
    (⟨r.firstParam (r.nodeOf s) + i⟩ : ParamId).Gives r (r.delegatedOf s)
      (r.sequenceValue s plan.name) := by
  have bound : i < 5 := (List.getElem?_eq_some_iff.mp hi).1
  have fitted := (h.sequence s hs).fitted
  have there {t : Registry} (renewed : r.Renewed (r.delegatedOf s) t) :
      t.Working pulses ∧ t.Settled pulses ∧ s.index < t.sequences.size :=
    ⟨renewed.wiring.working h, settled.of_values renewed.wiring (h.samePulses_of_renewed hs renewed),
      by rwa [renewed.wiring.sequences]⟩
  have times {parameter : String} (timed : parameter ∈ ["t_start", "t_stop"]) (high : 2 ≤ i)
      (planned : SequenceId.plans[i]? = some (ParameterPlan.delegated { name := parameter ++ "_list" })) :
      (⟨r.firstParam (r.nodeOf s) + i⟩ : ParamId).Gives r (r.delegatedOf s)
        (r.timesValue s parameter) := by
    refine ParamId.gives_of_takes (show 4 ≤ 399999 by decide) (fun t renewed fuel => ?_)
      (.inl ⟨i, high, bound, rfl⟩)
    obtain ⟨h', settled', hs'⟩ := there renewed
    have takes := h'.times_takes settled' hs' timed planned fuel
    have value : t.timesValue s parameter = r.timesValue s parameter := by
      rw [timesValue, h.memberTimes_of renewed.wiring (h.samePulses_of_renewed hs renewed) hs timed,
        timesValue]
    rwa [renewed.wiring.nodeOf, renewed.wiring.firstParam, value] at takes
  have setting (low : i < 2) (cache : plan.getSource = .cache)
      (value : r.sequenceValue s plan.name = r.cached (r.nodeOf s) plan.name) :
      (⟨r.firstParam (r.nodeOf s) + i⟩ : ParamId).Gives r (r.delegatedOf s)
        (r.sequenceValue s plan.name) := by
    rw [value, fitted.cached hi]
    refine ParamId.gives_of_cache ((fitted.getSource hi).trans cache) ?_
    rintro ⟨j, high, -, same⟩
    rw [ParamId.mk.injEq] at same
    omega
  obtain rfl | rfl | rfl | rfl | rfl : i = 0 ∨ i = 1 ∨ i = 2 ∨ i = 3 ∨ i = 4 := by omega
  · cases hi
    exact setting (by decide) rfl rfl
  · cases hi
    exact setting (by decide) rfl rfl
  · cases hi
    refine ParamId.gives_of_takes (show 4 ≤ 399999 by decide) (fun t renewed fuel => ?_)
      (.inl ⟨2, by decide, by decide, rfl⟩)
    obtain ⟨h', settled', hs'⟩ := there renewed
    have takes := h'.duration_getWith_takes settled' hs' fuel
    rwa [renewed.wiring.durationOf,
      h.durationValue_of renewed.wiring (h.samePulses_of_renewed hs renewed) hs] at takes
  · cases hi
    exact times (by decide) (by decide) rfl
  · cases hi
    exact times (by decide) (by decide) rfl

theorem sequence_contents_run (nonempty : 0 < r.nodes.size) (renewed : r.Renewed (r.delegatedOf s) mid) :
    ∃ after, (r.nodeOf s).contents mid = (.ok (some (.object (r.sequenceReport s))), after) ∧
      r.Renewed (r.delegatedOf s) after := by
  have ready := h.sequence s hs
  obtain ⟨depth, size⟩ : ∃ depth, r.nodes.size = depth + 1 := ⟨r.nodes.size - 1, by omega⟩
  refine renewed.contents_run fun options short update => ?_
  refine ready.fitted.report_run (by decide) (fun i plan hi => h.sequence_gives settled hs hi)
    (fun entry mem t ht => ?_) (by rw [short]; rfl) update renewed
  have hn := h.mem_of_member hs (List.mem_map_of_mem mem)
  rw [size]
  exact (h.pulse _ hn).report_run (settled.stop _ hn)
    (fun i hi => h.notMem_delegatedOf hs hn hi) ht depth rfl rfl

end Working

/-! ## Sequences that resemble each other -/

/-- The pulses go by the same name and have the same cached values. -/
def SamePulse (r after : Registry) (entry entry' : String × NodeId) : Prop :=
  entry'.1 = entry.1 ∧ ∀ name, after.cached entry'.2 name = r.cached entry.2 name

/-- A sequence has the settings and the fixed duration of another one, and its pulses are, one by one,
like those of the other. -/
structure Resembles (r : Registry) (s : SequenceId) (after : Registry) (t : SequenceId) : Prop where
  overlap : after.cached (after.nodeOf t) "allow_pulse_overlap" =
    r.cached (r.nodeOf s) "allow_pulse_overlap"
  delay : after.cached (after.nodeOf t) "final_delay" = r.cached (r.nodeOf s) "final_delay"
  fixed : (after.sequence t).fixedDuration = (r.sequence s).fixedDuration
  members : List.Forall₂ (r.SamePulse after) (r.node (r.nodeOf s)).children.entries
    (after.node (after.nodeOf t)).children.entries

private theorem PulseReady.isEnabled_eq (h : r.PulseReady n) :
    r.isEnabled n = !(r.cached n "enabled" == .bool false) := by
  have enabled : r.cached n "enabled" = _ := h.fitted.cached (i := 0) rfl
  rw [h.isEnabled, enabled]
  rfl

private theorem SamePulse.pulseReport {entry entry' : String × NodeId}
    (same : r.SamePulse after entry entry')
    (ready : r.PulseReady entry.2) (ready' : after.PulseReady entry'.2) :
    after.pulseReport entry'.2 = r.pulseReport entry.2 := by
  rw [ready'.pulseReport, ready.pulseReport, same.2, same.2, same.2, same.2, same.2]

namespace Resembles

variable {t : SequenceId} {pulses' : Set NodeId} (same : r.Resembles s after t) (h : r.Working pulses)
  (hs : s.index < r.sequences.size) (h' : after.Working pulses') (ht : t.index < after.sequences.size)

include same h hs h' ht

omit h hs h' ht in
theorem held (inUse : List NodeId) (bench : Workbench) :
    r.Resembles s { after with inUse, bench } t :=
  ⟨same.overlap, same.delay, same.fixed, same.members⟩

private theorem ready : List.Forall₂ (fun entry entry' => r.SamePulse after entry entry' ∧
      r.PulseReady entry.2 ∧ after.PulseReady entry'.2)
    (r.node (r.nodeOf s)).children.entries (after.node (after.nodeOf t)).children.entries := by
  refine List.forall₂_iff_get.mpr ⟨same.members.length_eq, fun i hi hi' => ⟨?_, ?_, ?_⟩⟩
  · exact (List.forall₂_iff_get.mp same.members).2 i hi hi'
  · exact h.pulse _ (h.mem_of_member hs (List.mem_map_of_mem (List.get_mem _ _)))
  · exact h'.pulse _ (h'.mem_of_member ht (List.mem_map_of_mem (List.get_mem _ _)))

private theorem memberTimes (parameter : String) :
    after.memberTimes t parameter = r.memberTimes s parameter := by
  have along {entries entries' : List (String × NodeId)} (pairs : List.Forall₂ (fun entry entry' =>
        r.SamePulse after entry entry' ∧ r.PulseReady entry.2 ∧ after.PulseReady entry'.2)
      entries entries') :
      ((entries'.map (·.2)).filter after.isEnabled).filterMap
          (fun n => (after.cached n parameter).toDouble?) =
        ((entries.map (·.2)).filter r.isEnabled).filterMap
          (fun n => (r.cached n parameter).toDouble?) := by
    induction pairs with
    | nil => rfl
    | cons pair _ ih =>
      obtain ⟨like, ready, ready'⟩ := pair
      rw [List.map_cons, List.map_cons, List.filter_cons, List.filter_cons, ready.isEnabled_eq,
        ready'.isEnabled_eq, like.2]
      split
      · rw [List.filterMap_cons, List.filterMap_cons, like.2, ih]
      · exact ih
  rw [Registry.memberTimes, Registry.memberTimes, h.pulses_eq hs, h'.pulses_eq ht]
  exact along (same.ready h hs h' ht)

theorem sequenceReport : after.sequenceReport t = r.sequenceReport s := by
  have duration : after.durationValue t = r.durationValue s := by
    have stops : after.memberStops t = r.memberStops s := same.memberTimes h hs h' ht "t_stop"
    rw [durationValue, durationValue, same.fixed, stops]
  have times (parameter : String) : after.timesValue t parameter = r.timesValue s parameter := by
    rw [timesValue, timesValue, same.memberTimes h hs h' ht]
  have values : SequenceId.plans.map (fun plan =>
      (simplifiedKey plan.name plan.unit, after.sequenceValue t plan.name)) =
        SequenceId.plans.map fun plan =>
          (simplifiedKey plan.name plan.unit, r.sequenceValue s plan.name) := by
    simp [SequenceId.plans, ParameterPlan.delegated, sequenceValue, same.overlap, same.delay, duration,
      times]
  have members : (after.node (after.nodeOf t)).children.entries.map
      (fun entry => (entry.1, Value.object (after.pulseReport entry.2))) =
        (r.node (r.nodeOf s)).children.entries.map fun entry =>
          (entry.1, Value.object (r.pulseReport entry.2)) := by
    have pairs := same.ready h hs h' ht
    refine List.forall₂_eq_eq_eq ▸ List.forall₂_map_left_iff.mpr (List.forall₂_map_right_iff.mpr ?_)
    refine pairs.flip.imp fun entry' entry alike => ?_
    obtain ⟨like, ready, ready'⟩ := alike
    rw [like.pulseReport ready ready', like.1]
  rw [Registry.sequenceReport, Registry.sequenceReport, shortReport, shortReport, values, members,
    (h.sequence s hs).config, (h'.sequence t ht).config]

end Resembles

/-! ## Comparing sequences -/

theorem SequenceReady.accepted (h : r.SequenceReady s) (sound : r.Sound)
    (hi : SequenceId.plans[i]? = some plan) (cache : plan.getSource = .cache) :
    plan.validator.validate (r.cached (r.nodeOf s) plan.name) = .ok () := by
  rw [h.fitted.cached hi, ← h.fitted.validator hi]
  exact (sound _).accepted ((h.fitted.getSource hi).trans cache)

namespace Working

variable {t : SequenceId} (h : r.Working pulses) (settled : r.Settled pulses)
  (hs : s.index < r.sequences.size) (ht : t.index < r.sequences.size)

include h hs ht

private theorem resembles_of_renewed (renewed : r.Renewed (r.delegatedOf s) mid) :
    r.Resembles t mid t := by
  have ready := h.sequence t ht
  have nodeOf := renewed.wiring.nodeOf t
  have setting {i : Nat} {plan : ParameterPlan} (hi : SequenceId.plans[i]? = some plan) (low : i < 2) :
      mid.cached (mid.nodeOf t) plan.name = r.cached (r.nodeOf t) plan.name := by
    have fitted := (renewed.wiring.sequenceReady ready).fitted
    rw [fitted.cached hi, ready.fitted.cached hi, nodeOf, renewed.wiring.firstParam]
    refine renewed.others _ ?_
    rintro ⟨j, high, bound, same⟩
    obtain rfl := ready.param_inj (h.sequence s hs) (by omega) bound same
    rw [ParamId.mk.injEq] at same
    omega
  refine ⟨setting (i := 0) rfl (by decide), setting (i := 1) rfl (by decide),
    by rw [renewed.wiring.sequence], ?_⟩
  rw [nodeOf, renewed.wiring.nodes.node]
  refine List.forall₂_same.mpr fun entry mem => ⟨rfl, fun name => ?_⟩
  have hn := h.mem_of_member ht (List.mem_map_of_mem mem)
  have pulse := h.pulse _ hn
  refine pulse.fitted.cached_eq (renewed.wiring.pulseReady pulse).fitted (fun i hi => ?_) name
  rw [renewed.wiring.firstParam]
  exact renewed.others _ (h.notMem_delegatedOf hs hn hi)

include settled

private theorem sequences_sameContents_run (nonempty : 0 < r.nodes.size) :
    ∃ after, (r.nodeOf s).sameContents (r.nodeOf t) r =
      (.ok (Value.object (r.sequenceReport s) == .object (r.sequenceReport t)), after) := by
  obtain ⟨mid, left, renewed⟩ := h.sequence_contents_run settled hs nonempty (.unchanged r)
  have h' := renewed.wiring.working h
  have ht' : t.index < mid.sequences.size := by rwa [renewed.wiring.sequences]
  obtain ⟨after, right, -⟩ := h'.sequence_contents_run
    (settled.of_values renewed.wiring (h.samePulses_of_renewed hs renewed)) ht'
    (by rwa [renewed.wiring.nodes.nodes]) (.unchanged mid)
  rw [(h.resembles_of_renewed hs ht renewed).sequenceReport h ht h' ht', renewed.wiring.nodeOf] at right
  refine ⟨after, ?_⟩
  rw [NodeId.sameContents, Act.bind_run, left]
  dsimp only
  rw [Act.bind_run, right]
  rfl

omit ht in
/-- A sequence reports each of its parameters and pulses once. -/
theorem sequence_keysDistinct (sound : r.Sound) :
    (Value.object (r.sequenceReport s)).KeysDistinct := by
  have ready := h.sequence s hs
  have overlap := Validator.keysDistinct_of_bool (ready.accepted sound (i := 0) rfl rfl)
  have delay := Validator.keysDistinct_of_numbers (ready.accepted sound (i := 1) rfl rfl)
  have duration : (r.durationValue s).KeysDistinct := by
    rw [durationValue]
    split <;> exact (Value.numeric_ofDouble _).keysDistinct
  have times (parameter : String) : (r.timesValue s parameter).KeysDistinct := by
    refine .array fun item mem => ?_
    obtain ⟨x, -, rfl⟩ := List.mem_map.mp mem
    exact (Value.numeric_ofDouble x).keysDistinct
  refine .object (Entries.nodup_keys_enter (Entries.nodup_keys_enter (List.nodup_singleton _))) ?_
  refine Entries.forall_mem_enter (Entries.forall_mem_enter ?_ ?_) fun entry mem => ?_
  · exact List.forall_mem_singleton.mpr (.string _)
  · intro entry mem
    obtain ⟨plan, among, rfl⟩ := List.mem_map.mp mem
    simp only [SequenceId.plans, ParameterPlan.delegated, List.mem_cons, List.not_mem_nil,
      or_false] at among
    rcases among with rfl | rfl | rfl | rfl | rfl
    · exact overlap
    · exact delay
    · exact duration
    · exact times _
    · exact times _
  · obtain ⟨member, among, rfl⟩ := List.mem_map.mp mem
    have hn := h.mem_of_member hs (List.mem_map_of_mem among)
    exact (h.pulse _ hn).keysDistinct (settled.stop _ hn) sound

theorem sameContents_of_resembles (sound : r.Sound) (nonempty : 0 < r.nodes.size)
    (same : r.Resembles s r t) :
    ∃ after, (r.nodeOf s).sameContents (r.nodeOf t) r = (.ok true, after) := by
  obtain ⟨after, run⟩ := h.sequences_sameContents_run settled hs ht nonempty
  refine ⟨after, ?_⟩
  rw [run, same.sequenceReport h hs h ht, (h.sequence_keysDistinct settled hs sound).eq_self]

end Working
end Registry
end LabRegistry

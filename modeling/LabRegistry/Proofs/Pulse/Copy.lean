import LabRegistry.Proofs.Sequence.Filling
import LabRegistry.Proofs.Sequence.History
import LabRegistry.Proofs.Snapshot.Renewed
import LabRegistry.Proofs.Operation.Changes
import LabRegistry.Proofs.Value.Content

/-!
# Copies of pulses

A copy is a new pulse that is set to those cached values of the original which are not `null`. The
validators accept them again, and what is not set is `null` in a new pulse too, except that a new pulse
is enabled. So a copy has the contents of the original unless this one is neither enabled nor disabled.
-/
namespace LabRegistry

open Registry

/-! ## Cached values are accepted -/

private theorem SequenceCommand.act_changes (c : SequenceCommand) : c.act.Keeps Changes := by
  have stored (handle : String) (object : Object) :
      (Act.store handle object : Act DomainError Unit).Keeps Changes :=
    .changeElsewhere (fun _ => rfl) fun _ => rfl
  cases c with
  | createPulse handle plan => exact .bind (Pulse.createWith_changes plan) fun _ => stored handle _
  | createSequence handle name => exact .bind (SequenceId.create_changes name) fun _ => stored handle _
  | addPulse s n => exact s.addPulse_changes n
  | removePulse s name => exact .bind (s.removePulse_changes name) fun _ => .pure _
  | clear s => exact s.clear_changes
  | setSequence s setting v =>
    exact .bind (.read fun _ => rfl) fun _ => .lift (NodeId.set_changes _ _ _)
  | setPulse n setting v => exact .lift (n.set_changes _ _)

namespace Registry

variable {log : Log} {now : Instant} {permitted : SequenceCommand → Prop}
  {past : List (SequenceId × Timing)} {r mid after : Registry} {n m : NodeId} {i : Nat}
  {plan : ParameterPlan} {handle name : String} {guests : Set Listener} {pulses : Set NodeId}
  {caches : Set ParamId} {given : Nat → Option Value}

theorem Ran.sound (h : Ran log now permitted past r) : r.Sound := by
  induction h with
  | start => exact fun _ => Parameter.sound_default
  | step c _ _ _ ih => exact (c.act_changes _).staysSound ih

namespace PulseReady

variable (h : r.PulseReady n)

include h

private theorem getSource (hi : Pulse.plans[i]? = some plan) (ne : i ≠ 3) :
    (r.param ⟨r.firstParam n + i⟩).getSource = .cache := by
  have bound : i < 5 := (List.getElem?_eq_some_iff.mp hi).1
  rw [h.fitted.getSource hi]
  obtain rfl | rfl | rfl | rfl : i = 0 ∨ i = 1 ∨ i = 2 ∨ i = 4 := by omega
  all_goals
    cases hi
    rfl

private theorem accepted (sound : r.Sound) (hi : Pulse.plans[i]? = some plan) (ne : i ≠ 3) :
    plan.validator.validate (r.cached n plan.name) = .ok () := by
  rw [h.fitted.cached hi, ← h.fitted.validator hi]
  exact (sound _).accepted (h.getSource hi ne)

/-! ## What a pulse reports -/

private theorem gives (current : r.StopCurrent n)
    (free : ∀ i < 5, (⟨r.firstParam n + i⟩ : ParamId) ∉ caches) (hi : Pulse.plans[i]? = some plan) :
    (⟨r.firstParam n + i⟩ : ParamId).Gives r caches (r.cached n plan.name) := by
  have bound : i < 5 := (List.getElem?_eq_some_iff.mp hi).1
  rw [h.fitted.cached hi]
  by_cases stop : i = 3
  · subst stop
    change (r.stopOf n).Gives r caches (r.param (r.stopOf n)).value
    refine ParamId.gives_of_takes (show 2 ≤ 399999 by decide) (fun s hs fuel => ?_) (.inr rfl)
    have takes := (hs.wiring.pulseReady h).stop_getWith_takes fuel
    have value : s.stopValue (r.firstParam n) = (r.param (r.stopOf n)).value := by
      have start : (s.param (Pulse.startAt (r.firstParam n))).value = _ :=
        hs.others _ (free 1 (by decide))
      have duration : (s.param (Pulse.durationAt (r.firstParam n))).value = _ :=
        hs.others _ (free 2 (by decide))
      rw [current, stopValue, start, duration, stopValue]
    rwa [hs.wiring.firstParam, value] at takes
  · exact ParamId.gives_of_cache (h.getSource hi stop) (free i bound)

end PulseReady

def pulseReport (r : Registry) (n : NodeId) : List (String × Value) :=
  r.shortReport n Pulse.plans (r.cached n) fun _ => []

private theorem PulseReady.children (h : r.PulseReady n) : (r.node n).children.entries = [] :=
  List.map_eq_nil_iff.mp (List.append_eq_nil_iff.mp h.leaf).1

theorem PulseReady.pulseReport (h : r.PulseReady n) : r.pulseReport n =
    [(classKey, .string "Pulse"), ("enabled", r.cached n "enabled"),
      ("t_start (s)", r.cached n "t_start"), ("duration (s)", r.cached n "duration"),
      ("t_stop (s)", r.cached n "t_stop"), ("amplitude (V)", r.cached n "amplitude")] := by
  simp [Registry.pulseReport, shortReport, h.children, h.config, Pulse.config, pulseClass, Pulse.plans,
    ParameterPlan.delegated, simplifiedKey, Entries.insert, classKey]

theorem PulseReady.report_run (h : r.PulseReady n) (current : r.StopCurrent n)
    (free : ∀ i < 5, (⟨r.firstParam n + i⟩ : ParamId) ∉ caches) {s : Registry}
    (hs : r.Renewed caches s) (depth : Nat) {options : SnapshotOptions}
    (short : options.simplify.getD true = true) (update : options.update = true) :
    ∃ after, n.snapshotWithin (depth + 1) options s = (.ok (r.pulseReport n), after) ∧
      r.Renewed caches after :=
  h.fitted.report_run (by decide) (fun _ _ hi => h.gives current free hi)
    (by
      rw [h.children]
      exact nofun)
    (by
      rw [h.config]
      exact short)
    update hs

private theorem PulseReady.sameContents_run (h : r.PulseReady n) (current : r.StopCurrent n)
    (h' : r.PulseReady m) (current' : r.StopCurrent m) : ∃ after, n.sameContents m r =
      (.ok (Value.object (r.pulseReport n) == .object (r.pulseReport m)), after) := by
  have start : r.Renewed ∅ r := .unchanged r
  obtain ⟨mid, left, hmid⟩ := start.contents_run fun _ short update =>
    h.report_run current (fun _ _ => Set.notMem_empty _) (.unchanged r) _ (by rw [short]; rfl) update
  obtain ⟨after, right, -⟩ := hmid.contents_run fun _ short update =>
    h'.report_run current' (fun _ _ => Set.notMem_empty _) hmid _ (by rw [short]; rfl) update
  refine ⟨after, ?_⟩
  rw [NodeId.sameContents, Act.bind_run, left]
  dsimp only
  rw [Act.bind_run, right]
  rfl

end Registry

/-! ## Copying values -/

def Value.nonNull? (v : Value) : Option Value := if v.isNull then none else some v

private theorem Value.nonNull?_getD_null (v : Value) : v.nonNull?.getD .null = v := by
  cases v <;> rfl

theorem Value.Numeric.keysDistinct {v : Value} (h : v.Numeric) : v.KeysDistinct := by
  rcases h with rfl | ⟨x, rfl⟩
  · exact .null
  · exact .number x

namespace Validator

theorem keysDistinct_of_bool {v : Value} (accepted : Validator.bool.validate v = .ok ()) :
    v.KeysDistinct := by
  cases v with
  | null => exact .null
  | bool b => exact .bool b
  | _ => cases accepted

theorem keysDistinct_of_numbers {min max : Option Double} {v : Value}
    (accepted : (numbers min max).validate v = .ok ()) : v.KeysDistinct := by
  cases v with
  | null => exact .null
  | number x => exact .number x
  | _ => cases accepted

end Validator

namespace Registry

variable {log : Log} {now : Instant} {permitted : SequenceCommand → Prop}
  {past : List (SequenceId × Timing)} {r mid after : Registry} {n m : NodeId} {i : Nat}
  {plan : ParameterPlan} {guests : Set Listener} {pulses : Set NodeId} {caches : Set ParamId}
  {given : Nat → Option Value}

/-- The values of a pulse that a copy is set to, by their places. -/
def copyable (r : Registry) (n : NodeId) (i : Nat) : Option Value :=
  if i = 3 then none else (r.param ⟨r.firstParam n + i⟩).value.nonNull?

private theorem Fitted.copyValue_run {first : Nat} (h : r.Fitted n first Pulse.plans)
    (hi : Pulse.plans[i]? = some plan) : Pulse.copyValue n m plan.name r =
      Pulse.setGiven m plan.name (r.param ⟨first + i⟩).value.nonNull? r := by
  have latest : (ParamId.latest ⟨first + i⟩ : Act RegistryError Value) r =
      (.ok (r.param ⟨first + i⟩).value, r) := rfl
  rw [Pulse.copyValue, Act.bind_run, h.parameter_run hi]
  dsimp only
  rw [Act.bind_run, latest]
  dsimp only
  cases (r.param ⟨first + i⟩).value <;> rfl

private theorem Fills.copyValue_run (h : r.Working pulses) (hn : n ∈ pulses) (hm : m ∈ pulses)
    (ne : n ≠ m)
    (unheard : (r.param (r.stopOf m)).listeners = []) (fills : r.Fills pulses m given mid)
    (hi : Pulse.plans[i]? = some plan) (notStop : i ≠ 3)
    (accepted : plan.validator.validate (r.param ⟨r.firstParam n + i⟩).value = .ok ()) :
    ∃ after, Pulse.copyValue n m plan.name mid = (.ok (), after) ∧
      r.Fills pulses m (Function.update given i ((r.copyable n i).or (given i))) after := by
  have bound : i < 5 := (List.getElem?_eq_some_iff.mp hi).1
  have wiring := fills.maintained.wiring
  have value : (mid.param ⟨r.firstParam n + i⟩).value = (r.param ⟨r.firstParam n + i⟩).value := by
    refine fills.maintained.others _ ?_
    rintro ⟨j, hj, same⟩
    exact (h.pulse n hn).param_ne (h.pulse m hm) ne bound hj same
  have fitted := (wiring.pulseReady (h.pulse n hn)).fitted
  rw [wiring.firstParam] at fitted
  rw [fitted.copyValue_run hi, value, copyable, if_neg notStop]
  refine fills.setGiven_run h hm unheard hi notStop _ fun x mem => ?_
  rw [Value.nonNull?] at mem
  split at mem
  · cases mem
  · cases mem
    exact accepted

private theorem Working.copyValues_run (h : r.Working pulses) (settled : r.Settled pulses)
    (hn : n ∈ pulses)
    (hm : m ∈ pulses) (ne : n ≠ m) (unheard : (r.param (r.stopOf m)).listeners = [])
    (accepted : ∀ i plan, Pulse.plans[i]? = some plan → i ≠ 3 →
      plan.validator.validate (r.param ⟨r.firstParam n + i⟩).value = .ok ()) :
    ∃ after, Pulse.copyValues n m r = (.ok (), after) ∧ r.Fills pulses m (r.copyable n) after := by
  obtain ⟨r₁, run₁, fills₁⟩ := (Fills.refl settled).copyValue_run h hn hm ne unheard (i := 0) rfl
    (by decide) (accepted 0 _ rfl (by decide))
  obtain ⟨r₂, run₂, fills₂⟩ := fills₁.copyValue_run h hn hm ne unheard (i := 1) rfl
    (by decide) (accepted 1 _ rfl (by decide))
  obtain ⟨r₃, run₃, fills₃⟩ := fills₂.copyValue_run h hn hm ne unheard (i := 2) rfl
    (by decide) (accepted 2 _ rfl (by decide))
  obtain ⟨after, run₄, fills⟩ := fills₃.copyValue_run h hn hm ne unheard (i := 4) rfl
    (by decide) (accepted 4 _ rfl (by decide))
  refine ⟨after, ?_, fills.maintained, fun i hi apart => ?_⟩
  · dsimp only at run₁ run₂ run₃ run₄
    change (do
      Pulse.copyValue n m "enabled"
      Pulse.copyValue n m "t_start"
      Pulse.copyValue n m "duration"
      Pulse.copyValue n m "amplitude"
      return ()) r = _
    simp only [Act.bind_run, run₁, run₂, run₃, run₄]
    rfl
  · rw [fills.value i hi apart]
    obtain rfl | rfl | rfl | rfl : i = 0 ∨ i = 1 ∨ i = 2 ∨ i = 4 := by omega
    all_goals simp [Function.update]

/-- A pulse in order is copied. -/
theorem Arranged.copy_run (h : r.Arranged guests pulses) (settled : r.Settled pulses) (hn : n ∈ pulses)
    (sound : r.Sound) : ∃ mid, Pulse.copy n r = (.ok ⟨r.nodes.size⟩, { mid with inUse := r.inUse }) ∧
      r.Offers guests pulses (r.node n).name (pulseValues (r.copyable n)) mid := by
  let m : NodeId := ⟨r.nodes.size⟩
  have inside := (h.placed n hn).inside
  have ne : n ≠ m := fun same => absurd inside (same ▸ lt_irrefl _)
  have accepted (i : Nat) (plan : ParameterPlan) (hi : Pulse.plans[i]? = some plan) (apart : i ≠ 3) :
      plan.validator.validate (r.param ⟨r.firstParam n + i⟩).value = .ok () := by
    rw [← (h.pulse n hn).fitted.cached hi]
    exact (h.pulse n hn).accepted sound hi apart
  obtain ⟨made, filled, created, inUse, fill_run, offers⟩ := h.offer_run settled
    (r.copyable n) (fun m => liftM (Pulse.copyValues n m)) (r.node n).name
    fun mid arranged settled unheard carries => by
      have first : mid.firstParam n = r.firstParam n := firstParam_of_node (carries.parameters n inside)
      have value {i : Nat} (hi : i < 5) : (mid.param ⟨mid.firstParam n + i⟩).value =
          (r.param ⟨r.firstParam n + i⟩).value := by
        rw [first]
        exact carries.others _ (Set.notMem_empty _) ((h.pulse n hn).param_inside hi)
      obtain ⟨after, run, fills⟩ := arranged.working.copyValues_run settled (.inr hn) (.inl rfl) ne
        unheard fun i plan hi apart => by
          rw [value (List.getElem?_eq_some_iff.mp hi).1]
          exact accepted i plan hi apart
      refine ⟨after, Act.lift_ok run, fills.maintained, fun i hi apart => ?_⟩
      rw [fills.value i hi apart]
      rw [copyable, copyable, if_neg apart, if_neg apart, value hi]
  refine ⟨_, ?_, offers⟩
  rw [Pulse.copy, Act.bind_run, NodeId.state_run]
  dsimp only
  rw [Act.bind_run, created]
  dsimp only
  rw [Act.bind_run, Act.holding_run, inUse, fill_run]
  rfl

/-! ## Comparing the copy -/

/-- The values are those of another pulse, except that the pulse is enabled where the other is neither
enabled nor disabled. -/
structure Copies (r : Registry) (n : NodeId) (after : Registry) (m : NodeId) : Prop where
  enabled : after.cached m "enabled" =
    if (r.cached n "enabled").isNull then .bool true else r.cached n "enabled"
  others : ∀ name ≠ "enabled", after.cached m name = r.cached n name

theorem PulseReady.copies (h : r.PulseReady n) (current : r.StopCurrent n) (h' : after.PulseReady m)
    (current' : after.StopCurrent m) (values : ∀ i < 5, i ≠ 3 →
      (after.param ⟨after.firstParam m + i⟩).value = pulseValues (r.copyable n) i) :
    r.Copies n after m := by
  have value {i : Nat} {plan : ParameterPlan} (hi : Pulse.plans[i]? = some plan) (apart : i ≠ 3) :
      after.cached m plan.name = (r.cached n plan.name).nonNull?.getD plan.initial := by
    rw [h'.fitted.cached hi, values i (List.getElem?_eq_some_iff.mp hi).1 apart, pulseValues, hi,
      copyable, if_neg apart, h.fitted.cached hi]
    rfl
  -- A new pulse has none of the values but the first.
  have plain {i : Nat} {plan : ParameterPlan} (hi : Pulse.plans[i]? = some plan) (apart : i ≠ 3)
      (initial : plan.initial = .null) : after.cached m plan.name = r.cached n plan.name := by
    rw [value hi apart, initial, Value.nonNull?_getD_null]
  have start : after.cached m "t_start" = r.cached n "t_start" := plain (i := 1) rfl (by decide) rfl
  have duration : after.cached m "duration" = r.cached n "duration" :=
    plain (i := 2) rfl (by decide) rfl
  have stop : after.cached m "t_stop" = r.cached n "t_stop" := by
    have start' : after.cached m "t_start" = _ := h'.fitted.cached (i := 1) rfl
    have duration' : after.cached m "duration" = _ := h'.fitted.cached (i := 2) rfl
    rw [h'.cached_stop, current', stopValue, Pulse.startAt, Pulse.durationAt, ← start', ← duration',
      start, duration, h.fitted.cached (i := 1) rfl, h.fitted.cached (i := 2) rfl, h.cached_stop, current]
    rfl
  refine ⟨?_, fun name apart => ?_⟩
  · have enabled : after.cached m "enabled" = _ := value (i := 0) rfl (by decide)
    rw [enabled, Value.nonNull?]
    split <;> rfl
  · by_cases known : name ∈ Pulse.plans.map (·.name)
    · obtain rfl | rfl | rfl | rfl | rfl : name = "enabled" ∨ name = "t_start" ∨ name = "duration" ∨
          name = "t_stop" ∨ name = "amplitude" := by
        simpa [Pulse.plans, ParameterPlan.delegated] using known
      · exact absurd rfl apart
      · exact start
      · exact duration
      · exact stop
      · exact plain (i := 4) rfl (by decide) rfl
    · rw [h'.fitted.cached_of_unknown known, h.fitted.cached_of_unknown known]

theorem Copies.cached_eq (h : r.Copies n after m) (decided : r.Decided n) (name : String) :
    after.cached m name = r.cached n name := by
  by_cases enabled : name = "enabled"
  · rw [enabled, h.enabled, decided, if_neg Bool.false_ne_true]
  · exact h.others name enabled

private theorem Copies.decided (h : r.Copies n after m) : after.Decided m := by
  rw [Decided, h.enabled]
  split
  · rfl
  · exact Bool.eq_false_of_not_eq_true ‹_›

private theorem Offers.copies {name : Option String}
    (offers : r.Offers guests pulses name (pulseValues (r.copyable n)) mid)
    (h : r.Arranged guests pulses) (settled : r.Settled pulses) (hn : n ∈ pulses) :
    r.Copies n mid ⟨r.nodes.size⟩ :=
  (h.pulse n hn).copies (settled.stop n hn) (offers.arranged.pulse _ (.inl rfl))
    (offers.settled.stop _ (.inl rfl)) offers.value

private theorem Offers.gains {name : Option String} {values : Nat → Value}
    (offers : r.Offers guests r.inReach name values mid) (decided : mid.Decided ⟨r.nodes.size⟩) :
    r.Gains guests ⟨r.nodes.size⟩ mid where
  arranged := offers.arranged
  settled := offers.settled
  carries := offers.carries
  size := offers.sequences
  handles := offers.handles
  new := le_rfl
  unheard := offers.unheard
  decided := decided

theorem Carries.cached {touched : Set SequenceId} (carries : r.Carries touched caches after)
    (ready : r.PulseReady n) (ready' : after.PulseReady n) (inside : n.index < r.nodes.size)
    (free : ∀ i < 5, (⟨r.firstParam n + i⟩ : ParamId) ∉ caches) (name : String) :
    after.cached n name = r.cached n name := by
  have first : after.firstParam n = r.firstParam n := firstParam_of_node (carries.parameters n inside)
  refine ready.fitted.cached_eq ready'.fitted (fun i hi => ?_) name
  rw [first]
  exact carries.others _ (free i hi) (ready.param_inside hi)

private theorem Carries.inReach_subset {written : Set ParamId} (carries : r.Carries ∅ written after)
    (handles : ∀ object ∈ r.bench.handles.values, object ∈ after.bench.handles.values) :
    r.inReach ⊆ after.inReach := by
  rintro n (handle | ⟨s, hs, mem⟩)
  · exact .inl (handles _ handle)
  · exact .inr ⟨s, hs.trans_le carries.size, carries.membersOf hs (Set.notMem_empty _) ▸ mem⟩

/-- A pulse reports `null`, truth values and numbers. -/
theorem PulseReady.keysDistinct (h : r.PulseReady n) (current : r.StopCurrent n) (sound : r.Sound) :
    (Value.object (r.pulseReport n)).KeysDistinct := by
  have start := h.accepted sound (i := 1) rfl (by decide)
  have duration := h.accepted sound (i := 2) rfl (by decide)
  have amplitude := h.accepted sound (i := 4) rfl (by decide)
  have stop : (r.cached n "t_stop").KeysDistinct := by
    rw [h.cached_stop, current]
    exact (Value.numeric_add _ _).keysDistinct
  rw [h.pulseReport]
  refine .object (by simp [Entries.keys, classKey]) ?_
  simp only [List.forall_mem_cons]
  exact ⟨.string _, Validator.keysDistinct_of_bool (h.accepted sound (i := 0) rfl (by decide)),
    Validator.keysDistinct_of_numbers start, Validator.keysDistinct_of_numbers duration, stop,
    Validator.keysDistinct_of_numbers amplitude, List.forall_mem_nil _⟩

/-- A copy has the contents of the original if and only if it is known of this one whether it is
enabled. -/
theorem Copies.sameContents_run (h : r.PulseReady n) (current : r.StopCurrent n) (sound : r.Sound)
    (h' : r.PulseReady m) (current' : r.StopCurrent m) (copies : r.Copies n r m) :
    ∃ after, n.sameContents m r = (.ok (!(r.cached n "enabled").isNull), after) := by
  obtain ⟨after, run⟩ := h.sameContents_run current h' current'
  refine ⟨after, ?_⟩
  have enabled := copies.enabled
  have others {name : String} (apart : name ≠ "enabled") := copies.others name apart
  rw [run]
  by_cases known : (r.cached n "enabled").isNull = true
  · have null : r.cached n "enabled" = .null := by
      cases value : r.cached n "enabled" with
      | null => rfl
      | _ =>
        rw [value] at known
        cases known
    have apart : (Value.object (r.pulseReport n) == .object (r.pulseReport m)) = false := by
      rw [if_pos known] at enabled
      rw [h.pulseReport, h'.pulseReport, null, enabled]
      change Value.eq _ _ = false
      simp [Value.eq, Value.eqMembers, Entries.get?, classKey]
    rw [apart, known]
    rfl
  · have same : r.pulseReport m = r.pulseReport n := by
      rw [if_neg known] at enabled
      rw [h.pulseReport, h'.pulseReport, enabled, others (by decide), others (by decide),
        others (by decide), others (by decide)]
    rw [same, (h.keysDistinct current sound).eq_self, Bool.eq_false_of_not_eq_true known]
    rfl

/-- However pulses are made and used, a copy of one succeeds. It is a new pulse without parent that has
the name and the values of the original, except that it is enabled where the original is neither
enabled nor disabled, and it is equal to the original if and only if this is not so. -/
theorem pulse_copy_of_ran (h : Ran log now permitted past r) (hn : n ∈ r.inReach) :
    ∃ m copied, Pulse.copy n r = (.ok m, copied) ∧ r.nodes.size ≤ m.index ∧
      (copied.node m).parent = none ∧ (copied.node m).name = (r.node n).name ∧ r.Copies n copied m ∧
      ∀ handle, r.bench.handles.contains handle = false →
        ∃ after, n.sameContents m (copied.keep handle (.pulse m)) =
          (.ok (!(r.cached n "enabled").isNull), after) := by
  have orderly := h.orderly
  obtain ⟨mid, run, offers⟩ := orderly.arranged.copy_run orderly.settled hn h.sound
  have copies := offers.copies orderly.arranged orderly.settled hn
  refine ⟨⟨r.nodes.size⟩, _, run, le_rfl, offers.top, offers.named, ⟨copies.enabled, copies.others⟩,
    fun handle free => ?_⟩
  let kept := keep { mid with inUse := r.inUse } handle (.pulse ⟨r.nodes.size⟩)
  obtain ⟨orderly', -, carries⟩ := (offers.gains copies.decided).keep orderly free r.inUse
  have handles : kept.bench.handles.values = r.bench.handles.values ++ [.pulse ⟨r.nodes.size⟩] := by
    have entered : kept.bench.handles.values = mid.bench.handles.values ++ [.pulse ⟨r.nodes.size⟩] :=
      values_keep (r := { mid with inUse := r.inUse }) (by rwa [offers.handles]) _
    rw [entered, offers.handles]
  have root : .pulse ⟨r.nodes.size⟩ ∈ kept.bench.handles.values :=
    handles ▸ List.mem_append_right _ List.mem_cons_self
  have old : n ∈ kept.inReach :=
    carries.inReach_subset (fun object mem => handles ▸ List.mem_append_left _ mem) hn
  have ready := orderly.arranged.pulse n hn
  have ready' := orderly'.arranged.pulse n old
  have sound : kept.Sound := by
    have copied := (Pulse.copy_changes n r).staysSound h.sound
    rw [run] at copied
    exact copied
  have same (name : String) : kept.cached n name = r.cached n name :=
    carries.cached ready ready' (orderly.arranged.placed n hn).inside (fun _ _ => Set.notMem_empty _) name
  rw [← same]
  refine Copies.sameContents_run ready' (orderly'.settled.stop n old) sound
    (orderly'.arranged.pulse _ (.inl root)) (orderly'.settled.stop _ (.inl root)) ?_
  exact ⟨by rw [same]; exact copies.enabled, fun name apart => by
    rw [same]
    exact copies.others name apart⟩

/-- A pulse with times and without amplitude is equal to its copy. -/
theorem pulse_copy_of_timed :
    let plan : PulsePlan := {
      name := some "p"
      start := some (.ofInteger { val := 1 })
      duration := some (.ofInteger { val := 2 }) }
    let r := ((SequenceCommand.createPulse "p" plan).act (start {} default)).2
    ∃ m copied, Pulse.copy ⟨0⟩ r = (.ok m, copied) ∧ (copied.cached m "t_stop").toInt64? = some 3 ∧
      ∃ after, NodeId.sameContents ⟨0⟩ m (copied.keep "q" (.pulse m)) = (.ok true, after) := by
  intro plan r
  have handle : .pulse ⟨0⟩ ∈ r.bench.handles.values := by decide +kernel
  have ran : Ran {} default (fun _ => True) _ r :=
    .step (.createPulse "p" plan) .start trivial rfl
  obtain ⟨m, copied, run, -, -, -, copies, same⟩ := pulse_copy_of_ran ran (.inl handle)
  refine ⟨m, copied, run, ?_, ?_⟩
  · rw [copies.others "t_stop" (by decide)]
    decide +kernel
  · have enabled : (r.cached ⟨0⟩ "enabled").isNull = false := by decide +kernel
    have equal := same "q" (by decide +kernel)
    rwa [enabled] at equal

/-- A pulse that is set to be neither enabled nor disabled is not equal to its copy, which is
enabled. -/
theorem pulse_copy_differs :
    let set : SequenceCommand := .setPulse ⟨0⟩ .enabled .null
    let made := ((SequenceCommand.createPulse "p" { name := some "p" }).act (start {} default)).2
    let r := (set.act made).2
    let copied := (Pulse.copy ⟨0⟩ r).2
    (set.act made).1.toOption = some () ∧ (Pulse.copy ⟨0⟩ r).1.toOption = some ⟨1⟩ ∧
      (NodeId.sameContents ⟨0⟩ ⟨1⟩ (copied.keep "q" (.pulse ⟨1⟩))).1.toOption = some false := by
  decide +kernel

end Registry
end LabRegistry

import LabRegistry.Proofs.Sequence.Orderly

/-!
# Commands on pulses and sequences

A user makes pulses and sequences, adds pulses and takes them out, and sets their parameters. Every
command keeps the registry orderly, touches at most one sequence, and writes only the caches that
follow from what it is about.
-/
namespace LabRegistry

open Registry

inductive PulseSetting where
  | enabled
  | start
  | duration
  | stop
  | amplitude

def PulseSetting.name : PulseSetting → String
  | .enabled => "enabled"
  | .start => "t_start"
  | .duration => "duration"
  | .stop => "t_stop"
  | .amplitude => "amplitude"

inductive SequenceSetting where
  | allowOverlap
  | finalDelay
  | duration

def SequenceSetting.name : SequenceSetting → String
  | .allowOverlap => "allow_pulse_overlap"
  | .finalDelay => "final_delay"
  | .duration => "duration"

inductive SequenceCommand where
  | createPulse (handle : String) (plan : PulsePlan)
  | createSequence (handle : String) (name : Option String)
  | addPulse (s : SequenceId) (n : NodeId)
  | removePulse (s : SequenceId) (name : String)
  | clear (s : SequenceId)
  | setSequence (s : SequenceId) (setting : SequenceSetting) (v : Value)
  | setPulse (n : NodeId) (setting : PulseSetting) (v : Value)

def SequenceCommand.act : SequenceCommand → Act DomainError Unit
  | .createPulse handle plan => do Act.store handle (.pulse (← Pulse.createWith plan))
  | .createSequence handle name => do Act.store handle (.sequence (← SequenceId.create name))
  | .addPulse s n => s.addPulse n
  | .removePulse s name => do
    let _ ← s.removePulse name
  | .clear s => s.clear
  | .setSequence s setting v => do (← s.node).set setting.name v
  | .setPulse n setting v => n.set setting.name v

def SequenceCommand.sequence? : SequenceCommand → Option SequenceId
  | .addPulse s _ | .removePulse s _ | .clear s | .setSequence s _ _ => some s
  | _ => none

def SequenceCommand.pulse? : SequenceCommand → Option NodeId
  | .addPulse _ n | .setPulse n _ _ => some n
  | _ => none

/-- The command sets nothing of a pulse that is there. -/
def SequenceCommand.LeavesPulses : SequenceCommand → Prop
  | .setPulse .. => False
  | _ => True

/-- What happens to whether the duration of a sequence is fixed. -/
inductive Timing where
  | fixed (d : Double)
  /-- The duration was set to `null`. -/
  | freed
  | added
  | removed
deriving DecidableEq

def Timing.fixed? : Timing → Option Double
  | .fixed d => some d
  | _ => none

/-- The last thing that a command does to whether a duration is fixed: setting the duration to a
number or to `null`, adding a pulse with success or taking one out with success, which is what
clearing does again and again. -/
def SequenceCommand.timing? (r : Registry) : SequenceCommand → Option (SequenceId × Timing)
  | .addPulse s n => if (s.addPulse n r).1.isOk then some (s, .added) else none
  | .removePulse s name => if (s.removePulse name r).1.isOk then some (s, .removed) else none
  | .clear s => if (r.pulses (r.nodeOf s)).isEmpty then none else some (s, .removed)
  | .setSequence s .duration (.number x) => some (s, .fixed x.toDouble)
  | .setSequence s .duration .null => some (s, .freed)
  | _ => none

variable {r after : Registry} {s t : SequenceId} {n : NodeId} {c : SequenceCommand} {v : Value}
  {timing : Timing} {guests : Set Listener} {pulses : Set NodeId} {those wider : Set SequenceId}
  {caches more : Set ParamId}

theorem SequenceCommand.sequence?_of_timing (done : c.timing? r = some (s, timing)) :
    c.sequence? = some s := by
  cases c with
  | addPulse t n =>
    obtain ⟨-, rfl, -⟩ : _ ∧ t = s ∧ .added = timing := by simpa [timing?] using done
    rfl
  | removePulse t name =>
    obtain ⟨-, rfl, -⟩ : _ ∧ t = s ∧ .removed = timing := by simpa [timing?] using done
    rfl
  | clear t =>
    obtain ⟨-, rfl, -⟩ : _ ∧ t = s ∧ .removed = timing := by simpa [timing?] using done
    rfl
  | setSequence t setting v =>
    cases setting with
    | duration =>
      cases v with
      | null | number =>
        cases done
        rfl
      | _ => cases done
    | _ => cases done
  | _ => cases done

namespace Registry

/-- New objects come under free handles. The others that a command is about are held by the user, a
pulse possibly through a sequence. -/
def Allows (r : Registry) : SequenceCommand → Prop
  | .createPulse handle _ | .createSequence handle _ => r.bench.handles.contains handle = false
  | .addPulse s n => .sequence s ∈ r.bench.handles.values ∧ n ∈ r.inReach
  | .removePulse s _ | .clear s | .setSequence s _ _ => .sequence s ∈ r.bench.handles.values
  | .setPulse n _ _ => n ∈ r.inReach

theorem Allows.handle (allowed : r.Allows c) (about : c.sequence? = some s) :
    .sequence s ∈ r.bench.handles.values := by
  cases c with
  | addPulse =>
    cases about
    exact allowed.1
  | removePulse | clear | setSequence =>
    cases about
    exact allowed
  | _ => cases about

/-- The sequences that do not hear that a pulse was enabled or not. -/
def missed (r : Registry) : SequenceCommand → Set SequenceId
  | .setPulse n .enabled _ => r.hearers n
  | _ => ∅

/-- The sequences whose members or durations a command may leave different. -/
def touched (r : Registry) (c : SequenceCommand) : Set SequenceId :=
  {s | ∃ timing, c.timing? r = some (s, timing)} ∪ r.missed c

/-- The parameters that a command may write. -/
def written (r : Registry) : SequenceCommand → Set ParamId
  | .addPulse s _ | .removePulse s _ | .clear s => r.durationsOf {s}
  | .setSequence s _ _ => r.paramsOf (r.nodeOf s) ∪ r.durationsOf {s}
  | .setPulse n _ _ => r.scope n
  | _ => ∅

/-- What a command leaves: all is in order, nothing but new pulses comes in reach, what the command is
not about is as it was, a pulse enters a sequence only if it was added and nothing was in its way, and a
sequence whose duration was fixed or freed is as it should be. -/
structure Outcome (r : Registry) (guests : Set Listener) (c : SequenceCommand) (after : Registry) :
    Prop where
  orderly : after.Orderly guests
  reach : r.Reaches after
  carries : r.Carries (r.touched c) (r.written c) after
  members : ∀ s : SequenceId, s.index < r.sequences.size → ∀ n ∈ after.membersOf s,
    n ∈ r.membersOf s ∨ c = .addPulse s n ∧ r.obstacle? s n = none
  retimed : ∀ s timing, c.timing? r = some (s, timing) →
    (after.sequence s).fixedDuration = timing.fixed? ∧ after.Timed s

theorem Carries.mono (h : r.Carries those caches after) (le : those ⊆ wider)
    (among : caches ⊆ more) : r.Carries wider more after :=
  { h with
    children := fun t ht free => h.children t ht fun mem => free (le mem)
    fixed := fun t ht free => h.fixed t ht fun mem => free (le mem)
    others := fun p free => h.others p fun mem => free (among mem)
    listeners := fun p hp => (h.listeners p hp).mono fun _ ⟨t, mem, same⟩ => ⟨t, le mem, same⟩
    timed := fun t ht free => h.timed t ht fun mem => free (le mem) }

namespace Outcome

private theorem of_rest (none : c.timing? r = none)
    (orderly : after.Orderly guests ∧ r.Reaches after)
    (carries : r.Carries ∅ caches after) (le : caches ⊆ r.written c) : r.Outcome guests c after where
  orderly := orderly.1
  reach := orderly.2
  carries := carries.mono (Set.empty_subset _) le
  members s hs n mem := .inl (carries.membersOf hs (Set.notMem_empty _) ▸ mem)
  retimed s timing some := by
    rw [none] at some
    cases some

private theorem of_timing (done : c.timing? r = some (s, timing))
    (orderly : after.Orderly guests ∧ r.Reaches after)
    (carries : r.Carries {s} (r.durationsOf {s}) after) (le : r.durationsOf {s} ⊆ r.written c)
    (members : ∀ n ∈ after.membersOf s,
      n ∈ r.membersOf s ∨ c = .addPulse s n ∧ r.obstacle? s n = none)
    (fixed : (after.sequence s).fixedDuration = timing.fixed?) (timed : after.Timed s) :
    r.Outcome guests c after where
  orderly := orderly.1
  reach := orderly.2
  carries := carries.mono (Set.singleton_subset_iff.mpr (.inl ⟨timing, done⟩)) le
  members t ht n mem := by
    by_cases same : t = s
    · subst same
      exact members n mem
    · exact .inl (carries.membersOf ht same ▸ mem)
  retimed t timing' done' := by
    rw [done] at done'
    cases done'
    exact ⟨fixed, timed⟩

end Outcome

/-- A pulse is enabled or not. Sequences that it is not in do not depend on it. -/
theorem Took.carries_enabled (took : r.Took ⟨r.firstParam n + 0⟩ v after)
    (h : r.Arranged ∅ pulses) (hn : n ∈ pulses) : r.Carries (r.hearers n) (r.scope n) after where
  nodes := by rw [took.wiring.nodes.nodes]
  parameters m _ := by rw [took.wiring.nodes.node]
  size := by rw [took.wiring.sequences]
  owner t _ := took.wiring.nodeOf t
  children t _ _ := by rw [took.wiring.nodes.node]
  fixed t _ _ := by rw [took.wiring.sequence]
  free t outside inside := by
    rw [took.wiring.sequences] at inside
    omega
  params := took.wiring.size.ge
  listeners p _ := .of_uncached (took.wiring.params p)
  others p free _ := took.others p fun same => free (.inl (same ▸ mem_paramsOf (by decide)))
  timed t ht free := by
    have working := h.working
    refine working.timed_of took.wiring ht (took.others _ ?_) fun m mem => ?_
    · exact ((h.sequence t ht).ne_durationOf (h.pulse n hn) (by decide)).symm
    · have hm := h.mem_of_member ht mem
      have other : m ≠ n := by
        rintro rfl
        exact free ((h.mem_hearers_iff hm ht).mpr mem)
      have away {j : Nat} (hj : j < 5) :
          (⟨r.firstParam m + j⟩ : ParamId) ≠ ⟨r.firstParam n + 0⟩ :=
        (h.pulse m hm).param_ne (h.pulse n hn) other hj (by decide)
      exact working.stopUnits_of took.wiring hm (took.others _ (away (j := 0) (by decide)))
        (congrArg _ (took.others _ (away (j := 3) (by decide))))

namespace Orderly

variable (h : r.Orderly guests)

include h

private theorem carries_refl : r.Carries those caches r :=
  ((Maintained.of_settled h.settled).spares h.arranged those).carries

private theorem unchanged (none : c.timing? r = none) : r.Outcome guests c r :=
  .of_rest none ⟨h, fun _ mem => .inl mem⟩ h.carries_refl (Set.empty_subset _)

/-! ## Every command -/

private theorem outcome_createPulse {handle : String}
    (free : r.bench.handles.contains handle = false)
    (plan : PulsePlan) :
    r.Outcome guests (.createPulse handle plan) ((SequenceCommand.createPulse handle plan).act r).2 := by
  have made := h.createPulse free plan
  rw [SequenceCommand.act, Act.bind_run]
  rcases run : Pulse.createWith plan r with ⟨halt | n, after⟩
  all_goals rw [run] at made
  all_goals exact .of_rest rfl ⟨made.1, made.2.1⟩ made.2.2 le_rfl

private theorem outcome_createSequence {handle : String}
    (free : r.bench.handles.contains handle = false)
    (name : Option String) : r.Outcome guests (.createSequence handle name)
      ((SequenceCommand.createSequence handle name).act r).2 := by
  obtain ⟨after, run, orderly, reach, carries⟩ := h.createSequence free name
  rw [SequenceCommand.act, Act.bind_run, run]
  exact .of_rest rfl ⟨orderly, reach⟩ carries le_rfl

private theorem outcome_addPulse (hs : s.index < r.sequences.size) (hn : n ∈ r.inReach) :
    r.Outcome guests (.addPulse s n) (s.addPulse n r).2 := by
  have added := h.arranged.addPulse_run h.settled hs hn
  have start := h.arranged.addPulse_start h.settled hs hn
  have same := s.addPulse_sameHandles n r
  have timing : (SequenceCommand.addPulse s n).timing? r =
      if (s.addPulse n r).1.isOk then some (s, .added) else none := rfl
  rcases run : s.addPulse n r with ⟨halt | u, after⟩
  all_goals rw [run] at added same timing start
  · have spares : r.Spares guests r.inReach ∅ ∅ after := added
    exact .of_rest timing (h.spared spares same) spares.carries (Set.empty_subset _)
  · have enters : r.Enters guests r.inReach s n after := added
    have retimed := enters.toRetimed
    have clear : r.obstacle? s n = none := by
      obtain ⟨mid, -, start⟩ := start
      split at start
      · cases start
      · assumption
    refine .of_timing timing (h.spared retimed.toSpares same) retimed.toSpares.carries le_rfl
      (fun m mem => ?_) retimed.fixedSelf retimed.timedSelf
    obtain ⟨name, -, fresh, children⟩ := enters.entered
    have absent : name ∉ Entries.keys (r.node (r.nodeOf s)).children.entries := by
      rw [← OrderedMap.keys, ← OrderedMap.contains_iff_mem_keys, fresh]
      exact Bool.false_ne_true
    have entries : ((r.node (r.nodeOf s)).children.insert name n).entries = _ :=
      Entries.insert_of_notMem absent
    rw [membersOf, retimed.owner, children, OrderedMap.values, entries, List.map_append] at mem
    rcases List.mem_append.mp mem with old | new
    · exact .inl old
    · obtain rfl := List.mem_singleton.mp new
      exact .inr ⟨rfl, clear⟩

private theorem outcome_removePulse (hs : s.index < r.sequences.size) (name : String) :
    r.Outcome guests (.removePulse s name) ((SequenceCommand.removePulse s name).act r).2 := by
  have same := s.removePulse_sameHandles name r
  have timing : (SequenceCommand.removePulse s name).timing? r =
      if (s.removePulse name r).1.isOk then some (s, .removed) else none := rfl
  rw [SequenceCommand.act, Act.discard_run]
  obtain ⟨halt, run⟩ | ⟨n, after, run, frees⟩ := h.arranged.removePulse_outcome h.settled hs name
  all_goals rw [run] at same timing ⊢
  · exact h.unchanged timing
  · obtain ⟨orderly, carries, fixed, timed, members⟩ := h.freed frees same
    exact .of_timing timing orderly carries le_rfl (fun _ mem => .inl (members mem)) fixed timed

private theorem outcome_clear (hs : s.index < r.sequences.size) :
    r.Outcome guests (.clear s) (s.clear r).2 := by
  have same := s.clear_sameHandles r
  have timing : (SequenceCommand.clear s).timing? r =
      if (r.membersOf s).isEmpty then none else some (s, .removed) := by
    rw [← h.arranged.working.pulses_eq hs]
    rfl
  obtain ⟨after, run, ⟨empty, rfl⟩ | ⟨nonempty, frees⟩⟩ := h.arranged.clear_run h.settled hs
  all_goals rw [run] at same ⊢
  · rw [membersOf, OrderedMap.values, empty] at timing
    exact h.unchanged timing
  · rw [if_neg (by simpa [membersOf, OrderedMap.values] using nonempty)] at timing
    obtain ⟨orderly, carries, fixed, timed, members⟩ := h.freed frees same
    exact .of_timing timing orderly carries le_rfl (fun _ mem => .inl (members mem)) fixed timed

private theorem outcome_setSequence (hs : s.index < r.sequences.size) (setting : SequenceSetting)
    (v : Value) : r.Outcome guests (.setSequence s setting v) ((r.nodeOf s).set setting.name v r).2 := by
  have same := (r.nodeOf s).set_sameHandles setting.name v r
  have idle (idle : setting.name ∈ ["allow_pulse_overlap", "final_delay"])
      (none : (SequenceCommand.setSequence s setting v).timing? r = none) :
      r.Outcome guests (.setSequence s setting v) ((r.nodeOf s).set setting.name v r).2 := by
    have kept := (h.arranged.working.set_setting h.settled hs idle v).spares h.arranged ∅
    exact .of_rest none (h.spared kept same) kept.carries Set.subset_union_left
  cases setting with
  | allowOverlap => exact idle (by decide) rfl
  | finalDelay => exact idle (by decide) rfl
  | duration =>
    have set := h.arranged.set_duration_run h.settled hs v
    change r.SameHandles ((r.nodeOf s).set "duration" v r).2 at same
    change r.Outcome guests _ ((r.nodeOf s).set "duration" v r).2
    -- Numbers and `null` are accepted, and nothing else is.
    have fixes {timing : Timing} (accepted : (Validator.numbers none none).validate v = .ok ())
        (done : (SequenceCommand.setSequence s .duration v).timing? r = some (s, timing))
        (number : v.toDouble? = timing.fixed?) :
        r.Outcome guests (.setSequence s .duration v) ((r.nodeOf s).set "duration" v r).2 := by
      rw [accepted] at set
      obtain ⟨after, run, retimed, nodes⟩ := set
      rw [run] at same ⊢
      refine .of_timing done (h.spared retimed.toSpares same) retimed.toSpares.carries
        Set.subset_union_right (fun n mem => .inl ?_) (retimed.fixedSelf.trans number) retimed.timedSelf
      rwa [membersOf, retimed.owner, node, nodes] at mem
    have refuses {reason : String} (refused : (Validator.numbers none none).validate v = .error reason)
        (none : (SequenceCommand.setSequence s .duration v).timing? r = none) :
        r.Outcome guests (.setSequence s .duration v) ((r.nodeOf s).set "duration" v r).2 := by
      rw [refused] at set
      obtain ⟨halt, run⟩ := set
      rw [run]
      exact h.unchanged none
    cases v with
    | null => exact fixes rfl rfl rfl
    | number x => exact fixes rfl rfl rfl
    | _ => exact refuses rfl rfl

omit h in
private theorem outcome_setPulse (h : r.Orderly ∅) (hn : n ∈ r.inReach) (setting : PulseSetting)
    (v : Value) :
    r.Outcome ∅ (.setPulse n setting v) (n.set setting.name v r).2 := by
  have working := h.arranged.working
  have only := h.arranged.onlyRefreshes hn
  have same := n.set_sameHandles setting.name v r
  have timed (among : setting.name ∈ ["t_start", "duration", "t_stop", "amplitude"])
      (none : (SequenceCommand.setPulse n setting v).timing? r = none) :
      r.Outcome ∅ (.setPulse n setting v) (n.set setting.name v r).2 := by
    have kept := (working.set_pulse h.settled hn only among v).spares h.arranged ∅
    exact .of_rest none (h.spared kept same) kept.carries le_rfl
  cases setting with
  | enabled =>
    change r.SameHandles (n.set "enabled" v r).2 at same
    change r.Outcome ∅ _ (n.set "enabled" v r).2
    obtain ⟨halt, run⟩ | ⟨after, run, took⟩ := working.set_enabled_run hn v
    all_goals rw [run] at same ⊢
    · exact h.unchanged rfl
    · have writes := working.writes_of_took_enabled h.settled hn took
      obtain ⟨orderly, reach⟩ := h.of_arranged (h.arranged.of_wiring took.wiring) writes.settled
        le_rfl (fun _ handle => .inl handle) same (by rw [took.wiring.sequences])
      exact {
        orderly := orderly
        reach := reach
        carries := (took.carries_enabled h.arranged hn).mono Set.subset_union_right le_rfl
        members := fun s _ m mem => .inl (took.wiring.membersOf s ▸ mem)
        retimed := nofun }
  | _ => exact timed (by decide) rfl

theorem outcome (allowed : r.Allows c) (unheard : guests = ∅ ∨ c.LeavesPulses) :
    r.Outcome guests c (c.act r).2 := by
  cases c with
  | createPulse handle plan => exact h.outcome_createPulse allowed plan
  | createSequence handle name => exact h.outcome_createSequence allowed name
  | addPulse s n => exact h.outcome_addPulse ((h.offered s).mpr allowed.1) allowed.2
  | removePulse s name => exact h.outcome_removePulse ((h.offered s).mpr allowed) name
  | clear s => exact h.outcome_clear ((h.offered s).mpr allowed)
  | setSequence s setting v =>
    have set : (SequenceCommand.setSequence s setting v).act r =
        (liftM ((r.nodeOf s).set setting.name v) : Act DomainError Unit) r := rfl
    rw [set, Act.lift_state]
    exact h.outcome_setSequence ((h.offered s).mpr allowed) setting v
  | setPulse n setting v =>
    obtain rfl : guests = ∅ := unheard.resolve_right id
    rw [SequenceCommand.act, Act.lift_state]
    exact h.outcome_setPulse allowed setting v

end Orderly
end Registry
end LabRegistry

import LabRegistry.Proofs.Sequence.Arranged

/-!
# Fixing and freeing durations

What is done with one sequence leaves the others as they should be. Fixing or freeing its duration
brings the sequence itself to where it should be, wherever it was before.
-/
namespace LabRegistry

open Registry

variable {r mid after : Registry} {n : NodeId} {s t : SequenceId} {d : Option Double}
  {guests : Set Listener} {pulses : Set NodeId} {written : Set ParamId}

namespace Registry

def refreshers (r : Registry) (told : Set SequenceId) : Set Listener :=
  {listener | ∃ s ∈ told, listener = r.refresher s}

/-! ## Changes that write no cache -/

namespace Preserves

variable {touched : Set SequenceId} {stops : Set ParamId}
  (same : r.Preserves touched stops after) (h : r.Arranged guests pulses)
  (inside : ∀ s ∈ touched, s.index < r.sequences.size)
  (values : ∀ p : ParamId, p.index < r.params.size → (after.param p).value = (r.param p).value)

include same h inside

private theorem firstParam (hn : n ∈ pulses) : after.firstParam n = r.firstParam n :=
  firstParam_of_node <| same.parameters (h.placed n hn).inside fun s hs => h.ne_nodeOf hn (inside s hs)

private theorem stopOf (hn : n ∈ pulses) : after.stopOf n = r.stopOf n := by
  rw [Registry.stopOf, same.firstParam h inside hn, Registry.stopOf]

private theorem children (ht : t.index < r.sequences.size) (free : t ∉ touched) :
    (after.node (r.nodeOf t)).children = (r.node (r.nodeOf t)).children :=
  congrArg (·.children) <| same.node _ (h.owner t ht).inside fun s hs equal =>
    free (h.nodeOf_inj ht (inside s hs) equal ▸ hs)

include values

omit same inside in
private theorem pulseValue (hn : n ∈ pulses) {i : Nat} (hi : i < 5) :
    (after.param ⟨r.firstParam n + i⟩).value = (r.param ⟨r.firstParam n + i⟩).value :=
  values ⟨_⟩ ((h.pulse n hn).param_inside hi)

theorem stopCurrent (hn : n ∈ pulses) (current : r.StopCurrent n) : after.StopCurrent n := by
  have start := pulseValue h values hn (i := 1) (by decide)
  have duration := pulseValue h values hn (i := 2) (by decide)
  have stop := pulseValue h values hn (i := 3) (by decide)
  rw [StopCurrent, same.stopOf h inside hn, same.firstParam h inside hn, stopValue, Pulse.startAt,
    start, Pulse.durationAt, duration, Registry.stopOf, Pulse.stopAt, stop]
  exact current

theorem timed (h' : after.Arranged guests pulses) (ht : t.index < r.sequences.size) (free : t ∉ touched)
    (fixed : (after.sequence t).fixedDuration = (r.sequence t).fixedDuration) (timed : r.Timed t) :
    after.Timed t := by
  have members : after.membersOf t = r.membersOf t := by
    rw [Registry.membersOf, same.owner t ht, same.children h inside ht free, Registry.membersOf]
  have units : after.durationUnits t = r.durationUnits t := by
    refine h.working.durationUnits_of h'.working ht (ht.trans_le same.sequences) fixed members
      fun n mem => ?_
    have hn := h.mem_of_member ht mem
    have enabled := pulseValue h values hn (i := 0) (by decide)
    have stop := pulseValue h values hn (i := 3) (by decide)
    rw [Nat.add_zero] at enabled
    rw [(h'.pulse n hn).stopUnits, (h.pulse n hn).stopUnits, same.stopOf h inside hn,
      same.firstParam h inside hn, enabled, Registry.stopOf, Pulse.stopAt, stop]
  obtain ⟨x, value, count⟩ := timed
  refine ⟨x, ?_, by rw [units, count]⟩
  rw [same.durationOf ht, values _ (h.sequence t ht).duration_inside, value]

end Preserves

/-! ## Other sequences -/

/-- All is in order but possibly the durations of the sequences that were touched, which may have
other members, only some caches were written, and no listener came or went but those that refresh the
touched sequences. -/
structure Spares (r : Registry) (guests : Set Listener) (pulses : Set NodeId) (touched : Set SequenceId)
    (written : Set ParamId) (after : Registry) : Prop where
  arranged : after.Arranged guests pulses
  settled : after.Settled pulses
  nodes : after.nodes.size = r.nodes.size
  parameters : ∀ n, (after.node n).parameters = (r.node n).parameters
  size : after.sequences.size = r.sequences.size
  owner : ∀ t, after.nodeOf t = r.nodeOf t
  children : ∀ t : SequenceId, t.index < r.sequences.size → t ∉ touched →
    (after.node (r.nodeOf t)).children = (r.node (r.nodeOf t)).children
  fixed : ∀ t : SequenceId, t.index < r.sequences.size → t ∉ touched →
    (after.sequence t).fixedDuration = (r.sequence t).fixedDuration
  params : after.params.size = r.params.size
  others : ∀ p ∉ written, (after.param p).value = (r.param p).value
  listeners : ∀ p, (r.param p).Relistened (r.refreshers touched) (after.param p)
  timed : ∀ t : SequenceId, t.index < r.sequences.size → t ∉ touched → r.Timed t → after.Timed t

namespace Spares

variable {touched : Set SequenceId} {stops : Set ParamId}

theorem mono {touched' : Set SequenceId} {written' : Set ParamId}
    (h : r.Spares guests pulses touched written after) (le : touched ⊆ touched')
    (more : written ⊆ written') :
    r.Spares guests pulses touched' written' after :=
  { h with
    children := fun t ht free => h.children t ht fun mem => free (le mem)
    fixed := fun t ht free => h.fixed t ht fun mem => free (le mem)
    others := fun p free => h.others p fun mem => free (more mem)
    listeners := fun p => (h.listeners p).mono fun _ ⟨t, mem, same⟩ => ⟨t, le mem, same⟩
    timed := fun t ht free => h.timed t ht fun mem => free (le mem) }

theorem durationOf (h : r.Spares guests pulses touched written after) (t : SequenceId) :
    after.durationOf t = r.durationOf t :=
  durationOf_of_node (h.owner t) (h.parameters _)

theorem durationsOf (h : r.Spares guests pulses touched written after) (told : Set SequenceId) :
    after.durationsOf told = r.durationsOf told := by
  simp only [Registry.durationsOf, h.durationOf, h.size]

private theorem refreshers (h : r.Spares guests pulses touched written after)
    (told : Set SequenceId) :
    after.refreshers told = r.refreshers told := by
  simp only [Registry.refreshers, refresher, h.durationOf]

theorem trans {fewer : Set NodeId} (h : r.Spares guests pulses touched written mid)
    (h' : mid.Spares guests fewer touched written after) :
    r.Spares guests fewer touched written after where
  arranged := h'.arranged
  settled := h'.settled
  nodes := h'.nodes.trans h.nodes
  parameters n := (h'.parameters n).trans (h.parameters n)
  size := h'.size.trans h.size
  owner t := (h'.owner t).trans (h.owner t)
  children t ht free := by
    have later := h'.children t (by rwa [h.size]) free
    rw [h.owner] at later
    exact later.trans (h.children t ht free)
  fixed t ht free := (h'.fixed t (by rwa [h.size]) free).trans (h.fixed t ht free)
  params := h'.params.trans h.params
  others p free := (h'.others p free).trans (h.others p free)
  listeners p := (h.listeners p).trans (h.refreshers touched ▸ h'.listeners p)
  timed t ht free timed := h'.timed t (by rwa [h.size]) free (h.timed t ht free timed)

theorem of_preserves (same : r.Preserves touched stops after) (h : r.Arranged guests pulses)
    (settled : r.Settled pulses) (h' : after.Arranged guests pulses)
    (inside : ∀ s ∈ touched, s.index < r.sequences.size) (nodes : after.nodes.size = r.nodes.size)
    (parameters : ∀ n, (after.node n).parameters = (r.node n).parameters)
    (size : after.sequences.size = r.sequences.size) (owner : ∀ t, after.nodeOf t = r.nodeOf t)
    (params : after.params.size = r.params.size)
    (values : ∀ p, (after.param p).value = (r.param p).value)
    (listeners : ∀ p, (r.param p).Relistened (r.refreshers touched) (after.param p))
    (fixed : ∀ t, t ∉ touched → (after.sequence t).fixedDuration = (r.sequence t).fixedDuration)
    (finite : ∀ t duration, (after.sequence t).fixedDuration = some duration →
      ∃ x, duration = .finite x) : r.Spares guests pulses touched written after where
  arranged := h'
  settled := ⟨fun n hn => same.stopCurrent h inside (fun p _ => values p) hn (settled.stop n hn), finite⟩
  nodes := nodes
  parameters := parameters
  size := size
  owner := owner
  children _ ht free := same.children h inside ht free
  fixed t _ := fixed t
  params := params
  others p _ := values p
  listeners := listeners
  timed t ht free := same.timed h inside (fun p _ => values p) h' ht free (fixed t free)

end Spares

theorem Maintained.spares (h : r.Maintained pulses written after) (arranged : r.Arranged guests pulses)
    (touched : Set SequenceId) : r.Spares guests pulses touched written after where
  arranged := arranged.of_wiring h.wiring
  settled := h.settled
  nodes := by rw [h.wiring.nodes.nodes]
  parameters n := by rw [h.wiring.nodes.node]
  size := by rw [h.wiring.sequences]
  owner := h.wiring.nodeOf
  children t _ _ := by rw [h.wiring.nodes.node]
  fixed t _ _ := by rw [h.wiring.sequence]
  params := h.wiring.size
  others := h.others
  listeners p := .of_uncached (h.wiring.params p)
  timed t ht _ := h.timed t ht

/-- All is in order, and the duration of one sequence was fixed or freed. -/
structure Retimed (r : Registry) (guests : Set Listener) (pulses : Set NodeId) (s : SequenceId)
    (d : Option Double)
    (after : Registry) : Prop extends r.Spares guests pulses {s} (r.durationsOf {s}) after where
  fixedSelf : (after.sequence s).fixedDuration = d
  timedSelf : after.Timed s

theorem Spares.retimed {fewer : Set NodeId} (h : r.Spares guests pulses {s} (r.durationsOf {s}) mid)
    (h' : mid.Retimed guests fewer s d after) : r.Retimed guests fewer s d after := by
  have later := h'.toSpares
  rw [h.durationsOf] at later
  exact { h.trans later with fixedSelf := h'.fixedSelf, timedSelf := h'.timedSelf }

theorem Retimed.maintained (h : r.Retimed guests pulses s d mid) (hs : s.index < r.sequences.size)
    (h' : mid.Maintained pulses (mid.durationsOf {s}) after) : r.Retimed guests pulses s d after := by
  have later := h'.spares h.arranged {s}
  rw [h.durationsOf] at later
  exact { h.toSpares.trans later with
    fixedSelf := by rw [h'.wiring.sequence, h.fixedSelf]
    timedSelf := h'.timed s (by rwa [h.size]) h.timedSelf }

/-! ## Fixing and freeing -/

/-- The registry after the duration of a sequence was fixed or freed, before it is got anew. -/
def fix (r : Registry) (s : SequenceId) (d : Option Double) : Registry :=
  { r with sequences := r.sequences.change s.index ({ · with fixedDuration := d }) }

private theorem sequence_fix (r : Registry) (s t : SequenceId) (d : Option Double) :
    (r.fix s d).sequence t = if t = s ∧ s.index < r.sequences.size
      then { r.sequence t with fixedDuration := d } else r.sequence t :=
  r.sequence_change s t _

private theorem nodeOf_fix (r : Registry) (s t : SequenceId) (d : Option Double) :
    (r.fix s d).nodeOf t = r.nodeOf t := by
  rw [nodeOf, sequence_fix]
  split <;> rfl

private theorem durationOf_fix (r : Registry) (s t : SequenceId) (d : Option Double) :
    (r.fix s d).durationOf t = r.durationOf t :=
  durationOf_of_node (r.nodeOf_fix s t d) rfl

private theorem preserves_fix (r : Registry) (s : SequenceId) (d : Option Double) :
    r.Preserves ∅ ∅ (r.fix s d) where
  nodes := le_rfl
  node _ _ _ := rfl
  params := le_rfl
  setup _ _ := rfl
  param _ _ _ := rfl
  sequences := (Arena.size_change _ _ _).ge
  owner t _ := r.nodeOf_fix s t d
  owned _ _ := rfl
  links t _ _ := by
    rw [sequence_fix]
    split <;> rfl

namespace Arranged

variable (h : r.Arranged guests pulses) (settled : r.Settled pulses) (hs : s.index < r.sequences.size)

include h settled hs

private theorem spares_fix (finite : ∀ x, d = some x → ∃ y, x = .finite y) :
    r.Spares guests pulses {s} written (r.fix s d) := by
  have size : (r.fix s d).sequences.size = r.sequences.size := Arena.size_change _ _ _
  have roots : (r.fix s d).roots = r.roots := roots_of_eq rfl rfl fun t => r.nodeOf_fix s t d
  have kept : r.Retains pulses (r.fix s d) := h.retains (fun n kept => roots ▸ kept) size.ge
    fun t _ n mem => .inr (by rwa [membersOf, nodeOf_fix])
  have h' : (r.fix s d).Arranged guests pulses :=
    h.preserved (r.preserves_fix s d) kept fun t outside inside => by omega
  refine .of_preserves ((r.preserves_fix s d).mono (Set.empty_subset _)) h settled h'
    (fun t same => same ▸ hs) rfl (fun _ => rfl) size (fun t => r.nodeOf_fix s t d) rfl (fun _ => rfl)
    (fun _ => .of_uncached rfl) (fun t free => ?_) fun t duration fixed => ?_
  · rw [sequence_fix, if_neg fun both => free both.1]
  · rw [sequence_fix] at fixed
    split at fixed
    · exact finite duration fixed
    · exact settled.fixed t duration fixed

private theorem retimed (finite : ∀ x, d = some x → ∃ y, x = .finite y)
    (took : (r.fix s d).Took ((r.fix s d).durationOf s) ((r.fix s d).durationValue s) after) :
    r.Retimed guests pulses s d after := by
  have spares : r.Spares guests pulses {s} (r.durationsOf {s}) (r.fix s d) :=
    h.spares_fix settled hs finite
  have hs' : s.index < (r.fix s d).sequences.size := spares.size ▸ hs
  have refreshed := took.refreshed hs'
  have working := spares.arranged.working
  have maintained := working.maintained_of_refreshed spares.settled refreshed
  have later := maintained.spares spares.arranged {s}
  rw [spares.durationsOf] at later
  exact { spares.trans later with
    fixedSelf := by rw [maintained.wiring.sequence, sequence_fix, if_pos ⟨rfl, hs⟩]
    timedSelf := working.timed_of_refreshed spares.settled refreshed hs' (.inl rfl) }

theorem set_duration_run (v : Value) :
    match (Validator.numbers none none).validate v with
    | .error _ => ∃ halt, (r.nodeOf s).set "duration" v r = (.error halt, r)
    | .ok () => ∃ after, (r.nodeOf s).set "duration" v r = (.ok (), after) ∧
        r.Retimed guests pulses s v.toDouble? after ∧ after.nodes = r.nodes := by
  have ready := h.sequence s hs
  obtain ⟨fuel, enough, run⟩ : ∃ fuel, 399999 ≤ fuel ∧ (r.nodeOf s).set "duration" v r =
      (r.durationOf s).setWith (engine fuel) v r := ready.fitted.set_run (i := 2) rfl v
  obtain ⟨fuel, rfl⟩ : ∃ k, fuel = k + 1 := ⟨fuel - 1, by omega⟩
  have source : (r.param (r.durationOf s)).setSource = .owner :=
    ready.fitted.setSource (i := 2) rfl
  have plain : (r.param (r.durationOf s)).setParser = none := ready.fitted.setParser (i := 2) rfl
  have validator : (r.param (r.durationOf s)).validator = .numbers none none :=
    ready.fitted.validator (i := 2) rfl
  rw [run, ParamId.setWith, Act.bind_run, ParamId.write_run_of_owner source ready.duration_owner
    ready.duration_delegates, Act.bind_run, ParamId.rawOf_run plain, validator]
  cases (Validator.numbers none none).validate v with
  | error reason => exact ⟨_, rfl⟩
  | ok _ =>
    have finite : ∀ x, v.toDouble? = some x → ∃ y, x = .finite y :=
      fun _ number => Value.toDouble?_finite number
    have spares : r.Spares guests pulses {s} ∅ (r.fix s v.toDouble?) := h.spares_fix settled hs finite
    have hs' : s.index < (r.fix s v.toDouble?).sequences.size := spares.size ▸ hs
    have fixed_run : engine (fuel + 1) (.call (.fixDuration s)
        (.delegate (r.nodeOf s) (r.durationOf s) v)) r = (.ok .null, r.fix s v.toDouble?) := rfl
    rcases spares.arranged.working.duration_receive_takes spares.settled hs' (fuel + 1) with
      ⟨after, taken, took⟩ | ⟨_, few, _⟩
    case inr => omega
    have silent : (after.param (r.durationOf s)).listeners = [] := by
      rw [took.wiring.listeners]
      exact ready.silent 2 (by decide)
    rw [nodeOf_fix, durationOf_fix] at taken
    dsimp only
    rw [Act.bind_run, fixed_run]
    dsimp only
    rw [Act.bind_run, taken]
    dsimp only [Act.pure_run]
    exact ⟨after, ParamId.announce_silent silent _, h.retimed settled hs finite took,
      took.wiring.nodes.nodes⟩

theorem update_duration_run (finite : ∀ x, d = some x → ∃ y, x = .finite y) :
    ∃ v after, (r.durationOf s).update (r.fix s d) = (.ok v, after) ∧
      r.Retimed guests pulses s d after ∧ after.nodes = r.nodes ∧ after.bench = r.bench := by
  have spares : r.Spares guests pulses {s} ∅ (r.fix s d) := h.spares_fix settled hs finite
  have hs' : s.index < (r.fix s d).sequences.size := spares.size ▸ hs
  obtain ⟨fuel, enough, run⟩ := (Request.update (r.durationOf s)).perform_run (r.fix s d)
  obtain ⟨after, updated, took⟩ :=
    spares.arranged.working.update_run spares.settled hs' (show 5 ≤ fuel + 1 by omega)
  rw [durationOf_fix] at updated
  exact ⟨(r.fix s d).durationValue s, after, run.trans updated, h.retimed settled hs finite took,
    took.wiring.nodes.nodes, took.bench⟩

omit settled in
theorem parameter_duration_run (d : Option Double) :
    (r.nodeOf s).parameter "duration" (r.fix s d) = (.ok (r.durationOf s), r.fix s d) :=
  NodeId.parameter_run (r := r.fix s d) ((h.sequence s hs).fitted.get? (i := 2) rfl)

theorem freeDuration_run : ∃ after, s.freeDuration r = (.ok (), after) ∧
    r.Retimed guests pulses s none after ∧ after.nodes = r.nodes := by
  obtain ⟨v, after, updated, retimed, nodes, -⟩ := h.update_duration_run settled hs (d := none) nofun
  refine ⟨after, ?_, retimed, nodes⟩
  have node : (s.node : Act RegistryError NodeId) (r.fix s none) =
      (.ok (r.nodeOf s), r.fix s none) := by
    rw [← r.nodeOf_fix s s none]
    rfl
  have changed : (s.change ({ · with fixedDuration := none }) : Act RegistryError Unit) r =
      (.ok (), r.fix s none) := rfl
  rw [SequenceId.freeDuration, Act.bind_run, changed]
  dsimp only
  rw [Act.bind_run, node]
  dsimp only
  rw [Act.bind_run, h.parameter_duration_run hs]
  dsimp only
  rw [Act.bind_run, updated]
  rfl

end Arranged
end Registry
end LabRegistry

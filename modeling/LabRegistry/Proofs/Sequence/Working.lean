import LabRegistry.Proofs.Pulse.Setting
import LabRegistry.Proofs.Sequence.Equipped

/-!
# Working sequences

A sequence works if its members are pulses whose stops refresh its duration. Whatever else listens
to the stops is left open here, and so are names, parents and who holds what, as long as all is
alive.
-/
namespace LabRegistry

namespace Registry

def nodeOf (r : Registry) (s : SequenceId) : NodeId := (r.sequence s).node

/-- The members of a sequence, if all its children are pulses. -/
def membersOf (r : Registry) (s : SequenceId) : List NodeId :=
  (r.node (r.nodeOf s)).children.values

def durationOf (r : Registry) (s : SequenceId) : ParamId :=
  SequenceId.durationAt (r.firstParam (r.nodeOf s))

def refresher (r : Registry) (s : SequenceId) : Listener := .callback (.refreshOwned (r.durationOf s))

def hearers (r : Registry) (n : NodeId) : Set SequenceId :=
  {s | ∃ entry ∈ (r.param (r.stopOf n)).listeners, entry.2 = r.refresher s}

/-- A live sequence to which nothing listens. -/
structure SequenceReady (r : Registry) (s : SequenceId) : Prop where
  alive : r.isAlive (r.nodeOf s) = true
  config : (r.node (r.nodeOf s)).config = SequenceId.config
  fitted : r.Fitted (r.nodeOf s) (r.firstParam (r.nodeOf s)) SequenceId.plans
  delegates : (r.node (r.nodeOf s)).delegatesFor "duration" =
    ⟨some (.sequenceDuration s), some (.fixDuration s)⟩
  lists : ∀ name ∈ ["t_start", "t_stop"],
    ((r.node (r.nodeOf s)).delegatesFor (name ++ "_list")).getter = some (.pulseTimes name)
  silent : ∀ i < 5, (r.param ⟨r.firstParam (r.nodeOf s) + i⟩).listeners = []

/-- All sequences have their members among some pulses and are refreshed by the stops of their
members. -/
structure Working (r : Registry) (pulses : Set NodeId) : Prop where
  pulse : ∀ n ∈ pulses, r.PulseReady n
  sequence : ∀ s : SequenceId, s.index < r.sequences.size → r.SequenceReady s
  member : ∀ s : SequenceId, s.index < r.sequences.size → ∀ n ∈ r.membersOf s,
    n ∈ pulses ∧ s ∈ r.hearers n

variable {r after : Registry} {n m : NodeId} {s t : SequenceId} {pulses : Set NodeId} {i j : Nat}

theorem durationOf_of_node (owner : after.nodeOf s = r.nodeOf s)
    (h : (after.node (r.nodeOf s)).parameters = (r.node (r.nodeOf s)).parameters) :
    after.durationOf s = r.durationOf s := by
  rw [durationOf, owner, firstParam_of_node h, durationOf]

/-! ## Writing caches -/

namespace SameWiring

variable (h : r.SameWiring after)

include h

theorem sequence (s : SequenceId) : after.sequence s = r.sequence s := by
  rw [Registry.sequence, h.sequences, Registry.sequence]

theorem nodeOf (s : SequenceId) : after.nodeOf s = r.nodeOf s := by
  rw [Registry.nodeOf, h.sequence, Registry.nodeOf]

theorem membersOf (s : SequenceId) : after.membersOf s = r.membersOf s := by
  rw [Registry.membersOf, h.nodeOf, h.nodes.node, Registry.membersOf]

theorem durationOf (s : SequenceId) : after.durationOf s = r.durationOf s :=
  durationOf_of_node (h.nodeOf s) (by rw [h.nodes.node])

theorem refresher (s : SequenceId) : after.refresher s = r.refresher s := by
  rw [Registry.refresher, h.durationOf, Registry.refresher]

theorem hearers (n : NodeId) : after.hearers n = r.hearers n := by
  ext s
  rw [Registry.hearers, Registry.hearers, Set.mem_ofPred_eq, Set.mem_ofPred_eq, h.stopOf, h.listeners,
    h.refresher]

theorem sequenceReady (ready : r.SequenceReady s) : after.SequenceReady s where
  alive := by
    rw [h.nodeOf, h.nodes.isAlive]
    exact ready.alive
  config := by
    rw [h.nodeOf, h.nodes.node]
    exact ready.config
  fitted := by
    rw [h.nodeOf, h.firstParam]
    exact ready.fitted.of_same h.nodes h.setups
  delegates := by
    rw [h.nodeOf, h.nodes.node]
    exact ready.delegates
  lists := by
    rw [h.nodeOf, h.nodes.node]
    exact ready.lists
  silent i hi := by
    rw [h.nodeOf, h.firstParam, h.listeners]
    exact ready.silent i hi

theorem working (working : r.Working pulses) : after.Working pulses where
  pulse n hn := h.pulseReady (working.pulse n hn)
  sequence s hs := h.sequenceReady (working.sequence s (h.sequences ▸ hs))
  member s hs n mem := by
    rw [h.membersOf] at mem
    rw [h.hearers]
    exact working.member s (h.sequences ▸ hs) n mem

end SameWiring

/-! ## Different objects have different parameters -/

theorem PulseWired.owner (h : r.PulseWired n (r.firstParam n)) (hi : i < 5) :
    (r.param ⟨r.firstParam n + i⟩).owner = some n :=
  h.fitted.owner (List.getElem?_eq_getElem (show i < Pulse.plans.length from hi))

private theorem SequenceReady.owner (h : r.SequenceReady s) (hi : i < 5) :
    (r.param ⟨r.firstParam (r.nodeOf s) + i⟩).owner = some (r.nodeOf s) :=
  h.fitted.owner (List.getElem?_eq_getElem (show i < SequenceId.plans.length from hi))

theorem PulseWired.param_ne (h : r.PulseWired n (r.firstParam n)) (h' : r.PulseWired m (r.firstParam m))
    (ne : n ≠ m) (hi : i < 5) (hj : j < 5) :
    (⟨r.firstParam n + i⟩ : ParamId) ≠ ⟨r.firstParam m + j⟩ := by
  intro same
  have owner := h.owner hi
  rw [same, h'.owner hj] at owner
  exact ne (Option.some.inj owner).symm

theorem PulseReady.param_ne (h : r.PulseReady n) (h' : r.PulseReady m) (ne : n ≠ m) (hi : i < 5)
    (hj : j < 5) : (⟨r.firstParam n + i⟩ : ParamId) ≠ ⟨r.firstParam m + j⟩ :=
  h.toPulseWired.param_ne h'.toPulseWired ne hi hj

theorem PulseReady.param_ne_of (h : r.PulseReady n) (h' : r.PulseReady m) (ne : i ≠ j) (hi : i < 5)
    (hj : j < 5) : (⟨r.firstParam n + i⟩ : ParamId) ≠ ⟨r.firstParam m + j⟩ := by
  by_cases same : n = m
  · rw [same, ne_eq, ParamId.mk.injEq]
    omega
  · exact h.param_ne h' same hi hj

theorem SequenceReady.ne_nodeOf (h : r.SequenceReady s) (ready : r.PulseReady n) :
    n ≠ r.nodeOf s := by
  rintro rfl
  have keys := ready.fitted.entries.symm.trans h.fitted.entries
  have first := congrArg (fun entries => (Entries.keys entries).head?) keys
  simp [Pulse.plans, SequenceId.plans, ParameterPlan.entries, Entries.keys] at first

theorem SequenceReady.ne_param (h : r.SequenceReady s) (ready : r.PulseReady n) (hi : i < 5)
    (hj : j < 5) : (⟨r.firstParam n + i⟩ : ParamId) ≠ ⟨r.firstParam (r.nodeOf s) + j⟩ := by
  intro same
  have owner := ready.owner hi
  rw [same, h.owner hj] at owner
  exact h.ne_nodeOf ready (Option.some.inj owner).symm

theorem SequenceReady.ne_durationOf (h : r.SequenceReady s) (ready : r.PulseReady n) (hi : i < 5) :
    (⟨r.firstParam n + i⟩ : ParamId) ≠ r.durationOf s :=
  h.ne_param ready hi (j := 2) (by decide)

theorem SequenceReady.nodeOf_inj (h : r.SequenceReady s) (h' : r.SequenceReady t)
    (same : r.nodeOf s = r.nodeOf t) : s = t := by
  have delegates := h.delegates
  rw [same, h'.delegates] at delegates
  cases delegates
  rfl

theorem SequenceReady.param_inj (h : r.SequenceReady s) (h' : r.SequenceReady t) (hi : i < 5)
    (hj : j < 5)
    (same : (⟨r.firstParam (r.nodeOf s) + i⟩ : ParamId) = ⟨r.firstParam (r.nodeOf t) + j⟩) :
    s = t := by
  have owner := h.owner hi
  rw [same, h'.owner hj] at owner
  exact h.nodeOf_inj h' (Option.some.inj owner).symm

theorem SequenceReady.durationOf_inj (h : r.SequenceReady s) (h' : r.SequenceReady t)
    (same : r.durationOf s = r.durationOf t) : s = t :=
  h.param_inj h' (i := 2) (j := 2) (by decide) (by decide) same

theorem SequenceReady.refresher_inj (h : r.SequenceReady s) (h' : r.SequenceReady t)
    (same : r.refresher s = r.refresher t) : s = t :=
  h.durationOf_inj h' (Callable.refreshOwned.inj (Listener.callback.inj same))

namespace Working

variable (h : r.Working pulses)

include h

theorem mem_of_member (hs : s.index < r.sequences.size) (mem : n ∈ r.membersOf s) : n ∈ pulses :=
  (h.member s hs n mem).1

theorem pulses_eq (hs : s.index < r.sequences.size) : r.pulses (r.nodeOf s) = r.membersOf s :=
  List.filter_eq_self.mpr fun _ mem => (h.pulse _ (h.mem_of_member hs mem)).isPulse

theorem hear (hn : n ∈ pulses) (listener : Listener) :
    (r.hear (r.stopOf n) listener).Working pulses := by
  have nodes : r.SameNodes (r.hear (r.stopOf n) listener) := ⟨rfl, rfl⟩
  have setups : r.SameSetups (r.hear (r.stopOf n) listener) :=
    .of_change fun param => param.setup_addListener listener
  have listeners {p : ParamId} (ne : p ≠ r.stopOf n) :
      ((r.hear (r.stopOf n) listener).param p).listeners = (r.param p).listeners := by
    rw [param_hear, if_neg fun both => ne both.1]
  exact {
    pulse := fun m hm => {
      toPulseWired := (h.pulse m hm).toPulseWired.of_same nodes setups
      feeds := fun i hi ne => (listeners ((h.pulse m hm).param_ne_of (h.pulse n hn) ne hi
        (by decide))).trans ((h.pulse m hm).feeds i hi ne) }
    sequence := fun s hs => {
      alive := (nodes.isAlive _).trans (h.sequence s hs).alive
      config := (h.sequence s hs).config
      fitted := (h.sequence s hs).fitted.of_same nodes setups
      delegates := (h.sequence s hs).delegates
      lists := (h.sequence s hs).lists
      silent := fun i hi => (listeners ((h.sequence s hs).ne_param (h.pulse n hn) (by decide)
        hi).symm).trans ((h.sequence s hs).silent i hi) }
    member := fun s hs m mem => by
      obtain ⟨hm, entry, told, refreshes⟩ := h.member s hs m mem
      refine ⟨hm, entry, ?_, refreshes⟩
      change entry ∈ ((r.hear (r.stopOf n) listener).param (r.stopOf m)).listeners
      rw [param_hear]
      split
      · exact List.mem_append_left _ told
      · exact told }

end Working
end Registry
end LabRegistry

import LabRegistry.Proofs.Pulse.Equipped
import LabRegistry.Sequence.Basic

/-!
# Equipped sequences

A sequence has five parameters with consecutive identities. Its duration and both lists of times
are delegated to the sequence itself, and the lists cannot be set.
-/
namespace LabRegistry

namespace SequenceId

def plans : List ParameterPlan := [
  { name := "allow_pulse_overlap", validator := .bool, initial := .bool true },
  { name := "final_delay", unit := some "s", validator := .numbers none none
    initial := .ofDouble defaultFinalDelay },
  ParameterPlan.delegated { name := "duration", unit := some "s", validator := .numbers none none },
  ParameterPlan.delegated { name := "t_start_list" },
  ParameterPlan.delegated { name := "t_stop_list" }]

def durationAt (first : Nat) : ParamId := ⟨first + 2⟩

end SequenceId

open Registry

private theorem Validator.numbers_ofDouble (x : Double) :
    (numbers none none).validate (.ofDouble x) = .ok () := by
  rw [Value.ofDouble]
  cases x.finite? <;> rfl

private theorem SequenceId.equip_run {base : Registry} {n : NodeId} (s : SequenceId)
    (bare : base.Bare n) :
    ∃ after, equip s n base = (.ok (), after) ∧ base.Fitting after n plans ∧
      (after.node n).delegatesFor "duration" = ⟨some (.sequenceDuration s), some (.fixDuration s)⟩ ∧
      ∀ name ∈ ["t_start", "t_stop"],
        ((after.node n).delegatesFor (name ++ "_list")).getter = some (.pulseTimes name) := by
  obtain ⟨r₁, run₁, h₁⟩ := NodeId.addPlanned_run
    { name := "allow_pulse_overlap", validator := .bool, initial := .bool true }
    (Fitting.start bare) bare rfl (by decide)
  obtain ⟨r₂, run₂, h₂⟩ := NodeId.addPlanned_run
    { name := "final_delay", unit := some "s", validator := .numbers none none
      initial := .ofDouble defaultFinalDelay } h₁ bare
    (by dsimp only; exact Validator.numbers_ofDouble defaultFinalDelay) (by simp)
  obtain ⟨r₃, run₃, h₃⟩ := NodeId.addPlanned_run
    (ParameterPlan.delegated { name := "duration", unit := some "s", validator := .numbers none none })
    h₂ bare rfl (by simp [ParameterPlan.delegated])
  obtain ⟨r₄, run₄, h₄⟩ := NodeId.addPlanned_run
    (ParameterPlan.delegated { name := "t_start_list" }) h₃ bare rfl (by simp [ParameterPlan.delegated])
  obtain ⟨r₅, run₅, h₅⟩ := NodeId.addPlanned_run
    (ParameterPlan.delegated { name := "t_stop_list" }) h₄ bare rfl (by simp [ParameterPlan.delegated])
  obtain ⟨r₆, run₆, h₆, d₆⟩ := NodeId.registerGetter_run h₅ bare "duration" (.sequenceDuration s)
  obtain ⟨r₇, run₇, h₇, d₇⟩ := NodeId.registerSetter_run h₆ bare "duration" (.fixDuration s)
  obtain ⟨r₈, run₈, h₈, d₈⟩ :=
    NodeId.registerGetter_run h₇ bare "t_start_list" (.pulseTimes "t_start")
  obtain ⟨r₉, run₉, h₉, d₉⟩ :=
    NodeId.registerGetter_run h₈ bare "t_stop_list" (.pulseTimes "t_stop")
  refine ⟨r₉, ?_, h₉, ?_, ?_⟩
  · simp only [equip, Act.bind_run, run₁, run₂, run₃, run₄, run₅, run₆, run₇, run₈, run₉]
  · rw [Node.delegatesFor, d₉, d₈, d₇, d₆]
    simp [OrderedMap.upsert, OrderedMap.get?_insert]
  · simp [Node.delegatesFor, d₉, d₈, d₇, d₆, OrderedMap.upsert, OrderedMap.get?_insert]

private theorem Registry.Fitting.withInUse {base r : Registry} {n : NodeId}
    {plans : List ParameterPlan}
    (h : base.Fitting r n plans) (inUse : List NodeId) :
    Fitting { base with inUse } { r with inUse } n plans :=
  { h with
    fresh := fun i plan hi =>
      ⟨(h.fresh i plan hi).uncached, (h.fresh i plan hi).value, (h.fresh i plan hi).raw⟩
    inUse := rfl }

def Registry.withSequence (r : Registry) (name : Option String) : Registry :=
  { r with
    nodes := r.nodes.push { name, config := SequenceId.config }
    sequences := r.sequences.push { node := ⟨r.nodes.size⟩ } }

theorem Registry.bare_withSequence (r : Registry) (name : Option String) :
    (r.withSequence name).Bare ⟨r.nodes.size⟩ := by
  have node : (r.withSequence name).node ⟨r.nodes.size⟩ = { name, config := SequenceId.config } :=
    Arena.get_push_size _ _
  exact ⟨by simp [withSequence], by rw [node], by rw [node]; rfl⟩

theorem SequenceId.create_run (name : Option String) (r : Registry) :
    ∃ after, create name r = (.ok ⟨r.sequences.size⟩, after) ∧
      (r.withSequence name).Fitting after ⟨r.nodes.size⟩ plans ∧
      (after.node ⟨r.nodes.size⟩).delegatesFor "duration" =
        ⟨some (.sequenceDuration ⟨r.sequences.size⟩), some (.fixDuration ⟨r.sequences.size⟩)⟩ ∧
      ∀ name ∈ ["t_start", "t_stop"], ((after.node ⟨r.nodes.size⟩).delegatesFor (name ++ "_list")).getter =
        some (.pulseTimes name) := by
  let made := r.withSequence name
  have free := r.bare_withSequence name
  have bare : Bare { made with inUse := ⟨r.nodes.size⟩ :: r.inUse } ⟨r.nodes.size⟩ :=
    ⟨free.inside, free.node, free.quiet⟩
  obtain ⟨s, run, fitting, delegates⟩ := equip_run ⟨r.sequences.size⟩ bare
  refine ⟨{ s with inUse := r.inUse }, ?_, fitting.withInUse r.inUse, delegates⟩
  have holding : Act.holding ⟨r.nodes.size⟩
      (liftM (equip ⟨r.sequences.size⟩ ⟨r.nodes.size⟩) : Act DomainError Unit) made =
        (.ok (), { s with inUse := r.inUse }) := by
    have lifted : (liftM (equip ⟨r.sequences.size⟩ ⟨r.nodes.size⟩) : Act DomainError Unit)
        { made with inUse := ⟨r.nodes.size⟩ :: made.inUse } = (.ok (), s) := Act.lift_ok run
    rw [Act.holding_run, lifted]
    rfl
  change (do
    Act.holding ⟨r.nodes.size⟩ (liftM (equip ⟨r.sequences.size⟩ ⟨r.nodes.size⟩))
    return ⟨r.sequences.size⟩ : Act DomainError SequenceId) made = _
  rw [Act.bind_run, holding]
  rfl

end LabRegistry

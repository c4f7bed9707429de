import LabRegistry.Proofs.Fitting.Planned

/-!
# Equipped pulses

A pulse has five parameters with consecutive identities. Its stop is delegated to the pulse itself,
and the first thing that its start and its duration tell of a set is to refresh the stop.
-/
namespace LabRegistry

/-! ## Operations on the registry alone -/

section Lift

variable {α : Type} {act : Act RegistryError α} {r after : Registry}

theorem Act.lift_state (act : Act RegistryError α) (r : Registry) :
    ((liftM act : Act DomainError α) r).2 = (act r).2 :=
  congrArg Prod.snd (Act.mapError_run DomainError.registry act r)

theorem Act.lift_ok {x : α} (run : act r = (.ok x, after)) :
    (liftM act : Act DomainError α) r = (.ok x, after) :=
  Act.mapError_eq_ok.mpr run

theorem Act.lift_error {halt : Halt RegistryError} (run : act r = (.error halt, after)) :
    (liftM act : Act DomainError α) r = (.error (halt.map .registry), after) := by
  have lifted := Act.mapError_run DomainError.registry act r
  rw [run] at lifted
  exact lifted

end Lift

/-! ## Making a pulse -/

namespace Pulse

def plans : List ParameterPlan := [
  { name := "enabled", validator := .bool, initial := .bool true },
  { name := "t_start", unit := some "s", validator := .numbers none none },
  { name := "duration", unit := some "s", validator := .numbers (some .zero) none },
  ParameterPlan.delegated { name := "t_stop", unit := some "s", validator := .numbers none none },
  { name := "amplitude", unit := some "V", validator := .numbers none none }]

/-! The parameters of the pulse whose parameters are numbered from `first` on. -/

def startAt (first : Nat) : ParamId := ⟨first + 1⟩

def durationAt (first : Nat) : ParamId := ⟨first + 2⟩

def stopAt (first : Nat) : ParamId := ⟨first + 3⟩

def listeners (first : Nat) : Nat → List (ListenerId × Listener)
  | 1 | 2 => [(⟨0⟩, .callback (.refresh (stopAt first)))]
  | _ => []

end Pulse

namespace Registry

variable {base r : Registry} {n : NodeId}

/-- A node that held nothing became a pulse, and nothing else has changed. -/
structure Equipped (base r : Registry) (n : NodeId) : Prop where
  size : r.nodes.size = base.nodes.size
  node : r.node n = { base.node n with
    parameters := (r.node n).parameters, delegates := (r.node n).delegates }
  others : ∀ m, m ≠ n → r.node m = base.node m
  fitted : r.Fitted n base.params.size Pulse.plans
  quiet : ∀ i < 5, (r.param ⟨base.params.size + i⟩).logsChanges = false
  delegates : (r.node n).delegatesFor "t_stop" = ⟨some .pulseStop, some .setPulseStop⟩
  params : r.params.size = base.params.size + 5
  old : ∀ p : ParamId, p.index < base.params.size → r.param p = base.param p
  cache : ∀ i plan, Pulse.plans[i]? = some plan →
    (r.param ⟨base.params.size + i⟩).value = plan.initial
  listeners : ∀ i < 5, (r.param ⟨base.params.size + i⟩).listeners =
      Pulse.listeners base.params.size i ∧
    (r.param ⟨base.params.size + i⟩).nextListener = (Pulse.listeners base.params.size i).length
  sequences : r.sequences = base.sequences
  bench : r.bench = base.bench
  inUse : r.inUse = base.inUse
  logging : r.log.enabled = base.log.enabled

end Registry

open Registry

def Registry.hear (r : Registry) (p : ParamId) (listener : Listener) : Registry :=
  { r with params := r.params.change p.index (·.addListener listener) }

theorem Registry.param_hear (r : Registry) (p q : ParamId) (listener : Listener) :
    (r.hear p listener).param q =
      if q = p ∧ p.index < r.params.size then (r.param q).addListener listener else r.param q :=
  r.param_change p q _

@[simp] theorem Registry.value_hear (r : Registry) (p q : ParamId) (listener : Listener) :
    ((r.hear p listener).param q).value = (r.param q).value := by
  rw [param_hear]
  split <;> rfl

@[simp] theorem Registry.size_hear (r : Registry) (p : ParamId) (listener : Listener) :
    (r.hear p listener).params.size = r.params.size :=
  Arena.size_change _ _ _

theorem ParamId.listen_run {ε : Type} (p : ParamId) (listener : Listener) (r : Registry) :
    (p.listen listener : Act ε ListenerId) r = (.ok ⟨(r.param p).nextListener⟩, r.hear p listener) :=
  rfl

theorem Registry.Equipped.withInUse {base r : Registry} {n : NodeId} (h : base.Equipped r n)
    (inUse : List NodeId) : Registry.Equipped { base with inUse } { r with inUse } n :=
  { h with
    fitted := ⟨h.fitted.entries, h.fitted.inside, h.fitted.setup, fun i hi => .inl (h.quiet i hi)⟩
    inUse := rfl }

private theorem Registry.Fitting.equipped {base r : Registry} {n : NodeId}
    (h : base.Fitting r n Pulse.plans)
    (delegates : (r.node n).delegatesFor "t_stop" = ⟨some .pulseStop, some .setPulseStop⟩) :
    let refresh : Listener := .callback (.refresh (Pulse.stopAt base.params.size))
    base.Equipped ((r.hear (Pulse.startAt base.params.size) refresh).hear
      (Pulse.durationAt base.params.size) refresh) n := by
  intro refresh
  have size : r.params.size = base.params.size + 5 := h.params
  have heard (i : Nat) : (((r.hear (Pulse.startAt base.params.size) refresh).hear
      (Pulse.durationAt base.params.size) refresh).param ⟨base.params.size + i⟩) =
        if i = 1 ∨ i = 2 then (r.param ⟨base.params.size + i⟩).addListener refresh
        else r.param ⟨base.params.size + i⟩ := by
    rw [param_hear, param_hear, size_hear, size]
    simp only [Pulse.startAt, Pulse.durationAt, ParamId.mk.injEq]
    split_ifs <;> first | rfl | omega
  have silent (i : Nat) (hi : i < 5) : (r.param ⟨base.params.size + i⟩).listeners = [] ∧
      (r.param ⟨base.params.size + i⟩).nextListener = 0 := by
    have planned : i < Pulse.plans.length := hi
    have uncached := (h.fresh i _ (List.getElem?_eq_getElem planned)).uncached
    exact ⟨congrArg (·.listeners) uncached, congrArg (·.nextListener) uncached⟩
  have plain := h.fitted (by decide)
  have quiet (i : Nat) (hi : i < 5) : (((r.hear (Pulse.startAt base.params.size) refresh).hear
      (Pulse.durationAt base.params.size) refresh).param ⟨base.params.size + i⟩).logsChanges =
        false := by
    have planned : i < Pulse.plans.length := hi
    have logs := congrArg (·.logsChanges) (h.fresh i _ (List.getElem?_eq_getElem planned)).uncached
    have plan : Pulse.plans[i].logsChanges = false :=
      (by decide : ∀ plan ∈ Pulse.plans, plan.logsChanges = false) _ (List.getElem_mem planned)
    rw [heard]
    split <;> exact logs.trans plan
  exact {
    size := h.size
    node := h.node
    others := h.others
    fitted := {
      entries := h.entries
      inside := by simp [size, Pulse.plans]
      setup := fun i plan hi => by
        rw [heard]
        split
        · exact plain.setup i plan hi
        · exact plain.setup i plan hi
      speaks := fun i hi => .inl (quiet i hi) }
    quiet := quiet
    delegates := delegates
    params := by simp [size]
    old := fun p hp => by
      have ne {i : Nat} : p ≠ ⟨base.params.size + i⟩ := by
        rintro rfl
        dsimp only at hp
        omega
      rw [param_hear, if_neg fun both => ne both.1, param_hear, if_neg fun both => ne both.1]
      exact h.old p hp
    cache := fun i plan hi => by
      rw [heard]
      split
      · exact (h.fresh i plan hi).value
      · exact (h.fresh i plan hi).value
    listeners := fun i hi => by
      obtain ⟨none, zero⟩ := silent i hi
      rw [heard]
      split
      case isTrue first =>
        have told : Pulse.listeners base.params.size i = [(⟨0⟩, refresh)] := by
          rcases first with rfl | rfl <;> rfl
        simp [Parameter.addListener, none, zero, told]
      case isFalse other =>
        have told : Pulse.listeners base.params.size i = [] := by
          unfold Pulse.listeners
          split <;> simp_all
        simp [none, zero, told]
    sequences := h.sequences
    bench := h.bench
    inUse := h.inUse
    logging := h.logging }

private theorem Pulse.equip_run {base : Registry} {n : NodeId} (bare : base.Bare n) :
    ∃ after, equip n base = (.ok (), after) ∧ base.Equipped after n := by
  obtain ⟨r₁, run₁, h₁⟩ := NodeId.addPlanned_run
    { name := "enabled", validator := .bool, initial := .bool true } (Fitting.start bare) bare rfl
    (by decide)
  obtain ⟨r₂, run₂, h₂⟩ := NodeId.addPlanned_run
    { name := "t_start", unit := some "s", validator := .numbers none none } h₁ bare rfl
    (by decide)
  obtain ⟨r₃, run₃, h₃⟩ := NodeId.addPlanned_run
    { name := "duration", unit := some "s", validator := .numbers (some .zero) none } h₂ bare rfl
    (by decide)
  obtain ⟨r₄, run₄, h₄⟩ := NodeId.addPlanned_run
    (ParameterPlan.delegated { name := "t_stop", unit := some "s", validator := .numbers none none })
    h₃ bare rfl (by decide)
  obtain ⟨r₅, run₅, h₅⟩ := NodeId.addPlanned_run
    { name := "amplitude", unit := some "V", validator := .numbers none none } h₄ bare rfl
    (by decide)
  obtain ⟨r₆, run₆, h₆, getter⟩ := NodeId.registerGetter_run h₅ bare "t_stop" .pulseStop
  obtain ⟨r₇, run₇, h₇, setter⟩ := NodeId.registerSetter_run h₆ bare "t_stop" .setPulseStop
  refine ⟨_, ?_, Fitting.equipped h₇ ?_⟩
  · simp only [equip, Act.bind_run, run₁, run₂, run₃, run₄, run₅, run₆, run₇, ParamId.listen_run]
    rfl
  · rw [Node.delegatesFor, setter, getter]
    simp [OrderedMap.upsert, OrderedMap.get?_insert]

theorem Pulse.create_run (name : Option String) (r : Registry) :
    ∃ after, create name r = (.ok ⟨r.nodes.size⟩, after) ∧
      Registry.Equipped { r with nodes := r.nodes.push { name, config } } after
        ⟨r.nodes.size⟩ := by
  let made : Registry := { r with nodes := r.nodes.push { name, config } }
  let held : Registry := { made with inUse := ⟨r.nodes.size⟩ :: r.inUse }
  have node : held.node ⟨r.nodes.size⟩ = { name, config } := Arena.get_push_size _ _
  have bare : held.Bare ⟨r.nodes.size⟩ :=
    ⟨by simp [held, made], by rw [node], by rw [node]; rfl⟩
  obtain ⟨s, run, equipped⟩ := equip_run bare
  obtain ⟨shown, named⟩ := Option.isSome_iff_exists.mp <|
    displayName?_of_top (r := s) (n := ⟨r.nodes.size⟩) (by rw [equipped.node, node])
  have composed : (do
      return "created pulse '" ++ (← (⟨r.nodes.size⟩ : NodeId).displayName) ++ "'" :
        Act DomainError String) s = (.ok ("created pulse '" ++ shown ++ "'"), s) := by
    rw [Act.bind_run, NodeId.displayName, Act.orEndless_run, named]
    rfl
  obtain ⟨lines, logged⟩ := Act.debug_ok composed
  refine ⟨{ s with log := { s.log with lines }, inUse := r.inUse }, ?_, ?_⟩
  · have held_run : Act.holding ⟨r.nodes.size⟩ (do
        liftM (equip ⟨r.nodes.size⟩)
        Act.debug (do
          return "created pulse '" ++ (← (⟨r.nodes.size⟩ : NodeId).displayName) ++ "'") :
        Act DomainError Unit) made =
          (.ok (), { s with log := { s.log with lines }, inUse := r.inUse }) := by
      rw [Act.holding_run, Act.bind_run, Act.lift_ok run]
      dsimp only
      rw [logged]
    have pushed : (NodeId.create name config : Act DomainError NodeId) r =
        (.ok ⟨r.nodes.size⟩, made) := rfl
    rw [create, Act.bind_run, pushed]
    dsimp only
    rw [Act.bind_run, held_run]
    rfl
  · exact { equipped with
      fitted := ⟨equipped.fitted.entries, equipped.fitted.inside, equipped.fitted.setup,
        fun i hi => .inl (equipped.quiet i hi)⟩
      inUse := rfl }

def Pulse.give (n : NodeId) (plan : PulsePlan) : Act DomainError Unit := do
  setGiven n "t_start" plan.start
  setGiven n "duration" plan.duration
  setGiven n "t_stop" plan.stop
  setGiven n "amplitude" plan.amplitude
  setGiven n "enabled" (plan.enabled.map .bool)

theorem Pulse.createWith_run {plan : PulsePlan} {n : NodeId} {r made : Registry}
    (created : create plan.name r = (.ok n, made)) :
    createWith plan r = if plan.duration.isSome && plan.stop.isSome then
      (.error (.failed .durationAndStop), r)
    else
      let given := give n plan { made with inUse := n :: made.inUse }
      (given.1.map fun _ => n, { given.2 with inUse := made.inUse }) := by
  have sequel : (do
      let n ← create plan.name
      Act.holding n (give n plan)
      return n : Act DomainError NodeId) r =
        let given := give n plan { made with inUse := n :: made.inUse }
        (given.1.map fun _ => n, { given.2 with inUse := made.inUse }) := by
    rw [Act.bind_run, created]
    dsimp only
    rw [Act.bind_run, Act.holding_run]
    cases (give n plan { made with inUse := n :: made.inUse }).1 <;> rfl
  rw [createWith]
  split
  · rfl
  · exact sequel

end LabRegistry

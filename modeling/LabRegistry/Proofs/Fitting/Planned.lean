import LabRegistry.Proofs.Binding.Outcome
import LabRegistry.Proofs.Engine.Cache
import LabRegistry.Pulse.Basic

/-!
# Nodes fitted with planned parameters

Pulses and sequences are nodes that are fitted with one planned parameter after the other. The
parameters get consecutive identities, and as long as nothing is bound anew, each of them is found
under its name and keeps the setup that was planned.
-/
namespace LabRegistry

namespace ParameterPlan

/-- The parameter as planned once a node owns it, with nothing in its cache. -/
def ownedBy (plan : ParameterPlan) (n : NodeId) : Parameter :=
  { (plan.toParameter default).setup with owner := some n }

/-- Planned parameters by name, numbered from `first` on. -/
def entries (first : Nat) : List ParameterPlan → List (String × ParamId)
  | [] => []
  | plan :: plans => (plan.name, ⟨first⟩) :: entries (first + 1) plans

theorem keys_entries (first : Nat) (plans : List ParameterPlan) :
    Entries.keys (entries first plans) = plans.map (·.name) := by
  induction plans generalizing first with
  | nil => rfl
  | cons plan plans ih => simpa [entries, Entries.keys] using ih (first + 1)

private theorem entries_concat (first : Nat) (plans : List ParameterPlan) (plan : ParameterPlan) :
    entries first (plans ++ [plan]) =
      entries first plans ++ [(plan.name, ⟨first + plans.length⟩)] := by
  induction plans generalizing first with
  | nil => rfl
  | cons other plans ih =>
    simp only [List.cons_append, entries, ih, List.length_cons]
    rw [Nat.add_assoc, Nat.add_comm 1]

private theorem mem_entries {first i : Nat} {plans : List ParameterPlan} {plan : ParameterPlan}
    (h : plans[i]? = some plan) : (plan.name, ⟨first + i⟩) ∈ entries first plans := by
  induction plans generalizing first i with
  | nil => cases h
  | cons other plans ih =>
    cases i with
    | zero =>
      cases h
      exact List.mem_cons_self
    | succ i =>
      have there := @ih (first + 1) i h
      rw [Nat.add_assoc, Nat.add_comm 1] at there
      exact List.mem_cons_of_mem _ there

theorem exists_of_mem_entries {first : Nat} {plans : List ParameterPlan} {entry : String × ParamId}
    (h : entry ∈ entries first plans) :
    ∃ i plan, plans[i]? = some plan ∧ entry = (plan.name, ⟨first + i⟩) := by
  induction plans generalizing first with
  | nil => cases h
  | cons plan plans ih =>
    rcases List.mem_cons.mp h with rfl | mem
    · exact ⟨0, plan, rfl, rfl⟩
    · obtain ⟨i, other, hi, rfl⟩ := ih mem
      exact ⟨i + 1, other, hi, by rw [Nat.add_assoc, Nat.add_comm 1]⟩

theorem exists_of_mem_names {name : String} {plans : List ParameterPlan}
    (h : name ∈ plans.map (·.name)) :
    ∃ (i : Nat) (plan : ParameterPlan), plans[i]? = some plan ∧ plan.name = name := by
  obtain ⟨plan, mem, named⟩ := List.mem_map.mp h
  obtain ⟨i, hi⟩ := List.mem_iff_getElem?.mp mem
  exact ⟨i, plan, hi, named⟩

theorem map_entries {α : Type} {first : Nat} {plans : List ParameterPlan} {f : String × ParamId → α}
    {g : ParameterPlan → α}
    (same : ∀ i plan, plans[i]? = some plan → f (plan.name, ⟨first + i⟩) = g plan) :
    (entries first plans).map f = plans.map g := by
  induction plans generalizing first with
  | nil => rfl
  | cons plan plans ih =>
    have head : f (plan.name, ⟨first⟩) = g plan := same 0 plan rfl
    rw [entries, List.map_cons, List.map_cons, head, ih]
    intro i other hi
    have there := same (i + 1) other hi
    rwa [Nat.add_comm i, ← Nat.add_assoc] at there

end ParameterPlan

theorem NodeId.parameter_run {r : Registry} {n : NodeId} {name : String} {p : ParamId}
    (found : (r.node n).parameters.get? name = some p) : n.parameter name r = (.ok p, r) :=
  find_run found

namespace Registry

variable {r after base : Registry} {n : NodeId} {first i : Nat} {plans : List ParameterPlan}
  {plan : ParameterPlan}

/-- The cached value of a parameter of a node, `null` if there is none of that name. -/
def cached (r : Registry) (n : NodeId) (name : String) : Value :=
  match (r.node n).parameters.get? name with
  | some p => (r.param p).value
  | none => .null

/-- The parameters of a node are the planned ones, numbered from `first` on, set up as planned. They
may log their changes if they have names. -/
structure Fitted (r : Registry) (n : NodeId) (first : Nat) (plans : List ParameterPlan) : Prop where
  entries : (r.node n).parameters.entries = ParameterPlan.entries first plans
  inside : first + plans.length ≤ r.params.size
  setup : ∀ i plan, plans[i]? = some plan →
    (r.param ⟨first + i⟩).setup.muted = (plan.ownedBy n).muted
  speaks : ∀ i < plans.length, r.Speaks ⟨first + i⟩

namespace Fitted

theorem of_same (h : r.Fitted n first plans) (nodes : r.SameNodes after)
    (setups : r.SameSetups after) : after.Fitted n first plans where
  entries := by rw [nodes.node, h.entries]
  inside := setups.size ▸ h.inside
  setup i plan hi := (congrArg Parameter.muted (setups.setup _)).trans (h.setup i plan hi)
  speaks i hi := (h.speaks i hi).of_same nodes (setups.setup _)

theorem of_old (h : r.Fitted n first plans)
    (parameters : (after.node n).parameters = (r.node n).parameters)
    (size : r.params.size ≤ after.params.size)
    (old : ∀ p : ParamId, p.index < r.params.size →
      (after.param p).setup.muted = (r.param p).setup.muted)
    (speaks : ∀ i < plans.length, after.Speaks ⟨first + i⟩) : after.Fitted n first plans where
  entries := by rw [parameters, h.entries]
  inside := h.inside.trans size
  setup i plan hi := by
    have short := (List.getElem?_eq_some_iff.mp hi).1
    have inside := h.inside
    rw [old ⟨first + i⟩ (show first + i < r.params.size by omega)]
    exact h.setup i plan hi
  speaks := speaks

section

variable (h : r.Fitted n first plans) (hi : plans[i]? = some plan)

include h hi

theorem lt_size : first + i < r.params.size := by
  have short := (List.getElem?_eq_some_iff.mp hi).1
  have inside := h.inside
  omega

theorem get? : (r.node n).parameters.get? plan.name = some ⟨first + i⟩ := by
  have mem : (plan.name, ⟨first + i⟩) ∈ (r.node n).parameters.entries :=
    h.entries ▸ ParameterPlan.mem_entries hi
  exact Entries.get?_of_mem (r.node n).parameters.nodup_keys mem

theorem cached : r.cached n plan.name = (r.param ⟨first + i⟩).value := by
  rw [Registry.cached, h.get? hi]

theorem parameter_run : n.parameter plan.name r = (.ok ⟨first + i⟩, r) :=
  NodeId.parameter_run (h.get? hi)

theorem getSource : (r.param ⟨first + i⟩).getSource = plan.getSource :=
  congrArg (·.getSource) (h.setup i plan hi)

theorem setSource : (r.param ⟨first + i⟩).setSource =
    plan.setSource.getD (ParameterPlan.defaultSetSource plan.getSource) :=
  congrArg (·.setSource) (h.setup i plan hi)

theorem getParser : (r.param ⟨first + i⟩).getParser = plan.getParser :=
  congrArg (·.getParser) (h.setup i plan hi)

theorem setParser : (r.param ⟨first + i⟩).setParser = plan.setParser :=
  congrArg (·.setParser) (h.setup i plan hi)

theorem name : (r.param ⟨first + i⟩).name = plan.name := congrArg (·.name) (h.setup i plan hi)

theorem unit : (r.param ⟨first + i⟩).unit = plan.unit := congrArg (·.unit) (h.setup i plan hi)

theorem inSnapshot : (r.param ⟨first + i⟩).inSnapshot = plan.inSnapshot :=
  congrArg (·.inSnapshot) (h.setup i plan hi)

theorem speaksAt : r.Speaks ⟨first + i⟩ := h.speaks i (List.getElem?_eq_some_iff.mp hi).1

theorem owner : (r.param ⟨first + i⟩).owner = some n := congrArg (·.owner) (h.setup i plan hi)

theorem owner? (alive : r.isAlive n = true) : r.owner? ⟨first + i⟩ = some n := by
  rw [Registry.owner?, h.owner hi, Option.filter_some, alive]
  rfl

end

theorem place_inj {j : Nat} {other : ParameterPlan} (h : r.Fitted n first plans)
    (hi : plans[i]? = some plan) (hj : plans[j]? = some other) (same : other.name = plan.name) :
    j = i := by
  have found := (h.get? hj).symm.trans ((congrArg _ same).trans (h.get? hi))
  rw [Option.some.injEq, ParamId.mk.injEq] at found
  omega

theorem get?_of_unknown (h : r.Fitted n first plans) {name : String}
    (unknown : name ∉ plans.map (·.name)) : (r.node n).parameters.get? name = none := by
  rw [← Option.not_isSome_iff_eq_none, OrderedMap.get?, Entries.isSome_get?_iff, h.entries,
    ParameterPlan.keys_entries]
  exact unknown

theorem cached_of_unknown (h : r.Fitted n first plans) {name : String}
    (unknown : name ∉ plans.map (·.name)) : r.cached n name = .null := by
  rw [Registry.cached, h.get?_of_unknown unknown]

theorem cached_eq_values (h : r.Fitted n first plans) {values : String → Value}
    (planned : ∀ i plan, plans[i]? = some plan → (r.param ⟨first + i⟩).value = values plan.name)
    (unknown : ∀ name ∉ plans.map (·.name), values name = .null) : r.cached n = values := by
  funext name
  by_cases known : name ∈ plans.map (·.name)
  · obtain ⟨i, plan, hi, rfl⟩ := ParameterPlan.exists_of_mem_names known
    rw [h.cached hi, planned i plan hi]
  · rw [h.cached_of_unknown known, unknown name known]

theorem cached_eq {m : NodeId} {first' : Nat} (h : r.Fitted n first plans)
    (h' : after.Fitted m first' plans) (values : ∀ i < plans.length,
      (after.param ⟨first' + i⟩).value = (r.param ⟨first + i⟩).value) (name : String) :
    after.cached m name = r.cached n name := by
  refine congrFun (h'.cached_eq_values (fun i plan hi => ?_) fun name => h.cached_of_unknown) name
  rw [h.cached hi, values i (List.getElem?_eq_some_iff.mp hi).1]

end Fitted

/-! ## Names at the top -/

theorem path?_of_top (top : (r.node n).parent = none) : r.path? n = some (r.node n).name.toList := by
  rw [path?, pathWithin, parent?, top]
  rfl

theorem displayName?_of_top (top : (r.node n).parent = none) : (r.displayName? n).isSome := by
  rw [displayName?, path?_of_top top]
  rfl

private theorem paramName?_of_path {p : ParamId} (owner : (r.param p).owner = some n)
    (known : (r.path? n).isSome) : (r.paramName? p).isSome := by
  rw [paramName?]
  split
  · rfl
  case h_2 m hm =>
    rw [owner?, owner, Option.filter_eq_some_iff] at hm
    cases hm.1
    rw [Option.isSome_map]
    exact known

/-! ## Fitting -/

/-- A parameter as planned and owned that nothing was connected to. -/
structure Unused (r : Registry) (p : ParamId) (n : NodeId) (plan : ParameterPlan) : Prop where
  uncached : (r.param p).uncached = plan.ownedBy n
  value : (r.param p).value = plan.initial
  raw : (r.param p).raw = plan.initial

/-- A node that held nothing was fitted with parameters, and nothing else has changed. -/
structure Fitting (base r : Registry) (n : NodeId) (plans : List ParameterPlan) : Prop where
  size : r.nodes.size = base.nodes.size
  node : r.node n = { base.node n with
    parameters := (r.node n).parameters, delegates := (r.node n).delegates }
  others : ∀ m, m ≠ n → r.node m = base.node m
  entries : (r.node n).parameters.entries = ParameterPlan.entries base.params.size plans
  params : r.params.size = base.params.size + plans.length
  old : ∀ p : ParamId, p.index < base.params.size → r.param p = base.param p
  fresh : ∀ i plan, plans[i]? = some plan → r.Unused ⟨base.params.size + i⟩ n plan
  sequences : r.sequences = base.sequences
  devices : r.devices = base.devices
  bench : r.bench = base.bench
  inUse : r.inUse = base.inUse
  logging : r.log.enabled = base.log.enabled

theorem Fitting.fitted (h : base.Fitting r n plans) (quiet : ∀ plan ∈ plans, plan.logsChanges = false) :
    r.Fitted n base.params.size plans where
  entries := h.entries
  inside := h.params.ge
  setup i plan hi := by
    have setup := congrArg (·.setup.muted) (h.fresh i plan hi).uncached
    exact setup
  speaks i hi := by
    have planned := List.getElem?_eq_getElem hi
    have logs := congrArg (·.logsChanges) (h.fresh i _ planned).uncached
    exact .inl (logs.trans (quiet _ (List.mem_of_getElem? planned)))

/-- The node exists and has nothing but its name and a configuration that logs no changes. -/
structure Bare (r : Registry) (n : NodeId) : Prop where
  inside : n.index < r.nodes.size
  node : r.node n = { name := (r.node n).name, config := (r.node n).config }
  quiet : (r.node n).config.logsChanges = false

namespace Fitting

theorem start (bare : r.Bare n) : r.Fitting r n [] where
  size := rfl
  node := rfl
  others _ _ := rfl
  entries := by
    rw [bare.node]
    rfl
  params := rfl
  old _ _ := rfl
  fresh _ _ hi := by cases hi
  sequences := rfl
  devices := rfl
  bench := rfl
  inUse := rfl
  logging := rfl

variable (h : base.Fitting r n plans) (bare : base.Bare n)

include h bare

private theorem top : (r.node n).parent = none := by
  rw [h.node, bare.node]

theorem kindOf_of_fresh {name : String} (fresh : name ∉ plans.map (·.name)) :
    (r.node n).kindOf name = none := by
  have free : (r.node n).parameters.contains name = false := by
    rw [Bool.eq_false_iff, ne_eq, OrderedMap.contains_iff_mem_keys, OrderedMap.keys, h.entries,
      ParameterPlan.keys_entries]
    exact fresh
  rw [Node.kindOf, free, h.node, bare.node]
  rfl

end Fitting
end Registry

open Registry

theorem ParameterPlan.create_run {plan : ParameterPlan}
    (accepted : plan.validator.validate plan.initial = .ok ()) (r : Registry) :
    ∃ now now', plan.create r = (.ok ⟨r.params.size⟩,
      { r with params := r.params.push (plan.toParameter now), now := now' }) := by
  rw [create, accepted]
  exact ⟨_, _, rfl⟩

private theorem ParamId.joinNode_run {r : Registry} {p : ParamId} {n : NodeId} (name : String)
    (inside : p.index < r.params.size) (free : (r.param p).owner = none) (known : (r.path? n).isSome) :
    ∃ lines, (p.joinNode n name : Act RegistryError Unit) r = (.ok (), { r with
      params := r.params.change p.index fun param => { param with
        owner := some n, name, logsChanges := param.logsChanges || (r.node n).config.logsChanges }
      log := { r.log with lines } }) := by
  let joined : Registry := { r with
    params := r.params.change p.index fun param => { param with
      owner := some n, name, logsChanges := param.logsChanges || (r.node n).config.logsChanges } }
  have nodes : r.SameNodes joined := ⟨rfl, roots_of_eq rfl rfl fun _ => rfl⟩
  obtain ⟨full, named⟩ := Option.isSome_iff_exists.mp <| paramName?_of_path (n := n) (p := p)
    (r := joined) (by rw [param_change, if_pos ⟨rfl, inside⟩]) (nodes.path? n ▸ known)
  rw [joinNode, Act.bind_run, state_run]
  dsimp only
  rw [if_neg (by simp [free]), Act.bind_run, NodeId.state_run]
  dsimp only
  rw [Act.bind_run, change_run]
  simp only [free, Option.isNone_none, Bool.true_and, if_true]
  apply Act.debug_ok
  rw [Act.bind_run, fullName_run, named]
  rfl

namespace NodeId

private theorem addParameter_run {r : Registry} {p : ParamId} {n : NodeId}
    (inside : p.index < r.params.size)
    (free : (r.param p).owner = none) (known : (r.path? n).isSome)
    (kind : (r.node n).kindOf (r.param p).name = none) :
    ∃ lines, n.addParameter p r = (.ok (), { r with
      params := r.params.change p.index fun param => { param with
        owner := some n, name := (r.param p).name
        logsChanges := param.logsChanges || (r.node n).config.logsChanges }
      nodes := r.nodes.change n.index fun node =>
        { node with parameters := node.parameters.insert (r.param p).name p }
      log := { r.log with lines } }) := by
  obtain ⟨lines, joined⟩ := ParamId.joinNode_run (r.param p).name inside free known
  refine ⟨lines, ?_⟩
  rw [addParameter, Act.bind_run, ParamId.state_run]
  dsimp only
  rw [addParameterAs, Act.bind_run, requireFree_of_admits (.inl kind)]
  dsimp only
  rw [Act.bind_run, joined]
  rfl

end NodeId

namespace Registry

/-- The registry after a planned parameter was made and bound on a node. -/
inductive Grown (r : Registry) (n : NodeId) (plan : ParameterPlan) : Registry → Prop
  | intro (now now' : Instant) (lines : List (LogLevel × String)) : Grown r n plan { r with
      params := (r.params.push (plan.toParameter now)).change r.params.size fun param => { param with
        owner := some n, name := plan.name
        logsChanges := param.logsChanges || (r.node n).config.logsChanges }
      nodes := r.nodes.change n.index fun node =>
        { node with parameters := node.parameters.insert plan.name ⟨r.params.size⟩ }
      log := { r.log with lines }
      now := now' }

variable {base r after : Registry} {n : NodeId} {plans : List ParameterPlan} {plan : ParameterPlan}

theorem Grown.node (h : r.Grown n plan after) (m : NodeId) :
    after.node m = if m = n ∧ n.index < r.nodes.size then
      { r.node m with parameters := (r.node m).parameters.insert plan.name ⟨r.params.size⟩ }
    else r.node m := by
  obtain ⟨now, now', lines⟩ := h
  exact node_change r n m fun node =>
    { node with parameters := node.parameters.insert plan.name ⟨r.params.size⟩ }

theorem Grown.others (h : r.Grown n plan after) {m : NodeId} (other : m ≠ n) :
    after.node m = r.node m := by
  rw [h.node, if_neg fun both => other both.1]

theorem Grown.size (h : r.Grown n plan after) : after.nodes.size = r.nodes.size := by
  obtain ⟨now, now', lines⟩ := h
  exact Arena.size_change _ _ _

theorem Grown.params (h : r.Grown n plan after) : after.params.size = r.params.size + 1 := by
  obtain ⟨now, now', lines⟩ := h
  exact (Arena.size_change _ _ _).trans (Arena.size_push _ _)

theorem Grown.sequences (h : r.Grown n plan after) : after.sequences = r.sequences := by
  obtain ⟨now, now', lines⟩ := h
  rfl

theorem Grown.devices (h : r.Grown n plan after) : after.devices = r.devices := by
  obtain ⟨now, now', lines⟩ := h
  rfl

theorem Grown.param_of_lt (h : r.Grown n plan after) {p : ParamId} (old : p.index < r.params.size) :
    after.param p = r.param p := by
  obtain ⟨now, now', lines⟩ := h
  have ne : r.params.size ≠ p.index := by omega
  exact (Arena.get_change_of_ne ne _ _).trans (Arena.get_push_of_lt old _)

private theorem Grown.unused (h : r.Grown n plan after)
    (quiet : (r.node n).config.logsChanges = false) :
    after.Unused ⟨r.params.size⟩ n plan := by
  obtain ⟨now, now', lines⟩ := h
  have cell : ((r.params.push (plan.toParameter now)).change r.params.size fun param => { param with
      owner := some n, name := plan.name
      logsChanges := param.logsChanges || (r.node n).config.logsChanges }).get r.params.size =
        { plan.toParameter now with owner := some n, name := plan.name } := by
    rw [Arena.get_change_self (by simp), Arena.get_push_size, quiet, Bool.or_false]
  exact ⟨congrArg Parameter.uncached cell, congrArg (·.value) cell, congrArg (·.raw) cell⟩

private theorem Fitting.grow (h : base.Fitting r n plans) (bare : base.Bare n)
    (fresh : plan.name ∉ plans.map (·.name)) (grown : r.Grown n plan after) :
    base.Fitting after n (plans ++ [plan]) := by
  have inside : n.index < r.nodes.size := h.size ▸ bare.inside
  have quiet : (r.node n).config.logsChanges = false := by
    rw [h.node]
    exact bare.quiet
  have self := grown.node n
  rw [if_pos ⟨rfl, inside⟩] at self
  exact {
    size := grown.size.trans h.size
    node := by
      rw [self, h.node]
    others := fun m hm => (grown.others hm).trans (h.others m hm)
    entries := by
      rw [self, ParameterPlan.entries_concat, ← h.params, ← h.entries]
      apply Entries.insert_of_notMem
      rw [h.entries, ParameterPlan.keys_entries]
      exact fresh
    params := by
      rw [grown.params, h.params, List.length_append, List.length_singleton, Nat.add_assoc]
    old := fun p hp => by
      rw [grown.param_of_lt (by rw [h.params]; omega)]
      exact h.old p hp
    fresh := fun i other hi => by
      rw [List.getElem?_append] at hi
      split at hi
      case isTrue short =>
        have same := grown.param_of_lt (p := ⟨base.params.size + i⟩) (by simp [h.params, short])
        have unused := h.fresh i other hi
        exact ⟨same ▸ unused.uncached, same ▸ unused.value, same ▸ unused.raw⟩
      case isFalse long =>
        have last : i = plans.length := by
          have bound := (List.getElem?_eq_some_iff.mp hi).1
          simp at bound
          omega
        subst last
        simp only [Nat.sub_self, List.getElem?_cons_zero, Option.some.injEq] at hi
        exact hi ▸ h.params ▸ grown.unused quiet
    sequences := grown.sequences.trans h.sequences
    devices := grown.devices.trans h.devices
    bench := by
      obtain ⟨now, now', lines⟩ := grown
      exact h.bench
    inUse := by
      obtain ⟨now, now', lines⟩ := grown
      exact h.inUse
    logging := by
      obtain ⟨now, now', lines⟩ := grown
      exact h.logging }

end Registry

/-- A node that has a path and logs no changes can take a planned parameter where its name is free. -/
theorem NodeId.addPlanned_grown {r : Registry} {n : NodeId} (plan : ParameterPlan)
    (accepted : plan.validator.validate plan.initial = .ok ()) (known : (r.path? n).isSome)
    (kind : (r.node n).kindOf plan.name = none) :
    ∃ after, n.addPlanned plan r = (.ok ⟨r.params.size⟩, after) ∧ r.Grown n plan after := by
  obtain ⟨now, now', created⟩ := plan.create_run accepted r
  let made : Registry := { r with params := r.params.push (plan.toParameter now), now := now' }
  have new : made.param ⟨r.params.size⟩ = plan.toParameter now := Arena.get_push_size _ _
  have nodes : r.SameNodes made := ⟨rfl, roots_of_eq rfl rfl fun _ => rfl⟩
  obtain ⟨lines, added⟩ := addParameter_run (r := made) (n := n) (p := ⟨r.params.size⟩)
    (by simp [made]) (by rw [new]; rfl) (nodes.path? n ▸ known) (by rw [new]; exact kind)
  rw [new] at added
  refine ⟨_, ?_, .intro now now' lines⟩
  rw [addPlanned, Act.bind_run, created]
  dsimp only
  rw [Act.bind_run, added]
  rfl

theorem NodeId.addPlanned_run {base r : Registry} {n : NodeId} {plans : List ParameterPlan}
    (plan : ParameterPlan) (h : base.Fitting r n plans) (bare : base.Bare n)
    (accepted : plan.validator.validate plan.initial = .ok ())
    (fresh : plan.name ∉ plans.map (·.name)) :
    ∃ after, n.addPlanned plan r = (.ok ⟨base.params.size + plans.length⟩, after) ∧
      base.Fitting after n (plans ++ [plan]) := by
  obtain ⟨after, run, grown⟩ := addPlanned_grown (n := n) plan accepted
    (by rw [path?_of_top (h.top bare)]; rfl) (h.kindOf_of_fresh bare fresh)
  exact ⟨after, h.params ▸ run, h.grow bare fresh grown⟩

/-! ## Delegates -/

private theorem Registry.Fitting.registered {base r : Registry} {n : NodeId}
    {plans : List ParameterPlan}
    (h : base.Fitting r n plans) (bare : base.Bare n) (name : String)
    (f : Delegates → Delegates) (lines : List (LogLevel × String)) :
    let after := { r with
      nodes := r.nodes.change n.index fun node =>
        { node with delegates := node.delegates.upsert name {} f }
      log := { r.log with lines } }
    base.Fitting after n plans ∧
      (after.node n).delegates = (r.node n).delegates.upsert name {} f := by
  intro after
  have self : after.node n = { r.node n with
      delegates := (r.node n).delegates.upsert name {} f } := by
    have changed := node_change r n n fun node =>
      { node with delegates := node.delegates.upsert name {} f }
    rwa [if_pos ⟨rfl, h.size ▸ bare.inside⟩] at changed
  refine ⟨?_, by rw [self]⟩
  exact { h with
    size := (Arena.size_change _ _ _).trans h.size
    node := by
      rw [self, h.node]
    others := fun m hm => by
      have changed := node_change r n m fun node =>
        { node with delegates := node.delegates.upsert name {} f }
      rw [if_neg fun both => hm both.1] at changed
      exact changed.trans (h.others m hm)
    entries := by
      rw [self]
      exact h.entries
    fresh := fun i plan hi => ⟨(h.fresh i plan hi).uncached, (h.fresh i plan hi).value,
      (h.fresh i plan hi).raw⟩ }

private theorem register_run {base r : Registry} {n : NodeId} {plans : List ParameterPlan}
    (h : base.Fitting r n plans) (bare : base.Bare n) (name before : String)
    (f : Delegates → Delegates) :
    ∃ after, (do
      n.change fun node => { node with delegates := node.delegates.upsert name {} f }
      Act.debug do return before ++ (← n.displayName) ++ "'" : Act RegistryError Unit) r =
        (.ok (), after) ∧ base.Fitting after n plans ∧
      (after.node n).delegates = (r.node n).delegates.upsert name {} f := by
  have mid := (h.registered bare name f r.log.lines).1
  obtain ⟨shown, named⟩ := Option.isSome_iff_exists.mp (displayName?_of_top (mid.top bare))
  have composed : (do return before ++ (← n.displayName) ++ "'" : Act RegistryError String)
      { r with nodes := r.nodes.change n.index fun node =>
          { node with delegates := node.delegates.upsert name {} f } } =
        (.ok (before ++ shown ++ "'"), { r with nodes := r.nodes.change n.index fun node =>
          { node with delegates := node.delegates.upsert name {} f } }) := by
    rw [Act.bind_run, NodeId.displayName, Act.orEndless_run, named]
    rfl
  obtain ⟨lines, logged⟩ := Act.debug_ok composed
  refine ⟨_, ?_, h.registered bare name f lines⟩
  rw [Act.bind_run, NodeId.change_run]
  exact logged

namespace NodeId

variable {base r : Registry} {n : NodeId} {plans : List ParameterPlan}
  (h : base.Fitting r n plans) (bare : base.Bare n)

include h bare

theorem registerGetter_run (name : String) (getter : Callable) :
    ∃ after, (n.registerGetter name getter : Act RegistryError Unit) r = (.ok (), after) ∧
      base.Fitting after n plans ∧ (after.node n).delegates =
        (r.node n).delegates.upsert name {} ({ · with getter := some getter }) :=
  register_run h bare name _ _

theorem registerSetter_run (name : String) (setter : Callable) :
    ∃ after, (n.registerSetter name setter : Act RegistryError Unit) r = (.ok (), after) ∧
      base.Fitting after n plans ∧ (after.node n).delegates =
        (r.node n).delegates.upsert name {} ({ · with setter := some setter }) :=
  register_run h bare name _ _

end NodeId
end LabRegistry

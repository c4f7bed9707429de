import LabRegistry.Proofs.Engine.Wiring
import LabRegistry.Proofs.Naming.Chain
import LabRegistry.Proofs.Snapshot.ShortForm

/-!
# What a snapshot shows

A snapshot that does not update calls nothing. Where nothing contains itself and chains of parents end,
it succeeds and shows what can be read off the registry: the image of a node is made from those of the
nodes that it holds.
-/
namespace LabRegistry

/-! ## Reading -/

namespace Act

variable {ε α β : Type} {r : Registry}

private theorem mapM_run {f : α → Act ε β} {g : α → β} {xs : List α}
    (h : ∀ x ∈ xs, f x r = (.ok (g x), r)) : xs.mapM f r = (.ok (xs.map g), r) := by
  induction xs with
  | nil => rfl
  | cons x xs ih =>
    have first := h x List.mem_cons_self
    have rest := ih fun y mem => h y (List.mem_cons_of_mem x mem)
    rw [List.mapM_cons, bind_run, first]
    dsimp only
    rw [bind_run, rest]
    rfl

private theorem foldlM_read {f : β → α → Act ε β} {g : β → α → β} {xs : List α}
    (h : ∀ x ∈ xs, ∀ acc, f acc x r = (.ok (g acc x), r)) (acc : β) :
    xs.foldlM f acc r = (.ok (xs.foldl g acc), r) := by
  induction xs generalizing acc with
  | nil => rfl
  | cons x xs ih =>
    rw [List.foldlM_cons, bind_run, h x List.mem_cons_self acc]
    exact ih (fun y mem => h y (List.mem_cons_of_mem x mem)) _

end Act

/-! ## Images -/

namespace Registry

variable (r : Registry)

/-- What a snapshot shows of a parameter, whose full name is known where chains of parents end. -/
def paramImage (p : ParamId) : List (String × Value) :=
  (r.param p).summary ((r.paramName? p).getD "")

/-- What a snapshot shows of a node, given what it shows of the nodes that this one holds. -/
def imageOver (below : NodeId → List (String × Value)) (simplify : Option Bool) (n : NodeId) :
    List (String × Value) :=
  let node := r.node n
  let tag := (classKey, Value.string node.config.classTag)
  let nodes (entries : List (String × NodeId)) :=
    entries.map fun entry => (entry.1, Value.object (below entry.2))
  if simplify.getD node.config.shortSnapshots then
    Entries.enter [tag] ((r.shownParameters n).map (fun entry =>
      (simplifiedKey entry.1 (r.param entry.2).unit, (r.param entry.2).value)) ++
        nodes node.children.entries)
  else
    [tag, ("name", (node.name.map Value.string).getD .null),
      ("parameters", .object (node.parameters.entries.map fun entry =>
        (entry.1, Value.object (r.paramImage entry.2)))),
      ("parameter_nodes", .object (nodes node.children.entries)),
      ("functions", .object (node.functions.keys.map fun name => (name, functionSummary name))),
      ("submodules", .object (nodes node.submodules.entries))]

def imageWithin : Nat → NodeId → List (String × Value)
  | 0, _ => []
  | depth + 1, n => r.imageOver (imageWithin depth) none n

/-- What a snapshot of a node shows. -/
def image (simplify : Option Bool) (n : NodeId) : List (String × Value) :=
  r.imageOver (r.imageWithin r.nodes.size) simplify n

variable {r}

private theorem imageOver_congr {below below' : NodeId → List (String × Value)}
    (simplify : Option Bool)
    {n : NodeId} (same : ∀ m, r.Holds n m → below m = below' m) :
    r.imageOver below simplify n = r.imageOver below' simplify n := by
  have nodes {entries : List (String × NodeId)} (held : ∀ entry ∈ entries, r.Holds n entry.2) :
      (entries.map fun entry => (entry.1, Value.object (below entry.2))) =
        entries.map fun entry => (entry.1, Value.object (below' entry.2)) :=
    List.map_congr_left fun entry mem => by rw [same _ (held entry mem)]
  rw [imageOver, imageOver]
  dsimp only
  rw [nodes fun _ => NodeId.holds_of_child, nodes fun _ => NodeId.holds_of_submodule]

theorem Acyclic.image_eq (h : r.Acyclic) (simplify : Option Bool) (n : NodeId) :
    r.image simplify n = r.imageOver (r.image none) simplify n := by
  refine imageOver_congr simplify fun m edge => ?_
  exact h.within_held (r.imageOver · none) (fun _ _ => rfl)
    (fun _ _ _ same => imageOver_congr none same) edge

theorem paramName?_eq_some (ends : ∀ m, r.ParentsEnd m) (p : ParamId) :
    r.paramName? p = some ((r.paramName? p).getD "") := by
  have known : (r.paramName? p).isSome := by
    cases owned : r.owner? p with
    | none =>
      rw [paramName?, owned]
      rfl
    | some owner => exact (paramName?_isSome_iff owned).mpr (ends owner)
  obtain ⟨name, named⟩ := Option.isSome_iff_exists.mp known
  rw [named]
  rfl

end Registry

/-! ## What images depend on -/

def Parameter.face (param : Parameter) : Parameter :=
  { param with
    getSource := .cache
    setSource := .cache
    validator := .anything
    getParser := none
    setParser := none
    logsChanges := false
    listeners := []
    nextListener := 0 }

def Node.face (node : Node) : Node :=
  { node with functions := .empty, fields := .empty, delegates := .empty }

namespace Registry

/-- The registries differ in nothing but what can be called, what listens, and what nodes and parameters
do not hold. -/
structure SameFace (r other : Registry) : Prop where
  size : other.nodes.size = r.nodes.size
  roots : other.roots = r.roots
  node : ∀ n, (other.node n).face = (r.node n).face
  functions : ∀ n, (other.node n).functions.keys = (r.node n).functions.keys
  param : ∀ p, (other.param p).face = (r.param p).face

namespace SameFace

variable {r other : Registry}

theorem refl (r : Registry) : r.SameFace r := ⟨rfl, rfl, fun _ => rfl, fun _ => rfl, fun _ => rfl⟩

variable (h : r.SameFace other)

include h

theorem names : r.SameNames other where
  size := h.size
  roots := h.roots
  held n := congrArg (·.held) (h.node n)
  parent n := congrArg (·.parent) (h.node n)
  name n := congrArg (·.name) (h.node n)

theorem acyclic (acyclic : r.Acyclic) : other.Acyclic := by
  rw [Acyclic, h.names.holds]
  exact acyclic

private theorem shownParameters (n : NodeId) : other.shownParameters n = r.shownParameters n := by
  have entries : (other.node n).parameters = (r.node n).parameters :=
    congrArg (·.parameters) (h.node n)
  have shown (p : ParamId) : (other.param p).inSnapshot = (r.param p).inSnapshot :=
    congrArg (·.inSnapshot) (h.param p)
  simp only [Registry.shownParameters, entries, shown]

private theorem paramImage (p : ParamId) : other.paramImage p = r.paramImage p := by
  have named : other.paramName? p = r.paramName? p :=
    h.names.paramName? (congrArg (·.name) (h.param p)) (congrArg (·.owner) (h.param p))
  have summary (name : String) : (other.param p).summary name = (r.param p).summary name :=
    congrArg (·.summary name) (h.param p)
  rw [Registry.paramImage, named, summary, Registry.paramImage]

private theorem imageOver : other.imageOver = r.imageOver := by
  funext below simplify n
  have parameters : (other.node n).parameters = (r.node n).parameters :=
    congrArg (·.parameters) (h.node n)
  have children : (other.node n).children = (r.node n).children := congrArg (·.children) (h.node n)
  have submodules : (other.node n).submodules = (r.node n).submodules :=
    congrArg (·.submodules) (h.node n)
  have config : (other.node n).config = (r.node n).config := congrArg (·.config) (h.node n)
  have name : (other.node n).name = (r.node n).name := h.names.name n
  have unit (p : ParamId) : (other.param p).unit = (r.param p).unit :=
    congrArg (·.unit) (h.param p)
  have value (p : ParamId) : (other.param p).value = (r.param p).value :=
    congrArg (·.value) (h.param p)
  simp only [Registry.imageOver, config, parameters, children, submodules, name, h.functions,
    h.shownParameters, unit, value, h.paramImage]

theorem image : other.image = r.image := by
  have within (depth : Nat) : other.imageWithin depth = r.imageWithin depth := by
    induction depth with
    | zero => rfl
    | succ depth ih =>
      funext n
      rw [imageWithin, h.imageOver, ih, imageWithin]
  funext simplify n
  rw [Registry.image, h.imageOver, within, h.size, Registry.image]

end SameFace
end Registry

/-! ## Snapshots without update -/

open Registry

variable {r : Registry} {n : NodeId}

private theorem ParamId.snapshot_run (ends : ∀ m, r.ParentsEnd m) (p : ParamId) :
    p.snapshot false r = (.ok (r.paramImage p), r) := by
  have named : (p.fullName : Act RegistryError String) r = (.ok ((r.paramName? p).getD ""), r) := by
    rw [ParamId.fullName, Act.orEndless_run, paramName?_eq_some ends p]
    rfl
  have run : p.snapshot false = (do
    let param ← p.state
    let name ← p.fullName
    return param.summary name : Act RegistryError (List (String × Value))) := rfl
  rw [run, Act.bind_run, ParamId.state_run]
  dsimp only
  rw [Act.bind_run, named]
  rfl

namespace NodeId

private theorem summaries_run {α : Type} {summary : α → Act RegistryError (List (String × Value))}
    {shown : α → List (String × Value)} {entries : List (String × α)}
    (h : ∀ entry ∈ entries, summary entry.2 r = (.ok (shown entry.2), r)) :
    summaries summary entries r =
      (.ok (.object (entries.map fun entry => (entry.1, .object (shown entry.2)))), r) := by
  rw [summaries, Act.bind_run, Act.mapM_run (g := fun entry => (entry.1, Value.object (shown entry.2)))]
  · rfl
  · intro entry mem
    dsimp only
    rw [Act.bind_run, h entry mem]
    rfl

private theorem addShown_run (members : List (String × Value)) (name : String) (p : ParamId) :
    addShown false members name p r =
      (.ok (if (r.param p).inSnapshot then
        Entries.insert (simplifiedKey name (r.param p).unit) (r.param p).value members
      else members), r) := by
  rw [addShown, Act.bind_run, ParamId.state_run]
  dsimp only
  cases (r.param p).inSnapshot <;> rfl

/-- The shown parameters are entered in order. -/
theorem enter_shownParameters (members : List (String × Value)) :
    (r.node n).parameters.entries.foldl (fun members entry =>
      if (r.param entry.2).inSnapshot then
        Entries.insert (simplifiedKey entry.1 (r.param entry.2).unit) (r.param entry.2).value members
      else members) members =
      Entries.enter members ((r.shownParameters n).map fun entry =>
        (simplifiedKey entry.1 (r.param entry.2).unit, (r.param entry.2).value)) := by
  rw [Entries.enter, shownParameters, List.foldl_map, List.foldl_filter]

private theorem snapshotOver_run (ends : ∀ m, r.ParentsEnd m) {depth : Nat}
    {below : NodeId → List (String × Value)}
    (h : ∀ m, r.Holds n m → snapshotWithin depth {} m r = (.ok (below m), r)) (simplify : Option Bool) :
    snapshotWithin (depth + 1) { simplify } n r = (.ok (r.imageOver below simplify n), r) := by
  rw [snapshotWithin, Act.bind_run, state_run, imageOver]
  dsimp only
  split
  case isTrue short =>
    have entered (members : List (String × Value)) :
        (r.node n).children.entries.foldl (fun members entry =>
          Entries.insert entry.1 (.object (below entry.2)) members) members =
          Entries.enter members ((r.node n).children.entries.map fun entry =>
            (entry.1, .object (below entry.2))) := by
      rw [Entries.enter, List.foldl_map]
    rw [Act.bind_run, Act.foldlM_read fun entry _ members => addShown_run members entry.1 entry.2]
    dsimp only
    rw [enter_shownParameters, Entries.enter_append, ← entered]
    refine Act.foldlM_read (fun entry mem members => ?_) _
    rw [Act.bind_run, h _ (holds_of_child mem)]
    rfl
  case isFalse full =>
    rw [Act.bind_run, summaries_run fun entry _ => ParamId.snapshot_run ends entry.2]
    dsimp only
    rw [Act.bind_run, summaries_run fun entry mem => h _ (holds_of_child mem)]
    dsimp only
    rw [Act.bind_run, summaries_run fun entry mem => h _ (holds_of_submodule mem)]
    rfl

private theorem snapshotWithin_run (acyclic : r.Acyclic) (ends : ∀ m, r.ParentsEnd m) {depth : Nat}
    (deep : r.extent r.Holds n < depth) :
    snapshotWithin depth {} n r = (.ok (r.imageWithin depth n), r) := by
  induction depth generalizing n with
  | zero => omega
  | succ depth ih =>
    refine snapshotOver_run ends (fun m edge => ih ?_) none
    have fewer := acyclic.extent_lt edge
    omega

/-- A snapshot that does not update succeeds and leaves everything as it is. -/
theorem snapshot_run (acyclic : r.Acyclic) (ends : ∀ m, r.ParentsEnd m) (simplify : Option Bool)
    (n : NodeId) : n.snapshot { simplify } r = (.ok (r.image simplify n), r) := by
  rw [snapshot, Act.bind_run, Act.registry_run]
  refine snapshotOver_run ends (fun m edge => snapshotWithin_run acyclic ends ?_) simplify
  have fewer := acyclic.extent_lt edge
  have bound : r.extent r.Holds n ≤ r.nodes.size := extent_le_size n
  omega

end NodeId
end LabRegistry

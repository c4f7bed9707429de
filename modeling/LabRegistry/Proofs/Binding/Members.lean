import LabRegistry.Proofs.Binding.Step

/-!
# Names of members

A name of a node belongs to at most one kind of member. Every step adds at most one name to one of
the five maps, and only if the name is in no other of them. So each way of asking for a member
finds it exactly if the member is of the kind asked for, and searching the maps in another order
gives the same.
-/
namespace LabRegistry

/-- What a name stands for. -/
inductive Found where
  | parameter (p : ParamId)
  | parameterNode (n : NodeId)
  | function (function : Callable)
  | submodule (n : NodeId)
  | field (v : Value)

def Found.kind : Found → MemberKind
  | .parameter _ => .parameter
  | .parameterNode _ => .parameterNode
  | .function _ => .function
  | .submodule _ => .submodule
  | .field _ => .field

def Node.put (node : Node) (name : String) : Found → Node
  | .parameter p => { node with parameters := node.parameters.insert name p }
  | .parameterNode m => { node with children := node.children.insert name m }
  | .function function => { node with functions := node.functions.insert name function }
  | .submodule m => { node with submodules := node.submodules.insert name m }
  | .field v => { node with fields := node.fields.insert name v }

/-- What a name stands for in the map of one kind. -/
def Node.lookup (node : Node) (name : String) : MemberKind → Option Found
  | .parameter => (node.parameters.get? name).map .parameter
  | .parameterNode => (node.children.get? name).map .parameterNode
  | .function => (node.functions.get? name).map .function
  | .submodule => (node.submodules.get? name).map .submodule
  | .field => (node.fields.get? name).map .field

namespace Node

/-- No name is in two of the maps. -/
def Unambiguous (node : Node) : Prop := ∀ name kind kind',
  (node.lookup name kind).isSome → (node.lookup name kind').isSome → kind = kind'

variable {node : Node} {name : String} {kind : MemberKind}

private theorem lookup_put (node : Node) (name : String) (x : Found) (name' : String)
    (kind : MemberKind) :
    (node.put name x).lookup name' kind =
      if name' = name ∧ kind = x.kind then some x else node.lookup name' kind := by
  by_cases same : name' = name
  · cases x <;> cases kind <;> simp [put, lookup, Found.kind, OrderedMap.get?_insert, same]
  · cases x <;> cases kind <;> simp [put, lookup, OrderedMap.get?_insert, same]

private theorem lookup_of_members {after : Node} (h : after.membersOnly = node.membersOnly) :
    after.lookup = node.lookup := by
  show after.membersOnly.lookup = node.membersOnly.lookup
  rw [h]

private theorem lookup_of_kindOf (h : node.kindOf name = some kind) :
    (node.lookup name kind).isSome := by
  unfold kindOf OrderedMap.contains at h
  split_ifs at h
  all_goals
    cases h
    rw [lookup, Option.isSome_map]
    assumption

private theorem lookup_of_kindOf_none (h : node.kindOf name = none) :
    node.lookup name kind = none := by
  unfold kindOf OrderedMap.contains at h
  split_ifs at h
  cases kind
  all_goals
    rw [lookup, Option.map_eq_none_iff, ← Option.not_isSome_iff_eq_none]
    assumption

theorem Unambiguous.kindOf_iff (h : node.Unambiguous) :
    node.kindOf name = some kind ↔ (node.lookup name kind).isSome := by
  constructor
  · exact lookup_of_kindOf
  · intro found
    cases hkind : node.kindOf name with
    | none =>
      rw [lookup_of_kindOf_none hkind] at found
      cases found
    | some kind' => rw [h name kind kind' found (lookup_of_kindOf hkind)]

private theorem Unambiguous.kind_of_admits (h : node.Unambiguous) (admits : node.Admits kind name)
    {kind' : MemberKind} (found : (node.lookup name kind').isSome) : kind' = kind := by
  rcases admits with free | same
  · rw [lookup_of_kindOf_none free] at found
    cases found
  · exact h name kind' kind found (lookup_of_kindOf same)

end Node

/-! ## What operations add -/

namespace Registry

/-- What the operation adds to the maps is at most the name of one member. -/
def AddsAtMost (bound : Option (NodeId × String × MemberKind)) (r after : Registry) : Prop :=
  ∀ n name kind, ((after.node n).lookup name kind).isSome →
    ((r.node n).lookup name kind).isSome ∨ bound = some (n, name, kind)

variable {bound : Option (NodeId × String × MemberKind)} {r after : Registry}

instance : IsPreorder Registry (AddsAtMost bound) where
  refl _ _ _ _ := .inl
  trans _ _ _ h h' n name kind found := by
    rcases h' n name kind found with old | new
    · exact h n name kind old
    · exact .inr new

/-- A step adds at most a name that can be bound. -/
def MemberStep (r after : Registry) : Prop :=
  ∃ bound, AddsAtMost bound r after ∧
    ∀ n name kind, bound = some (n, name, kind) → (r.node n).Admits kind name

private theorem AddsAtMost.step (h : AddsAtMost none r after) : MemberStep r after :=
  ⟨none, h, fun _ _ _ new => by cases new⟩

private theorem addsAtMost_of_members
    (h : ∀ n, (after.node n).membersOnly = (r.node n).membersOnly) :
    AddsAtMost bound r after := by
  intro n name kind found
  rw [Node.lookup_of_members (h n)] at found
  exact .inl found

private theorem SameTree.addsAtMost (h : r.SameTree after) : AddsAtMost bound r after :=
  addsAtMost_of_members h.members

private theorem MemberStep.unambiguous (h : MemberStep r after)
    (clear : ∀ n, (r.node n).Unambiguous)
    (n : NodeId) : (after.node n).Unambiguous := by
  obtain ⟨bound, adds, admits⟩ := h
  intro name kind kind' found found'
  rcases adds n name kind found with old | new
  · rcases adds n name kind' found' with old' | new'
    · exact clear n name kind kind' old old'
    · exact (clear n).kind_of_admits (admits n name kind' new') old
  · rcases adds n name kind' found' with old' | new'
    · exact ((clear n).kind_of_admits (admits n name kind new) old').symm
    · rw [new] at new'
      cases new'
      rfl

end Registry

open Registry

/-! ## What commands add -/

section Operations

variable {n : NodeId} {name : String} {kind : MemberKind} {r : Registry}

private theorem put_adds (n : NodeId) (name : String) (x : Found) :
    (n.change (·.put name x) : Act RegistryError Unit).Keeps
      (AddsAtMost (some (n, name, x.kind))) := by
  refine .change fun r m name' kind found => ?_
  rw [node_change] at found
  split at found
  case isTrue same =>
    rw [Node.lookup_put] at found
    split at found
    case isTrue own =>
      rw [same.1, own.1, own.2]
      exact .inr rfl
    case isFalse => exact .inl found
  case isFalse => exact .inl found

private theorem guarded_members {act : Act RegistryError Unit}
    (adds : act.Keeps (AddsAtMost (some (n, name, kind)))) :
    MemberStep r ((do n.requireFree name kind; act) r).2 := by
  rw [Act.bind_run]
  by_cases h : (r.node n).Admits kind name
  · rw [NodeId.requireFree_of_admits h]
    refine ⟨_, adds r, fun m name' kind' same => ?_⟩
    cases same
    exact h
  · obtain ⟨existing, _, refused⟩ := NodeId.requireFree_of_not_admits h
    rw [refused]
    exact AddsAtMost.step (refl r)

private theorem addParameterAs_members (n : NodeId) (name : String) (p : ParamId) (r : Registry) :
    MemberStep r ((n.addParameterAs name p) r).2 := by
  have joins : (p.joinNode n name : Act RegistryError Unit).Keeps
      (AddsAtMost (some (n, name, .parameter))) :=
    (p.joinNode_sameNodes n name).tree.mono fun _ _ => SameTree.addsAtMost
  exact guarded_members (.bind joins fun _ => put_adds n name (.parameter p))

private theorem addFunction_members (n : NodeId) (name : String) (function : Callable)
    (r : Registry) : MemberStep r ((n.addFunction name function) r).2 :=
  guarded_members (put_adds n name (.function function))

private theorem attach_adds {child : NodeId} {put : Node → Node}
    (adds : (n.change put : Act RegistryError Unit).Keeps (AddsAtMost (some (n, name, kind)))) :
    (do
      n.requireNoCycle name child
      child.joinParent n name
      n.change put : Act RegistryError Unit).Keeps (AddsAtMost (some (n, name, kind))) := by
  refine .bind (.read fun r => ?_) fun _ => .bind (fun r => ?_) fun _ => adds
  · by_cases enclosed : r.Encloses child n
    · rw [NodeId.requireNoCycle_of_encloses enclosed]
    · rw [NodeId.requireNoCycle_of_not_encloses enclosed]
  · exact addsAtMost_of_members (NodeId.joinParent_outcome child n name r).joined.members

private theorem addChild_members (n child : NodeId) (name : String) (r : Registry) :
    MemberStep r ((n.addChild name child) r).2 :=
  guarded_members (attach_adds (put_adds n name (.parameterNode child)))

private theorem addSubmodule_members (n child : NodeId) (name : String) (r : Registry) :
    MemberStep r ((n.addSubmodule name child) r).2 :=
  guarded_members (attach_adds (put_adds n name (.submodule child)))

/-- Writing a value has a guard of its own, since what it does depends on the kind and on whether
access goes through to parameters. -/
private theorem assign_members (n : NodeId) (name : String) (v : Value) (r : Registry) :
    MemberStep r ((n.assign name v) r).2 := by
  have writes (h : (r.node n).Admits .field name) : MemberStep r
      ((n.change (·.put name (.field v)) : Act RegistryError Unit) r).2 := by
    refine ⟨_, put_adds n name (.field v) r, fun m name' kind' same => ?_⟩
    cases same
    exact h
  have sets : MemberStep r ((n.set name v) r).2 :=
    AddsAtMost.step (set_sameNodes n name v r).tree.addsAtMost
  have fails (existing : MemberKind) :
      MemberStep r ((n.failTaken name existing : Act RegistryError Unit) r).2 := by
    rw [NodeId.failTaken, NodeId.failNamed_run]
    exact AddsAtMost.step (refl r)
  rw [NodeId.assign, Act.bind_run, NodeId.state_run]
  cases hkind : (r.node n).kindOf name with
  | none =>
    simp only [hkind]
    exact writes (.inl hkind)
  | some existing =>
    cases existing with
    | field =>
      simp only [hkind]
      exact writes (.inr hkind)
    | parameter =>
      cases hforwards : (r.node n).config.forwards with
      | true =>
        simp only [hkind, hforwards]
        exact sets
      | false =>
        simp only [hkind, hforwards]
        exact fails .parameter
    | parameterNode =>
      simp only [hkind]
      exact fails .parameterNode
    | function =>
      simp only [hkind]
      exact fails .function
    | submodule =>
      simp only [hkind]
      exact fails .submodule

private theorem removeChild_members (n : NodeId) (name : String) (r : Registry) :
    MemberStep r ((n.removeChild name) r).2 := by
  rcases NodeId.removeChild_outcome n name r with same | ⟨child, _, removed⟩
  · rw [same]
    exact AddsAtMost.step (refl r)
  · refine AddsAtMost.step fun m name' kind found => .inl ?_
    have members := removed.members m
    split at members
    · let erased : Node := { r.node m with children := (r.node m).children.erase name }
      have members : (((n.removeChild name) r).2.node m).membersOnly = erased.membersOnly := members
      rw [Node.lookup_of_members members] at found
      cases kind with
      | parameterNode =>
        rw [Node.lookup, Option.isSome_map, OrderedMap.get?_erase] at found
        split at found
        · cases found
        · rwa [Node.lookup, Option.isSome_map]
      | _ => exact found
    · rwa [Node.lookup_of_members members] at found

private theorem createNode_members (handle : String) (name : Option String) (config : NodeConfig)
    (r : Registry) : MemberStep r ((Command.createNode handle name config).act r).2 := by
  refine AddsAtMost.step fun m name' kind found => .inl ?_
  have fresh := node_push r { name, config } m
  have found : ((node { r with nodes := r.nodes.push { name, config } } m).lookup name' kind).isSome :=
    found
  rw [fresh] at found
  split at found
  · cases kind <;> cases found
  · exact found

end Operations

private theorem Command.act_members (command : Command) (r : Registry) :
    MemberStep r (command.act r).2 := by
  have same {act : Act RegistryError Unit} (keeps : act.Keeps SameTree) :
      MemberStep r (act r).2 := AddsAtMost.step (keeps r).addsAtMost
  have setting {n : NodeId} {f : Node → Node}
      (members : ∀ node, (f node).membersOnly = node.membersOnly)
      (parent : ∀ node, (f node).parent = node.parent) :
      (n.change f : Act RegistryError Unit).Keeps SameTree :=
    .change fun _ => sameTree_change members parent
  have effects {α : Type} {act : Act RegistryError α} (keeps : act.Keeps Effects) :
      act.Keeps SameTree := keeps.sameNodes.tree
  have nodes {after : Registry} (h : after.nodes = r.nodes) : MemberStep r after := by
    refine AddsAtMost.step (addsAtMost_of_members fun n => ?_)
    rw [node, h, node]
  cases command with
  | createNode handle name config => exact createNode_members handle name config r
  | createParameter handle plan => exact nodes (createParameter_releases handle plan r).nodes
  | keep handle n => exact nodes rfl
  | drop handle => exact nodes (drop_releases handle r).nodes
  | bind n name attr =>
    cases attr with
    | value v => exact assign_members n name v r
    | parameter p => exact addParameterAs_members n name p r
    | node child => exact addChild_members n child name r
    | field v => exact assign_members n name v r
  | addParameter n p =>
    rw [act, NodeId.addParameter, Act.bind_run, ParamId.state_run]
    exact addParameterAs_members n (r.param p).name p r
  | addChild n name child => exact addChild_members n child name r
  | addSubmodule n name child => exact addSubmodule_members n child name r
  | addFunction n name function => exact addFunction_members n name function r
  | removeChild n name =>
    rw [act, Act.discard_run]
    exact removeChild_members n name r
  | rename n name => exact same (setting (fun _ => rfl) fun _ => rfl)
  | setForwards n on => exact same (setting (fun _ => rfl) fun _ => rfl)
  | setShortSnapshots n on => exact same (setting (fun _ => rfl) fun _ => rfl)
  | registerGetter n name getter => exact same (register_tree n name _ _ _ _)
  | registerSetter n name setter => exact same (register_tree n name _ _ _ _)
  | request asked => exact same (.bind (effects (Effects.perform asked)) fun _ => .pure _)
  | connect p target link => exact same (connect_sameNodes p target link).tree
  | listen p callback => exact same (.bind (effects (Effects.listen p _)) fun _ => .pure _)
  | disconnect p id => exact same (.bind (effects (Effects.disconnect p id)) fun _ => .pure _)
  | disconnectAll p => exact same (effects (Effects.disconnectAll p))

/-- Whatever was done, no name of a node is in two of its maps. -/
theorem Registry.unambiguous_run (log : Log) (now : Instant) (commands : List Command)
    (n : NodeId) :
    (((start log now).run commands).node n).Unambiguous := by
  revert n
  apply run_induction (P := fun r => ∀ n, (r.node n).Unambiguous)
  · intro n name kind _ found
    rw [node_start] at found
    cases kind <;> cases found
  · intro r command clear n
    exact step_of_act (P := fun after => (after.node n).Unambiguous) (clear n)
      ((command.act_members r).unambiguous clear n)

end LabRegistry

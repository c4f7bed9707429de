import LabRegistry.Proofs.Containment.Search
import LabRegistry.Proofs.Engine.Effects
import LabRegistry.Workbench

/-!
# What operations leave of the nodes

Three relations between a registry before and after an operation, each weaker than the one before
it: the nodes are the same, each node has the same members and parent, and each node holds the
same nodes and has the same parent.
-/
namespace LabRegistry

def Node.membersOnly (node : Node) : Node :=
  { node with name := none, config := {}, delegates := .empty, parent := none }

namespace Registry

/-- The nodes are the same, and so is what holds them from outside. -/
structure SameNodes (r after : Registry) : Prop where
  nodes : after.nodes = r.nodes
  roots : after.roots = r.roots

/-- Every node has the same members and parent. -/
structure SameTree (r after : Registry) : Prop where
  size : after.nodes.size = r.nodes.size
  roots : after.roots = r.roots
  members : ∀ n, (after.node n).membersOnly = (r.node n).membersOnly
  parent : ∀ n, (after.node n).parent = (r.node n).parent

/-- Every node holds the same nodes and has the same parent. -/
structure SameLinks (r after : Registry) : Prop where
  size : after.nodes.size = r.nodes.size
  roots : after.roots = r.roots
  held : ∀ n, after.held n = r.held n
  parent : ∀ n, (after.node n).parent = (r.node n).parent

instance : IsPreorder Registry SameNodes where
  refl _ := ⟨rfl, rfl⟩
  trans _ _ _ h h' := ⟨h'.nodes.trans h.nodes, h'.roots.trans h.roots⟩

instance : IsPreorder Registry SameTree where
  refl _ := ⟨rfl, rfl, fun _ => rfl, fun _ => rfl⟩
  trans _ _ _ h h' := ⟨h'.size.trans h.size, h'.roots.trans h.roots,
    fun n => (h'.members n).trans (h.members n), fun n => (h'.parent n).trans (h.parent n)⟩

instance : IsPreorder Registry SameLinks where
  refl _ := ⟨rfl, rfl, fun _ => rfl, fun _ => rfl⟩
  trans _ _ _ h h' := ⟨h'.size.trans h.size, h'.roots.trans h.roots,
    fun n => (h'.held n).trans (h.held n), fun n => (h'.parent n).trans (h.parent n)⟩

variable {r after : Registry}

theorem held_of_members {n : NodeId} (h : (after.node n).membersOnly = (r.node n).membersOnly) :
    after.held n = r.held n := by
  show (after.node n).membersOnly.held = (r.node n).membersOnly.held
  rw [h]

theorem SameNodes.tree (h : r.SameNodes after) : r.SameTree after where
  size := by rw [h.nodes]
  roots := h.roots
  members n := by rw [node, h.nodes, node]
  parent n := by rw [node, h.nodes, node]

theorem SameTree.links (h : r.SameTree after) : r.SameLinks after where
  size := h.size
  roots := h.roots
  held n := held_of_members (h.members n)
  parent := h.parent

/-! ## Single nodes -/

theorem node_change (r : Registry) (n m : NodeId) (f : Node → Node) :
    node { r with nodes := r.nodes.change n.index f } m =
      if m = n ∧ n.index < r.nodes.size then f (r.node m) else r.node m := by
  by_cases same : m = n
  · subst same
    by_cases hm : m.index < r.nodes.size
    · simp [node, hm, Arena.get_change_self hm]
    · have size : (r.nodes.change m.index f).size ≤ m.index := by
        rw [Arena.size_change]
        omega
      rw [if_neg (fun both => hm both.2), node_of_size_le (Nat.le_of_not_lt hm)]
      exact node_of_size_le (r := { r with nodes := r.nodes.change m.index f }) size
  · have differ : n.index ≠ m.index := by
      intro index
      apply same
      cases n
      cases m
      cases index
      rfl
    rw [if_neg (fun both => same both.1)]
    exact Arena.get_change_of_ne differ r.nodes f

theorem node_push (r : Registry) (fresh : Node) (m : NodeId) :
    node { r with nodes := r.nodes.push fresh } m =
      if m.index = r.nodes.size then fresh else r.node m := by
  by_cases new : m.index = r.nodes.size
  · rw [if_pos new, node, new]
    exact Arena.get_push_size r.nodes fresh
  · rw [if_neg new]
    by_cases old : m.index < r.nodes.size
    · exact Arena.get_push_of_lt old fresh
    · have size : (r.nodes.push fresh).size ≤ m.index := by
        rw [Arena.size_push]
        omega
      rw [node_of_size_le (Nat.le_of_not_lt old)]
      exact node_of_size_le (r := { r with nodes := r.nodes.push fresh }) size

/-- Only the nodes of the sequences matter for what objects hold. -/
theorem heldByObject_of_eq (owner : ∀ s, (after.sequence s).node = (r.sequence s).node) :
    after.heldByObject = r.heldByObject := by
  funext object
  cases object with
  | sequence s => exact congrArg ([·]) (owner s)
  | station station =>
    show [_, (after.sequence station.sequence).node, _] = _
    rw [owner]
    rfl
  | _ => rfl

theorem roots_of_eq (inUse : after.inUse = r.inUse)
    (handles : after.bench.handles = r.bench.handles)
    (owner : ∀ s, (after.sequence s).node = (r.sequence s).node) : after.roots = r.roots := by
  rw [roots, inUse, handles, heldByObject_of_eq owner, roots]

theorem sameTree_change {n : NodeId} {f : Node → Node}
    (members : ∀ node, (f node).membersOnly = node.membersOnly)
    (parent : ∀ node, (f node).parent = node.parent) :
    r.SameTree { r with nodes := r.nodes.change n.index f } where
  size := Arena.size_change _ _ _
  roots := roots_of_eq rfl rfl fun _ => rfl
  members m := by
    rw [node_change]
    split
    · exact members _
    · rfl
  parent m := by
    rw [node_change]
    split
    · exact parent _
    · rfl

theorem sameLinks_change {n : NodeId} {f : Node → Node} (held : ∀ node, (f node).held = node.held)
    (parent : ∀ node, (f node).parent = node.parent) :
    r.SameLinks { r with nodes := r.nodes.change n.index f } where
  size := Arena.size_change _ _ _
  roots := roots_of_eq rfl rfl fun _ => rfl
  held m := by
    rw [Registry.held, node_change]
    split
    · exact held _
    · rfl
  parent m := by
    rw [node_change]
    split
    · exact parent _
    · rfl

/-! ## Handles -/

def keep (r : Registry) (handle : String) (object : Object) : Registry :=
  { r with bench := { r.bench with handles := r.bench.handles.insert handle object } }

theorem isAlive_keep {handle : String} {object : Object} {n : NodeId}
    (h : n ∈ r.heldByObject object) : (r.keep handle object).isAlive n = true := by
  refine isAlive_iff.mpr ⟨n, List.mem_append_right _ ?_, .refl⟩
  exact List.mem_flatMap.mpr ⟨object, OrderedMap.mem_values_insert_self _ _ _, h⟩

theorem values_keep {handle : String} (free : r.bench.handles.contains handle = false)
    (object : Object) :
    (r.keep handle object).bench.handles.values = r.bench.handles.values ++ [object] := by
  have fresh : handle ∉ Entries.keys r.bench.handles.entries := by
    intro mem
    rw [OrderedMap.contains_iff_mem_keys.mpr mem] at free
    cases free
  have entered := congrArg (List.map Prod.snd) (@Entries.insert_of_notMem _ _ object _ fresh)
  rwa [List.map_append] at entered

theorem roots_keep {handle : String} (free : r.bench.handles.contains handle = false)
    (object : Object) : (r.keep handle object).roots = r.roots ++ r.heldByObject object := by
  rw [roots, values_keep free, List.flatMap_append, ← List.append_assoc, List.flatMap_singleton]
  rfl

end Registry

/-! ## Operations that do not touch nodes -/

open Registry

theorem Effect.sameNodes {r after : Registry} (h : Effect r after) : r.SameNodes after := by
  cases h with
  | duration s fixedDuration =>
    refine ⟨rfl, roots_of_eq rfl rfl fun t => ?_⟩
    rw [sequence_change]
    split <;> rfl
  | _ => exact ⟨rfl, roots_of_eq rfl rfl fun _ => rfl⟩

theorem Effects.sameNodes {r after : Registry} (h : Effects r after) : r.SameNodes after := by
  induction h with
  | refl => exact refl r
  | tail _ effect ih => exact IsTrans.trans _ _ _ ih effect.sameNodes

namespace Act.Keeps

variable {ε α : Type}

theorem sameNodes {act : Act ε α} (h : act.Keeps Effects) : act.Keeps SameNodes :=
  h.mono fun _ _ => Effects.sameNodes

theorem tree {act : Act ε α} (h : act.Keeps SameNodes) : act.Keeps SameTree :=
  h.mono fun _ _ => SameNodes.tree

theorem links {act : Act ε α} (h : act.Keeps SameTree) : act.Keeps SameLinks :=
  h.mono fun _ _ => SameTree.links

theorem logged {level : LogLevel} {text : Act ε String} (h : text.Keeps SameNodes) :
    (Act.writeLog level text).Keeps SameNodes :=
  writeLog h fun _ _ => ⟨rfl, roots_of_eq rfl rfl fun _ => rfl⟩

end Act.Keeps

theorem ParamId.joinNode_sameNodes {ε : Type} (p : ParamId) (n : NodeId) (name : String) :
    (p.joinNode n name : Act ε Unit).Keeps SameNodes := by
  have text (before after : String) :
      (do return before ++ (← p.fullName) ++ after : Act ε String).Keeps SameNodes :=
    .bind (.orEndless _) fun _ => .pure _
  refine .bind (.read fun _ => rfl) fun param => ?_
  dsimp only
  split
  · exact .logged (text _ _)
  · refine .bind (.read fun _ => rfl) fun node => .bind ?_ fun _ => ?_
    · exact .change fun r => ⟨rfl, roots_of_eq rfl rfl fun _ => rfl⟩
    · split
      · exact .logged (text _ _)
      · exact .pure _

end LabRegistry

import LabRegistry.Proofs.Binding.Command
import LabRegistry.Proofs.Binding.Outcome

/-!
# What a step does to the links

Every command changes the links between nodes in few ways, which `LinkStep` lists: at most the
bound node gets a new holder and a first parent, and whatever a binding displaces keeps its
parent. All that follows about links goes through `step_links`.
-/
namespace LabRegistry

def Command.bound? : Command → Option (NodeId × NodeId)
  | bind n _ (.node child) => some (n, child)
  | addChild n _ child => some (n, child)
  | addSubmodule n _ child => some (n, child)
  | _ => none

private theorem Command.mem_nodes_of_bound {command : Command} {n child : NodeId}
    (h : command.bound? = some (n, child)) : n ∈ command.nodes ∧ child ∈ command.nodes := by
  cases command with
  | bind m name attr => cases attr <;> simp_all [bound?, nodes]
  | _ => simp_all [bound?, nodes]

namespace Registry

/-- The nodes that anything refers to exist. -/
structure InRange (r : Registry) : Prop where
  roots : ∀ n ∈ r.roots, n.index < r.nodes.size
  held : ∀ n m, r.Holds n m → m.index < r.nodes.size
  parent : ∀ n p, (r.node n).parent = some p → p.index < r.nodes.size

/-- How the links after a step may differ from those before it. -/
structure LinkStep (bound : Option (NodeId × NodeId)) (r after : Registry) : Prop where
  size : r.nodes.size ≤ after.nodes.size
  roots : ∀ n ∈ after.roots,
    r.isAlive n = true ∨ r.nodes.size ≤ n.index ∧ n.index < after.nodes.size
  held : ∀ n m, after.Holds n m → r.Holds n m ∨ bound = some (n, m) ∧ ¬ r.Encloses m n
  parent : ∀ m p, (after.node m).parent = some p → (r.node m).parent = some p ∨
    bound = some (p, m) ∧ ¬ r.Encloses m p ∧ r.parent? m = none ∧
      (after.Holds p m ∨ ∃ x, after.path? x = none)
  kept : ∀ n m, r.Holds n m → (after.node m).parent = some n →
    after.Holds n m ∨ ∃ child, bound = some (n, child)

variable {r after : Registry} {bound : Option (NodeId × NodeId)}

theorem isAlive_of_mem_roots {n : NodeId} (h : n ∈ r.roots) : r.isAlive n = true :=
  isAlive_iff.mpr ⟨n, h, .refl⟩

theorem InRange.isAlive (h : r.InRange) {n : NodeId} (alive : r.isAlive n = true) :
    n.index < r.nodes.size := by
  obtain ⟨root, hroot, path⟩ := isAlive_iff.mp alive
  cases path with
  | refl => exact h.roots n hroot
  | tail _ edge => exact h.held _ n edge

private theorem SameLinks.step (h : r.SameLinks after) : LinkStep bound r after where
  size := h.size.ge
  roots n hn := .inl (isAlive_of_mem_roots (h.roots ▸ hn))
  held n m edge := .inl (by rwa [Holds, h.held n] at edge)
  parent m p link := .inl ((h.parent m).symm.trans link)
  kept n m edge _ := .inl (by rwa [Holds, h.held n])

end Registry

open Registry

/-! ## Commands that leave the links alone -/

theorem addParameterAs_links (n : NodeId) (name : String) (p : ParamId) :
    (n.addParameterAs name p).Keeps SameLinks :=
  .bind (.read (n.requireFree_read name .parameter)) fun _ =>
    .bind (p.joinNode_sameNodes n name).tree.links fun _ =>
      .change fun _ => sameLinks_change (fun _ => rfl) fun _ => rfl

theorem addFunction_links (n : NodeId) (name : String) (function : Callable) :
    (n.addFunction name function).Keeps SameLinks :=
  .bind (.read (n.requireFree_read name .function)) fun _ =>
    .change fun _ => sameLinks_change (fun _ => rfl) fun _ => rfl

theorem set_sameNodes (n : NodeId) (name : String) (v : Value) :
    (n.set name v).Keeps SameNodes :=
  Act.Keeps.sameNodes (.bind (Effects.parameter n name) fun p => Effects.set p v)

private theorem failTaken_links {α : Type} (n : NodeId) (name : String) (existing : MemberKind) :
    (n.failTaken name existing : Act RegistryError α).Keeps SameLinks :=
  .bind (.orEndless _) fun _ => .fail _

theorem assign_links (n : NodeId) (name : String) (v : Value) :
    (n.assign name v).Keeps SameLinks := by
  refine .bind (.read fun _ => rfl) fun node => ?_
  split
  · exact (set_sameNodes n name v).tree.links
  · exact .change fun _ => sameLinks_change (fun _ => rfl) fun _ => rfl
  · exact .change fun _ => sameLinks_change (fun _ => rfl) fun _ => rfl
  · exact failTaken_links n name _

theorem register_tree (n : NodeId) (name : String) (given : Delegates → Delegates)
    (before between after : String) :
    (do
      n.change fun node => { node with delegates := node.delegates.upsert name {} given }
      Act.debug do return before ++ name ++ between ++ (← n.displayName) ++ after :
        Act RegistryError Unit).Keeps SameTree :=
  .bind (.change fun _ => sameTree_change (fun _ => rfl) fun _ => rfl) fun _ =>
    (Act.Keeps.logged (.bind (.orEndless _) fun _ => .pure _)).tree

theorem connect_sameNodes (p target : ParamId) (link : Link) :
    (p.connect target link).Keeps SameNodes :=
  Act.Keeps.sameNodes (Effects.discipline.connect Effects.set p target link)

/-! ## Commands on handles -/

/-- The nodes are the same, and nothing more is held from outside. -/
structure Releases (r after : Registry) : Prop where
  nodes : after.nodes = r.nodes
  roots : ∀ n ∈ after.roots, n ∈ r.roots

instance : IsPreorder Registry Releases where
  refl _ := ⟨rfl, fun _ => id⟩
  trans _ _ _ h h' := ⟨h'.nodes.trans h.nodes, fun n hn => h.roots n (h'.roots n hn)⟩

private def withHandles (r : Registry) (handles : OrderedMap Object) : Registry :=
  { r with bench := { r.bench with handles } }

private theorem mem_roots_withHandles {r : Registry} {handles : OrderedMap Object} {n : NodeId} :
    n ∈ (withHandles r handles).roots ↔
      n ∈ r.inUse ∨ ∃ o ∈ handles.values, n ∈ r.heldByObject o := by
  have object : (withHandles r handles).heldByObject = r.heldByObject :=
    heldByObject_of_eq fun _ => rfl
  rw [roots, object, List.mem_append, List.mem_flatMap]
  rfl

private theorem mem_roots_store {r : Registry} {handle : String} {object : Object} {n : NodeId}
    (h : n ∈ (withHandles r (r.bench.handles.insert handle object)).roots) :
    n ∈ r.roots ∨ n ∈ r.heldByObject object := by
  rcases mem_roots_withHandles.mp h with used | ⟨o, ho, held⟩
  · exact .inl (mem_roots_withHandles.mpr (.inl used))
  · rcases OrderedMap.mem_of_mem_values_insert ho with rfl | old
    · exact .inr held
    · exact .inl (mem_roots_withHandles.mpr (.inr ⟨o, old, held⟩))

private theorem mem_roots_drop {r : Registry} {handle : String} {n : NodeId}
    (h : n ∈ (withHandles r (r.bench.handles.erase handle)).roots) : n ∈ r.roots := by
  rcases mem_roots_withHandles.mp h with used | ⟨o, ho, held⟩
  · exact mem_roots_withHandles.mpr (.inl used)
  · exact mem_roots_withHandles.mpr (.inr ⟨o, OrderedMap.mem_of_mem_values_erase ho, held⟩)

theorem createParameter_releases (handle : String) (plan : ParameterPlan) :
    (Command.createParameter handle plan).act.Keeps Releases := by
  have same : plan.create.Keeps SameNodes := by
    have push : (do
        let now ← Act.readClock
        let r ← Act.registry
        Act.change fun r => { r with params := r.params.push (plan.toParameter now) }
        return ⟨r.params.size⟩ : Act RegistryError ParamId).Keeps SameNodes :=
      .bind (Act.Keeps.sameNodes Effects.readClock) fun _ => .bind .registry fun _ =>
        .bind (.change fun _ => ⟨rfl, roots_of_eq rfl rfl fun _ => rfl⟩) fun _ => .pure _
    rw [ParameterPlan.create]
    cases plan.validator.validate plan.initial with
    | error reason => exact .bind (.fail _) fun _ => push
    | ok _ => exact push
  have releases : plan.create.Keeps Releases :=
    same.mono fun _ _ h => ⟨h.nodes, fun n hn => h.roots ▸ hn⟩
  refine .bind releases fun p => .change fun r => ⟨rfl, fun n hn => ?_⟩
  rcases mem_roots_store hn with old | held
  · exact old
  · cases held

theorem drop_releases (handle : String) : (Command.drop handle).act.Keeps Releases := by
  refine .bind (.bind (.read fun _ => rfl) fun _ => .bind ?_ fun _ => .pure _) fun _ => .pure _
  exact .change fun _ => ⟨rfl, fun _ hn => mem_roots_drop hn⟩

private theorem linkStep_of_nodes {r after : Registry} {bound : Option (NodeId × NodeId)}
    (nodes : after.nodes = r.nodes) (roots : ∀ n ∈ after.roots, r.isAlive n = true) :
    LinkStep bound r after where
  size := by rw [nodes]
  roots n hn := .inl (roots n hn)
  held n m edge := .inl (by rwa [Holds, held, node, nodes] at edge)
  parent m p link := .inl (by rwa [node, nodes] at link)
  kept n m edge _ := .inl (by rwa [Holds, held, node, nodes])

private theorem keep_step (handle : String) (n : NodeId) (bound : Option (NodeId × NodeId))
    {r : Registry} (alive : r.isAlive n = true) :
    LinkStep bound r ((Command.keep handle n).act r).2 := by
  refine linkStep_of_nodes rfl fun m hm => ?_
  rcases mem_roots_store hm with old | new
  · exact isAlive_of_mem_roots old
  · rw [heldByObject, List.mem_singleton] at new
    rw [new]
    exact alive

private theorem createNode_step (handle : String) (name : Option String) (config : NodeConfig)
    (bound : Option (NodeId × NodeId)) (r : Registry) :
    LinkStep bound r ((Command.createNode handle name config).act r).2 := by
  let grown : Registry := { r with nodes := r.nodes.push { name, config } }
  have size : grown.nodes.size = r.nodes.size + 1 := Arena.size_push _ _
  have fresh (m : NodeId) : grown.node m =
      if m.index = r.nodes.size then { name, config } else r.node m := node_push r _ m
  have same (m : NodeId) : grown.held m = r.held m ∧
      ∀ p, (grown.node m).parent = some p → (r.node m).parent = some p := by
    rw [held, fresh]
    split
    case isTrue new =>
      rw [held_of_size_le new.ge]
      exact ⟨rfl, fun p link => by cases link⟩
    case isFalse => exact ⟨rfl, fun p link => link⟩
  have step : LinkStep bound r (withHandles grown
      (grown.bench.handles.insert handle (.node ⟨r.nodes.size⟩))) := by
    refine ⟨?_, ?_, ?_, ?_, ?_⟩
    · exact (Nat.le_succ _).trans size.ge
    · intro n hn
      rcases mem_roots_store hn with old | new
      · have old : n ∈ r.roots := by rwa [roots_of_eq rfl rfl fun _ => rfl] at old
        exact .inl (isAlive_of_mem_roots old)
      · rw [heldByObject, List.mem_singleton] at new
        rw [new]
        exact .inr ⟨le_rfl, size.ge⟩
    · intro n m edge
      have edge : m ∈ grown.held n := edge
      rw [(same n).1] at edge
      exact .inl edge
    · intro m p link
      exact .inl ((same m).2 p link)
    · intro n m edge _
      have kept : m ∈ grown.held n := by rwa [(same n).1]
      exact .inl kept
  exact step

/-! ## Commands that change links -/

section Attach

variable {n child : NodeId} {kind : MemberKind} {name : String} {put : Node → Node} {r : Registry}

/-- `put` enters the child into what a node holds and does nothing else to the links. -/
private structure Enters (child : NodeId) (put : Node → Node) : Prop where
  entered : ∀ node, child ∈ (put node).held
  held : ∀ node, ∀ m ∈ (put node).held, m = child ∨ m ∈ node.held
  parent : ∀ node, (put node).parent = node.parent

private theorem enters_children (child : NodeId) (name : String) :
    Enters child fun node => { node with children := node.children.insert name child } where
  entered node := List.mem_append_left _ (OrderedMap.mem_values_insert_self _ _ _)
  held node m hm := by
    rcases List.mem_append.mp hm with hm | hm
    · rcases OrderedMap.mem_of_mem_values_insert hm with new | old
      · exact .inl new
      · exact .inr (List.mem_append_left _ old)
    · exact .inr (List.mem_append_right _ hm)
  parent _ := rfl

private theorem enters_submodules (child : NodeId) (name : String) :
    Enters child fun node => { node with submodules := node.submodules.insert name child } where
  entered node := List.mem_append_right _ (OrderedMap.mem_values_insert_self _ _ _)
  held node m hm := by
    rcases List.mem_append.mp hm with hm | hm
    · exact .inr (List.mem_append_left _ hm)
    · rcases OrderedMap.mem_of_mem_values_insert hm with new | old
      · exact .inl new
      · exact .inr (List.mem_append_right _ old)
  parent _ := rfl

private theorem joined_step {mid : Registry} (free : ¬ r.Encloses child n)
    (joined : NodeId.Joined child n r mid) (path : mid.path? child = none) :
    LinkStep (some (n, child)) r mid := by
  have held (m : NodeId) : mid.held m = r.held m := held_of_members (joined.members m)
  refine ⟨joined.size.ge, ?_, ?_, ?_, ?_⟩
  · intro m hm
    exact .inl (isAlive_of_mem_roots (joined.roots ▸ hm))
  · intro a m edge
    exact .inl (by rwa [Holds, held a] at edge)
  · intro m p link
    rcases joined.parent m p link with old | ⟨rfl, rfl, first⟩
    · exact .inl old
    · exact .inr ⟨rfl, free, first, .inr ⟨m, path⟩⟩
  · intro a m edge _
    exact .inl (by rwa [Holds, held a])

private theorem entered_step {mid : Registry} (enters : Enters child put)
    (inside : n.index < r.nodes.size) (free : ¬ r.Encloses child n)
    (joined : NodeId.Joined child n r mid) :
    LinkStep (some (n, child)) r { mid with nodes := mid.nodes.change n.index put } := by
  set after : Registry := { mid with nodes := mid.nodes.change n.index put }
  have node (m : NodeId) : after.node m = if m = n then put (mid.node m) else mid.node m := by
    have change := node_change mid n m put
    simpa [joined.size ▸ inside] using change
  have bound : child ∈ after.held n := by
    rw [Registry.held, node, if_pos rfl]
    exact enters.entered _
  have parent (m : NodeId) : (after.node m).parent = (mid.node m).parent := by
    rw [node]
    split
    · exact enters.parent _
    · rfl
  have other {a : NodeId} (ha : a ≠ n) : after.held a = r.held a := by
    rw [Registry.held, node, if_neg ha]
    exact held_of_members (joined.members a)
  have roots : after.roots = r.roots := (roots_of_eq rfl rfl fun _ => rfl).trans joined.roots
  refine ⟨?_, ?_, ?_, ?_, ?_⟩
  · exact ((Arena.size_change _ _ _).trans joined.size).ge
  · intro m hm
    exact .inl (isAlive_of_mem_roots (roots ▸ hm))
  · intro a m edge
    by_cases ha : a = n
    · subst ha
      rw [Holds, Registry.held, node, if_pos rfl] at edge
      rcases enters.held _ m edge with rfl | old
      · exact .inr ⟨rfl, free⟩
      · have old : m ∈ mid.held a := old
        rw [held_of_members (joined.members a)] at old
        exact .inl old
    · rw [Holds, other ha] at edge
      exact .inl edge
  · intro m p link
    rw [parent m] at link
    rcases joined.parent m p link with old | ⟨rfl, rfl, first⟩
    · exact .inl old
    · exact .inr ⟨rfl, free, first, .inl bound⟩
  · intro a m edge _
    by_cases ha : a = n
    · exact .inr ⟨child, ha ▸ rfl⟩
    · have kept : m ∈ after.held a := by rwa [other ha]
      exact .inl kept

private theorem attach_step (enters : Enters child put) (inside : n.index < r.nodes.size) :
    LinkStep (some (n, child)) r ((n.attach kind name child put) r).2 := by
  rcases NodeId.attach_outcome n kind name child put r with same | ⟨_, free, mid, joined, rest⟩
  · rw [same]
    exact SameLinks.step (refl r)
  · rcases rest with ⟨state, path⟩ | state
    · rw [state]
      exact joined_step free joined path
    · rw [state]
      exact entered_step enters inside free joined

end Attach

private theorem removeChild_step (n : NodeId) (name : String) (bound : Option (NodeId × NodeId))
    (r : Registry) : LinkStep bound r ((n.removeChild name) r).2 := by
  rcases NodeId.removeChild_outcome n name r with same | ⟨child, hchild, removed⟩
  · rw [same]
    exact SameLinks.step (refl r)
  · set after := ((n.removeChild name) r).2
    have other {a : NodeId} (ha : a ≠ n) : after.held a = r.held a := by
      have members := removed.members a
      rw [if_neg ha] at members
      exact held_of_members members
    have erased : after.held n =
        ((r.node n).children.erase name).values ++ (r.node n).submodules.values := by
      have members := removed.members n
      rw [if_pos rfl] at members
      exact congrArg Node.held members
    refine ⟨removed.size.ge, ?_, ?_, ?_, ?_⟩
    · intro m hm
      exact .inl (isAlive_of_mem_roots (removed.roots ▸ hm))
    · intro a m edge
      by_cases ha : a = n
      · subst ha
        rw [Holds, erased] at edge
        rcases List.mem_append.mp edge with child | submodule
        · exact .inl (List.mem_append_left _ (OrderedMap.mem_of_mem_values_erase child))
        · exact .inl (List.mem_append_right _ submodule)
      · exact .inl (by rwa [Holds, other ha] at edge)
    · intro m p link
      rw [removed.parent m] at link
      split at link
      · cases link
      · exact .inl link
    · intro a m edge link
      by_cases ha : a = n
      · subst ha
        have differ : (r.node a).children.get? name ≠ some m := by
          intro same
          rw [removed.parent m] at link
          have taken : m = child := Option.some_inj.mp (same.symm.trans hchild)
          split at link
          case isTrue => cases link
          case isFalse stays => exact stays ⟨taken, link⟩
        rw [Holds, erased]
        rcases List.mem_append.mp edge with child | submodule
        · exact .inl (List.mem_append_left _ (OrderedMap.mem_values_erase child differ))
        · exact .inl (List.mem_append_right _ submodule)
      · exact .inl (by rwa [Holds, other ha])

/-! ## Every command -/

/-- A command on live nodes changes the links in the listed ways only. -/
theorem Command.act_links {r : Registry} (h : r.InRange) (command : Command)
    (alive : ∀ n ∈ command.nodes, r.isAlive n = true) :
    LinkStep command.bound? r (command.act r).2 := by
  have links {act : Act RegistryError Unit} (keeps : act.Keeps SameLinks) :
      LinkStep command.bound? r (act r).2 := (keeps r).step
  have effects {α : Type} {act : Act RegistryError α} (keeps : act.Keeps Effects) :
      act.Keeps SameLinks := keeps.sameNodes.tree.links
  have releases {act : Act RegistryError Unit} (keeps : act.Keeps Releases) :
      LinkStep command.bound? r (act r).2 :=
    linkStep_of_nodes (keeps r).nodes fun n hn => isAlive_of_mem_roots ((keeps r).roots n hn)
  have setting {n : NodeId} {f : Node → Node}
      (members : ∀ node, (f node).membersOnly = node.membersOnly)
      (parent : ∀ node, (f node).parent = node.parent) :
      (n.change f : Act RegistryError Unit).Keeps SameLinks :=
    .change fun _ => (sameTree_change members parent).links
  cases command with
  | createNode handle name config => exact createNode_step handle name config _ r
  | createParameter handle plan => exact releases (createParameter_releases handle plan)
  | keep handle n => exact keep_step handle n _ (alive n List.mem_cons_self)
  | drop handle => exact releases (drop_releases handle)
  | bind n name attr =>
    cases attr with
    | value v => exact links (assign_links n name v)
    | parameter p => exact links (addParameterAs_links n name p)
    | node child =>
      exact attach_step (enters_children child name) (h.isAlive (alive n List.mem_cons_self))
    | field v => exact links (assign_links n name v)
  | addParameter n p =>
    exact links (.bind (.read fun _ => rfl) fun param => addParameterAs_links n param.name p)
  | addChild n name child =>
    exact attach_step (enters_children child name) (h.isAlive (alive n List.mem_cons_self))
  | addSubmodule n name child =>
    exact attach_step (enters_submodules child name) (h.isAlive (alive n List.mem_cons_self))
  | addFunction n name function => exact links (addFunction_links n name function)
  | removeChild n name =>
    rw [act, Act.discard_run]
    exact removeChild_step n name _ r
  | rename n name => exact links (setting (fun _ => rfl) fun _ => rfl)
  | setForwards n on => exact links (setting (fun _ => rfl) fun _ => rfl)
  | setShortSnapshots n on => exact links (setting (fun _ => rfl) fun _ => rfl)
  | registerGetter n name getter => exact links (register_tree n name _ _ _ _).links
  | registerSetter n name setter => exact links (register_tree n name _ _ _ _).links
  | request asked => exact links (.bind (effects (Effects.perform asked)) fun _ => .pure _)
  | connect p target link => exact links (connect_sameNodes p target link).tree.links
  | listen p callback => exact links (.bind (effects (Effects.listen p _)) fun _ => .pure _)
  | disconnect p id => exact links (.bind (effects (Effects.disconnect p id)) fun _ => .pure _)
  | disconnectAll p => exact links (effects (Effects.disconnectAll p))

namespace Registry

def bound? (r : Registry) (command : Command) : Option (NodeId × NodeId) :=
  if command.nodes.all r.isAlive then command.bound? else none

variable {r after : Registry} {command : Command} {bound : Option (NodeId × NodeId)}

theorem isAlive_of_bound {n m : NodeId} (h : r.bound? command = some (n, m)) :
    r.isAlive n = true ∧ r.isAlive m = true := by
  rw [bound?] at h
  split at h
  case isTrue alive =>
    have named := Command.mem_nodes_of_bound h
    rw [List.all_eq_true] at alive
    exact ⟨alive n named.1, alive m named.2⟩
  case isFalse => cases h

theorem step_links (h : r.InRange) (command : Command) :
    LinkStep (r.bound? command) r (r.step command) := by
  rw [bound?, step]
  split
  case isTrue alive => exact Command.act_links h command (List.all_eq_true.mp alive)
  case isFalse => exact SameLinks.step (refl r)

/-! ## What follows for a step -/

theorem LinkStep.isAlive (h : LinkStep bound r after)
    (alive : ∀ n m, bound = some (n, m) → r.isAlive m = true) {n : NodeId}
    (hn : after.isAlive n = true) : r.isAlive n = true ∨ r.nodes.size ≤ n.index := by
  obtain ⟨root, hroot, path⟩ := isAlive_iff.mp hn
  induction path with
  | refl => exact (h.roots root hroot).imp id And.left
  | @tail a m path edge ih =>
    rcases h.held a m edge with old | ⟨new, _⟩
    · rcases ih (isAlive_iff.mpr ⟨root, hroot, path⟩) with ha | ha
      · obtain ⟨root', hroot', path'⟩ := isAlive_iff.mp ha
        exact .inl (isAlive_iff.mpr ⟨root', hroot', path'.tail old⟩)
      · exact absurd old.lt_size (Nat.not_lt.mpr ha)
    · exact .inl (alive a m new)

theorem InRange.step (h : r.InRange) (command : Command) : (r.step command).InRange := by
  have links := step_links h command
  have inside {n : NodeId} (hn : n.index < r.nodes.size) : n.index < (r.step command).nodes.size :=
    Nat.lt_of_lt_of_le hn links.size
  refine ⟨?_, ?_, ?_⟩
  · intro n hn
    rcases links.roots n hn with old | ⟨_, new⟩
    · exact inside (h.isAlive old)
    · exact new
  · intro n m edge
    rcases links.held n m edge with old | ⟨new, _⟩
    · exact inside (h.held n m old)
    · exact inside (h.isAlive (isAlive_of_bound new).2)
  · intro m p link
    rcases links.parent m p link with old | ⟨new, _⟩
    · exact inside (h.parent m p old)
    · exact inside (h.isAlive (isAlive_of_bound new).1)

theorem node_start (log : Log) (now : Instant) (n : NodeId) : (start log now).node n = default :=
  node_of_size_le (Nat.zero_le _ : (start log now).nodes.size ≤ n.index)

theorem not_holds_start (log : Log) (now : Instant) (n m : NodeId) :
    ¬ (start log now).Holds n m := by
  intro h
  rw [Holds, held, node_start] at h
  cases h

theorem inRange_start (log : Log) (now : Instant) : (start log now).InRange where
  roots _ h := by cases h
  held n m h := absurd h (not_holds_start log now n m)
  parent n _ h := by
    rw [node_start] at h
    cases h

/-- Whatever was done, nothing refers to a node that does not exist. -/
theorem inRange_run (log : Log) (now : Instant) (commands : List Command) :
    ((start log now).run commands).InRange :=
  run_induction (inRange_start log now) (fun _ command h => h.step command) commands

end Registry
end LabRegistry

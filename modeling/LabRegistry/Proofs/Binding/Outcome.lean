import LabRegistry.Proofs.Binding.Frame
import LabRegistry.Proofs.Naming.Chain
import LabRegistry.Registry.Access

/-!
# Outcomes of binding

What the guards before a binding do, what joining a parent leaves behind, and from both what
binding and removing a node comes to. Binding a node is refused with the registry as it was, or the
child joins its parent and is then entered under its name. It stops in between only if composing
the line of the log does not end.
-/
namespace LabRegistry

/-- A name can be bound to a member of this kind: it is free or belongs to this kind already. -/
def Node.Admits (node : Node) (kind : MemberKind) (name : String) : Prop :=
  node.kindOf name = none ∨ node.kindOf name = some kind

/-- How an operation stops that fails with a message about a node. -/
def Registry.refusal (r : Registry) (n : NodeId) (cause : String → RegistryError) :
    Halt RegistryError :=
  match r.displayName? n with
  | some text => .failed (cause text)
  | none => .endless

theorem Registry.refusal_eq_failed {r : Registry} {n : NodeId} {cause : String → RegistryError}
    {error : RegistryError} (h : r.refusal n cause = .failed error) :
    ∃ text, r.displayName? n = some text ∧ error = cause text := by
  rw [refusal] at h
  cases htext : r.displayName? n with
  | none =>
    rw [htext] at h
    cases h
  | some text =>
    rw [htext] at h
    cases h
    exact ⟨text, rfl, rfl⟩

/-- The operation fails with a message that shows the display name of the node, and leaves everything
as it was. -/
def Registry.FailsAbout {α : Type} (r : Registry) (n : NodeId) (cause : String → RegistryError)
    (outcome : Except (Halt RegistryError) α × Registry) : Prop :=
  ∃ shown, r.displayName? n = some shown ∧ outcome = (.error (.failed (cause shown)), r)

theorem Registry.ParentsEnd.failsAbout {α : Type} {r : Registry} {n : NodeId} (ends : r.ParentsEnd n)
    {cause : String → RegistryError} {outcome : Except (Halt RegistryError) α × Registry}
    (h : outcome = (.error (r.refusal n cause), r)) : r.FailsAbout n cause outcome := by
  obtain ⟨shown, named⟩ := Option.isSome_iff_exists.mp (displayName?_isSome_iff.mpr ends)
  rw [refusal, named] at h
  exact ⟨shown, named, h⟩

private theorem Act.writeLog_outcome {ε : Type} {level : LogLevel} {text : Act ε String}
    {r : Registry}
    (h : (text r).2 = r) :
    (∃ log, Act.writeLog level text r = (.ok (), { r with log })) ∨
      ∃ halt, (text r).1 = .error halt ∧ Act.writeLog level text r = (.error halt, r) := by
  rw [Act.writeLog, bind_run, registry_run]
  dsimp only
  split
  · rw [bind_run]
    rcases hrun : text r with ⟨halt | line, after⟩
    · rw [hrun] at h
      cases h
      exact .inr ⟨halt, rfl, rfl⟩
    · rw [hrun] at h
      cases h
      exact .inl ⟨_, rfl⟩
  · exact .inl ⟨r.log, rfl⟩

/-- A line of the log with a name in it is written, or there is no such name and the operation does
not end. -/
def Registry.Noted {ε : Type} (r : Registry) (name : Option String)
    (outcome : Except (Halt ε) Unit × Registry) : Prop :=
  (∃ lines, outcome = (.ok (), { r with log := { r.log with lines } })) ∨
    name = none ∧ outcome = (.error .endless, r)

theorem Act.writeLog_noted {ε : Type} (level : LogLevel) (name? : Registry → Option String)
    (before after : String) (r : Registry) :
    r.Noted (name? r)
      ((Act.writeLog level do return before ++ (← Act.orEndless name?) ++ after : Act ε Unit) r) := by
  rw [writeLog, bind_run, registry_run]
  dsimp only
  split
  case isFalse => exact .inl ⟨r.log.lines, rfl⟩
  case isTrue =>
    simp only [bind_run, orEndless_run]
    cases name? r with
    | none => exact .inr ⟨rfl, rfl⟩
    | some shown => exact .inl ⟨r.log.lines ++ [(level, before ++ shown ++ after)], rfl⟩

/-- The registry in which `n` is the owner of `p` and has named it. -/
def Registry.joined (r : Registry) (n : NodeId) (name : String) (p : ParamId) : Registry :=
  { r with
    params := r.params.change p.index fun param => { param with
      owner := some n, name
      logsChanges := param.logsChanges ||
        ((r.param p).owner.isNone && (r.node n).config.logsChanges) } }

/-- A parameter with another owner stays as it is, and any other one joins the node. There is a line
of the log about all but those that join their owner again. -/
theorem ParamId.joinNode_cases {ε : Type} (p : ParamId) (n : NodeId) (name : String) (r : Registry) :
    let outcome := (p.joinNode n name : Act ε Unit) r
    (r.param p).owner.getD n ≠ n ∧ r.Noted (r.paramName? p) outcome ∨
    (r.param p).owner.getD n = n ∧
      (r.joined n name p).Noted ((r.joined n name p).paramName? p) outcome ∧
      ((r.param p).owner = some n → outcome.1 = .ok ()) := by
  rw [joinNode, Act.bind_run, state_run]
  dsimp only
  split
  case isTrue other => exact .inl ⟨other, Act.writeLog_noted .warn (·.paramName? p) _ _ r⟩
  case isFalse same =>
    refine .inr ⟨not_not.mp same, ?_⟩
    rw [Act.bind_run, NodeId.state_run]
    dsimp only
    rw [Act.bind_run, change_run]
    dsimp only
    split
    case isTrue first =>
      refine ⟨Act.writeLog_noted .debug (·.paramName? p) _ _ (r.joined n name p), fun own => ?_⟩
      rw [own] at first
      cases first
    case isFalse => exact ⟨.inl ⟨r.log.lines, rfl⟩, fun _ => rfl⟩

namespace NodeId

variable {n child : NodeId} {name : String} {kind : MemberKind} {r : Registry}

/-! ## Guards -/

theorem failNamed_run {α : Type} (n : NodeId) (cause : String → RegistryError) (r : Registry) :
    (do Act.fail (cause (← n.displayName)) : Act RegistryError α) r =
      (.error (r.refusal n cause), r) := by
  simp only [Act.bind_run, displayName, Act.orEndless_run, Registry.refusal]
  cases r.displayName? n <;> rfl

section

variable {α : Type} {map : Node → OrderedMap α}

theorem find_run {x : α} (found : (map (r.node n)).get? name = some x) :
    n.find map name r = (.ok x, r) := by
  rw [find, Act.bind_run, state_run]
  dsimp only
  rw [found]
  rfl

theorem find_missing (missing : (map (r.node n)).get? name = none) :
    n.find map name r = (.error (r.refusal n (.noAttribute · name)), r) := by
  rw [find, Act.bind_run, state_run]
  dsimp only
  rw [missing]
  exact failNamed_run n _ r

/-- Whoever asks for a member and drops the error hears what the map has, unless it has nothing and
composing the error does not end. -/
theorem find_attempt {ε : Type} (n : NodeId) (map : Node → OrderedMap α) (name : String)
    (r : Registry) : ((n.find map name).attempt : Act ε (Option α)) r =
      (match (map (r.node n)).get? name, r.displayName? n with
        | none, none => .error .endless
        | found, _ => .ok found, r) := by
  cases found : (map (r.node n)).get? name with
  | some x => exact Act.attempt_of_ok (find_run found)
  | none =>
    have missing : n.find map name r = (.error (r.refusal n (.noAttribute · name)), r) :=
      find_missing found
    rw [Registry.refusal] at missing
    cases shown : r.displayName? n with
    | none =>
      rw [shown] at missing
      exact Act.attempt_of_endless missing
    | some text =>
      rw [shown] at missing
      exact Act.attempt_of_failed missing

end

theorem requireFree_of_admits (h : (r.node n).Admits kind name) :
    (n.requireFree name kind) r = (.ok (), r) := by
  simp only [requireFree, Act.bind_run, state_run]
  rcases h with h | h
  · rw [h]
    rfl
  · rw [h]
    simp

theorem requireFree_of_not_admits (h : ¬ (r.node n).Admits kind name) :
    ∃ existing, (r.node n).kindOf name = some existing ∧
      (n.requireFree name kind) r = (.error (r.refusal n (.nameTaken · name existing)), r) := by
  cases hkind : (r.node n).kindOf name with
  | none => exact absurd (.inl hkind) h
  | some existing =>
    have differ : existing ≠ kind := by
      intro same
      exact h (.inr (same ▸ hkind))
    refine ⟨existing, rfl, ?_⟩
    simp only [requireFree, Act.bind_run, state_run, hkind, if_neg differ]
    exact failNamed_run n _ r

theorem requireFree_read (n : NodeId) (name : String) (kind : MemberKind) (r : Registry) :
    ((n.requireFree name kind) r).2 = r := by
  by_cases h : (r.node n).Admits kind name
  · rw [requireFree_of_admits h]
  · obtain ⟨existing, _, refused⟩ := requireFree_of_not_admits h
    rw [refused]

theorem requireNoCycle_of_encloses (h : r.Encloses child n) :
    (n.requireNoCycle name child) r = (.error (r.refusal n (.containsHolder · name)), r) := by
  rw [requireNoCycle, Act.bind_run, contains_run]
  dsimp only
  rw [if_pos (Registry.contains_iff.mpr h)]
  exact failNamed_run n _ r

theorem requireNoCycle_of_not_encloses (h : ¬ r.Encloses child n) :
    (n.requireNoCycle name child) r = (.ok (), r) := by
  have free : r.contains child n = false := by
    rw [← Bool.not_eq_true, Registry.contains_iff]
    exact h
  simp [requireNoCycle, Act.bind_run, free]

/-! ## Joining a parent -/

/-- What is left after `child` joined `n`, or kept another parent: the links of other nodes and
the members of all nodes are as before. -/
structure Joined (child n : NodeId) (r after : Registry) : Prop where
  size : after.nodes.size = r.nodes.size
  roots : after.roots = r.roots
  members : ∀ m, (after.node m).membersOnly = (r.node m).membersOnly
  parent : ∀ m p, (after.node m).parent = some p →
    (r.node m).parent = some p ∨ m = child ∧ p = n ∧ r.parent? child = none

private theorem Joined.tree {mid after : Registry} (h : Joined child n r mid)
    (tree : mid.SameTree after) :
    Joined child n r after where
  size := tree.size.trans h.size
  roots := tree.roots.trans h.roots
  members m := (tree.members m).trans (h.members m)
  parent m p link := by
    rw [tree.parent m] at link
    exact h.parent m p link

private theorem joined_adopt (free : r.parent? child = none) :
    Joined child n r { r with
      nodes := r.nodes.change child.index ({ · with parent := some n }) } where
  size := Arena.size_change _ _ _
  roots := Registry.roots_of_eq rfl rfl fun _ => rfl
  members m := by
    rw [Registry.node_change]
    split <;> rfl
  parent m p link := by
    rw [Registry.node_change] at link
    split at link
    case isTrue same =>
      cases link
      exact .inr ⟨same.1, rfl, free⟩
    case isFalse => exact .inl link

private theorem sameTree_named (m : NodeId) (name : String) :
    r.SameTree { r with nodes := r.nodes.change m.index ({ · with name := some name }) } :=
  Registry.sameTree_change (fun _ => rfl) fun _ => rfl

private theorem sameTree_log (log : Log) : r.SameTree { r with log } :=
  Registry.SameNodes.tree ⟨rfl, Registry.roots_of_eq rfl rfl fun _ => rfl⟩

/-- Joining leaves a `Joined` registry and stops only where the child has no path. -/
structure JoinOutcome (child n : NodeId) (r : Registry)
    (outcome : Except (Halt RegistryError) Unit × Registry) : Prop where
  joined : Joined child n r outcome.2
  result : outcome.1 = .ok () ∨ outcome.1 = .error .endless ∧ outcome.2.path? child = none

private theorem joined_line {mid : Registry} {level : LogLevel} {text : Act RegistryError String}
    (h : Joined child n r mid) (read : (text mid).2 = mid)
    (path : ∀ halt, (text mid).1 = .error halt → halt = .endless ∧ mid.path? child = none) :
    JoinOutcome child n r (Act.writeLog level text mid) := by
  rcases Act.writeLog_outcome read with ⟨log, written⟩ | ⟨halt, failed, stopped⟩
  · rw [written]
    exact ⟨h.tree (sameTree_log log), .inl rfl⟩
  · obtain ⟨rfl, none⟩ := path halt failed
    rw [stopped]
    exact ⟨h, .inr ⟨rfl, none⟩⟩

private theorem joined_warning {mid : Registry} (before after : String)
    (h : Joined child n r mid) :
    JoinOutcome child n r ((Act.warn do
      return before ++ (← child.displayName) ++ after : Act RegistryError Unit) mid) := by
  apply joined_line h
  · rw [Act.bind_run, displayName, Act.orEndless_run]
    cases mid.displayName? child <;> rfl
  · intro halt failed
    rw [Act.bind_run, displayName, Act.orEndless_run] at failed
    cases hname : mid.displayName? child with
    | none =>
      rw [hname] at failed
      cases failed
      exact ⟨rfl, by simpa [Registry.displayName?] using hname⟩
    | some shown =>
      rw [hname] at failed
      cases failed

private theorem joined_notice {mid : Registry} (before after : String) (h : Joined child n r mid) :
    JoinOutcome child n r ((Act.debug do
      return before ++ (← child.fullName) ++ after : Act RegistryError Unit) mid) := by
  apply joined_line h
  · rw [Act.bind_run, fullName, Act.bind_run, NodeId.path, Act.orEndless_run]
    cases mid.path? child <;> rfl
  · intro halt failed
    rw [Act.bind_run, fullName, Act.bind_run, NodeId.path, Act.orEndless_run] at failed
    cases hpath : mid.path? child with
    | none =>
      rw [hpath] at failed
      cases failed
      exact ⟨rfl, rfl⟩
    | some shown =>
      rw [hpath] at failed
      cases failed

private theorem takeName_outcome {mid : Registry} (name : String) (first : Bool)
    (h : Joined child n r mid) :
    JoinOutcome child n r ((child.takeName n name first : Act RegistryError Unit) mid) := by
  rw [takeName, Act.bind_run, state_run]
  dsimp only
  split
  · exact joined_warning _ _ h
  · rw [Act.bind_run, change_run]
    have named := h.tree (sameTree_named child name)
    dsimp only
    split
    · exact joined_notice _ _ named
    · exact ⟨named, .inl rfl⟩

theorem joinParent_outcome (child n : NodeId) (name : String) (r : Registry) :
    JoinOutcome child n r ((child.joinParent n name : Act RegistryError Unit) r) := by
  cases free : r.parent? child with
  | none =>
    have named := takeName_outcome name true (joined_adopt (n := n) free)
    rw [joinParent, Act.bind_run, parent?_run, free]
    exact named
  | some p =>
    have stays : Joined child n r r := ⟨rfl, rfl, fun _ => rfl, fun _ _ => .inl⟩
    have named := takeName_outcome name false stays
    rw [joinParent, Act.bind_run, parent?_run, free]
    exact named

/-! ## Binding and removing nodes -/

theorem attach_taken (child : NodeId) (put : Node → Node) (h : ¬ (r.node n).Admits kind name) :
    ∃ existing, (r.node n).kindOf name = some existing ∧
      (n.attach kind name child put) r =
        (.error (r.refusal n (.nameTaken · name existing)), r) := by
  obtain ⟨existing, hkind, guard⟩ := requireFree_of_not_admits h
  refine ⟨existing, hkind, ?_⟩
  rw [attach, Act.bind_run, guard]

theorem attach_cyclic {put : Node → Node} (h : (r.node n).Admits kind name)
    (enclosed : r.Encloses child n) :
    (n.attach kind name child put) r = (.error (r.refusal n (.containsHolder · name)), r) := by
  rw [attach, Act.bind_run, requireFree_of_admits h]
  dsimp only
  rw [Act.bind_run, requireNoCycle_of_encloses enclosed]

/-- A binding that is not refused enters the node unless composing a line of the log does not
end. -/
theorem attach_open (put : Node → Node) (h : (r.node n).Admits kind name)
    (free : ¬ r.Encloses child n) : ∃ mid, Joined child n r mid ∧
      ((n.attach kind name child put) r = (.error .endless, mid) ∧ mid.path? child = none ∨
        (n.attach kind name child put) r =
          (.ok (), { mid with nodes := mid.nodes.change n.index put })) := by
  rw [attach, Act.bind_run, requireFree_of_admits h]
  dsimp only
  rw [Act.bind_run, requireNoCycle_of_not_encloses free]
  dsimp only
  have outcome := joinParent_outcome child n name r
  refine ⟨_, outcome.joined, ?_⟩
  rw [Act.bind_run]
  rcases hjoin : (child.joinParent n name : Act RegistryError Unit) r with ⟨halt | done, mid⟩
  · rw [hjoin] at outcome
    rcases outcome.result with done | ⟨endless, path⟩
    · cases done
    · cases endless
      exact .inl ⟨rfl, path⟩
  · exact .inr rfl

/-- Binding a node is refused with the registry as it was, stops where composing a line of the log
does not end, or enters the node. -/
theorem attach_outcome (n : NodeId) (kind : MemberKind) (name : String) (child : NodeId)
    (put : Node → Node) (r : Registry) :
    let after := ((n.attach kind name child put) r).2
    after = r ∨
      (r.node n).Admits kind name ∧ ¬ r.Encloses child n ∧ ∃ mid, Joined child n r mid ∧
        (after = mid ∧ mid.path? child = none ∨
          after = { mid with nodes := mid.nodes.change n.index put }) := by
  by_cases h : (r.node n).Admits kind name
  · by_cases enclosed : r.Encloses child n
    · rw [attach_cyclic h enclosed]
      exact .inl rfl
    · obtain ⟨mid, joined, ⟨stopped, path⟩ | entered⟩ := attach_open put h enclosed
      · rw [stopped]
        exact .inr ⟨h, enclosed, mid, joined, .inl ⟨rfl, path⟩⟩
      · rw [entered]
        exact .inr ⟨h, enclosed, mid, joined, .inr rfl⟩
  · obtain ⟨existing, _, refused⟩ := attach_taken child put h
    rw [refused]
    exact .inl rfl

/-- What is left after `child` was taken out of `n` under a name. -/
structure Removed (n : NodeId) (name : String) (child : NodeId) (r after : Registry) : Prop where
  size : after.nodes.size = r.nodes.size
  roots : after.roots = r.roots
  members : ∀ m, (after.node m).membersOnly =
    if m = n then { (r.node m).membersOnly with children := (r.node m).children.erase name }
    else (r.node m).membersOnly
  parent : ∀ m, (after.node m).parent =
    if m = child ∧ (r.node m).parent = some n then none else (r.node m).parent

private theorem removed_erase (n : NodeId) (name : String) (r : Registry) (m : NodeId) :
    let mid : Registry := { r with
      nodes := r.nodes.change n.index fun node => { node with children := node.children.erase name } }
    (mid.node m).membersOnly =
      (if m = n then { (r.node m).membersOnly with children := (r.node m).children.erase name }
      else (r.node m).membersOnly) ∧ (mid.node m).parent = (r.node m).parent := by
  dsimp only
  rw [Registry.node_change]
  by_cases same : m = n
  · by_cases inside : n.index < r.nodes.size
    · rw [if_pos ⟨same, inside⟩, if_pos same]
      exact ⟨rfl, rfl⟩
    · subst same
      rw [if_neg (fun both => inside both.2), if_pos rfl,
        Registry.node_of_size_le (Nat.le_of_not_lt inside)]
      exact ⟨rfl, rfl⟩
  · rw [if_neg (fun both => same both.1), if_neg same]
    exact ⟨rfl, rfl⟩

private theorem removed_leave (child : NodeId) {mid : Registry}
    (members : ∀ m, (mid.node m).membersOnly =
      if m = n then { (r.node m).membersOnly with children := (r.node m).children.erase name }
      else (r.node m).membersOnly)
    (parent : ∀ m, (mid.node m).parent = (r.node m).parent)
    (size : mid.nodes.size = r.nodes.size) (roots : mid.roots = r.roots) :
    Removed n name child r ((child.leaveParent n : Act RegistryError Unit) mid).2 := by
  rw [leaveParent, Act.bind_run, state_run]
  dsimp only
  by_cases own : (mid.node child).parent = some n
  · rw [if_pos own, change_run]
    have inside : child.index < mid.nodes.size := by
      by_contra outside
      rw [Registry.node_of_size_le (Nat.le_of_not_lt outside)] at own
      cases own
    refine ⟨(Arena.size_change _ _ _).trans size,
      (Registry.roots_of_eq rfl rfl fun _ => rfl).trans roots, ?_, ?_⟩
    · intro m
      rw [← members m, Registry.node_change]
      split <;> rfl
    · intro m
      rw [Registry.node_change]
      by_cases same : m = child
      · subst same
        rw [if_pos ⟨rfl, inside⟩, if_pos ⟨rfl, (parent m).symm.trans own⟩]
      · rw [if_neg (fun both => same both.1), if_neg (fun both => same both.1), parent m]
  · rw [if_neg own]
    refine ⟨size, roots, members, ?_⟩
    intro m
    by_cases same : m = child
    · subst same
      rw [if_neg (fun both => own ((parent m).trans both.2))]
      exact parent m
    · rw [if_neg (fun both => same both.1)]
      exact parent m

private theorem Removed.tree {mid after : Registry} (h : Removed n name child r mid)
    (tree : mid.SameTree after) : Removed n name child r after where
  size := tree.size.trans h.size
  roots := tree.roots.trans h.roots
  members m := (tree.members m).trans (h.members m)
  parent m := (tree.parent m).trans (h.parent m)

theorem removeChild_removed (found : (r.node n).children.get? name = some child) :
    Removed n name child r ((n.removeChild name) r).2 := by
  rw [removeChild, Act.bind_run, state_run]
  dsimp only
  rw [found]
  have erased := removed_erase n name r
  have left := removed_leave child (fun m => (erased m).1) (fun m => (erased m).2)
    (Arena.size_change _ _ _) (Registry.roots_of_eq rfl rfl fun _ => rfl)
  refine left.tree ?_
  dsimp only
  rw [Act.bind_run, change_run]
  dsimp only
  refine Act.Keeps.after (fun _ => .bind (Act.Keeps.tree (.logged ?_)) fun _ => .pure _) _ _
  exact .bind (.orEndless _) fun _ => .pure _

/-- Removing a node finds none under the name or takes it out. -/
theorem removeChild_outcome (n : NodeId) (name : String) (r : Registry) :
    let after := ((n.removeChild name) r).2
    after = r ∨ ∃ child, (r.node n).children.get? name = some child ∧
      Removed n name child r after := by
  cases found : (r.node n).children.get? name with
  | none =>
    rw [removeChild, Act.bind_run, state_run]
    dsimp only
    rw [found]
    dsimp only
    rw [failMissing, failNamed_run]
    exact .inl rfl
  | some child => exact .inr ⟨child, rfl, removeChild_removed found⟩

end NodeId
end LabRegistry

import LabRegistry.Proofs.Containment.Acyclic
import LabRegistry.Proofs.Engine.Visit

/-!
# Walks down the containment

Snapshots and tables walk down from a node to everything that it holds. Their depth limits never
come into play: where nothing contains itself, any two limits above the number of nodes give the
same walk. This also holds for walks that update parameters, since that leaves the nodes alone.
-/
namespace LabRegistry

/-- What comes to a node from what comes to the nodes that it holds does not depend on a depth limit
that is never reached. -/
theorem Registry.Acyclic.within_eq {β : Type} {r : Registry} (h : r.Acyclic)
    {within : Nat → NodeId → β} {level : (NodeId → β) → NodeId → β}
    (step : ∀ depth n, within (depth + 1) n = level (within depth) n)
    (congr : ∀ f g n, (∀ m, r.Holds n m → f m = g m) → level f n = level g n) {depth depth' : Nat}
    {n : NodeId} (hd : r.extent r.Holds n < depth) (hd' : r.extent r.Holds n < depth') :
    within depth n = within depth' n := by
  induction depth generalizing depth' n with
  | zero => omega
  | succ depth ih =>
    cases depth' with
    | zero => omega
    | succ depth' =>
      rw [step, step]
      refine congr _ _ n fun m edge => ?_
      have fewer := h.extent_lt edge
      exact ih (by omega) (by omega)

/-- Below a node as many levels as there are nodes are enough. -/
theorem Registry.Acyclic.within_held {β : Type} {r : Registry} (h : r.Acyclic)
    {within : Nat → NodeId → β} (level : (NodeId → β) → NodeId → β)
    (step : ∀ depth n, within (depth + 1) n = level (within depth) n)
    (congr : ∀ f g n, (∀ m, r.Holds n m → f m = g m) → level f n = level g n) {n m : NodeId}
    (edge : r.Holds n m) : within r.nodes.size m = level (within r.nodes.size) m := by
  have fewer := h.extent_lt edge
  have bound : r.extent r.Holds n ≤ r.nodes.size := extent_le_size n
  rw [← step]
  exact h.within_eq step congr (by omega) (by omega)

namespace NodeId

open Registry

variable {ε α : Type} {r : Registry}

/-- Two walks agree on all registries with the nodes of `r`. -/
private abbrev SameWalk (r : Registry) (f g : Act ε α) : Prop :=
  Act.Agree (fun s => s.nodes = r.nodes) f g

private theorem same_of_effects {act : Act ε α} (h : act.Keeps Effects) : SameWalk r act act :=
  .of_keeps h.sameNodes fun _ _ hr same => same.nodes.trans hr

private theorem same_state {n : NodeId} {f g : Node → Act ε α}
    (h : SameWalk r (f (r.node n)) (g (r.node n))) : SameWalk r (n.state >>= f) (n.state >>= g) := by
  intro s hs
  have node : s.node n = r.node n := by rw [Registry.node, hs, Registry.node]
  rw [Act.bind_run, Act.bind_run, state_run, node]
  exact h s hs

theorem holds_of_child {n : NodeId} {entry : String × NodeId}
    (h : entry ∈ (r.node n).children.entries) : r.Holds n entry.2 :=
  List.mem_append_left _ (List.mem_map_of_mem h)

theorem holds_of_submodule {n : NodeId} {entry : String × NodeId}
    (h : entry ∈ (r.node n).submodules.entries) : r.Holds n entry.2 :=
  List.mem_append_right _ (List.mem_map_of_mem h)

private theorem summaries_same {f g : α → Act RegistryError (List (String × Value))}
    {entries : List (String × α)} (h : ∀ entry ∈ entries, SameWalk r (f entry.2) (g entry.2)) :
    SameWalk r (summaries f entries) (summaries g entries) :=
  .bind (.mapM fun entry mem => .bind (h entry mem) fun _ => .pure _) fun _ => .pure _

/-! ## Depth limits -/

private theorem snapshotWithin_same (h : r.Acyclic) {depth depth' : Nat} {n : NodeId}
    (options : SnapshotOptions) (hd : r.extent r.Holds n < depth)
    (hd' : r.extent r.Holds n < depth') :
    SameWalk r (snapshotWithin depth options n) (snapshotWithin depth' options n) := by
  induction depth generalizing depth' n options with
  | zero => omega
  | succ depth ih =>
    cases depth' with
    | zero => omega
    | succ depth' =>
      have below (options : SnapshotOptions) {m : NodeId} (edge : r.Holds n m) :
          SameWalk r (snapshotWithin depth options m) (snapshotWithin depth' options m) := by
        have fewer := h.extent_lt edge
        exact ih options (by omega) (by omega)
      rw [snapshotWithin, snapshotWithin]
      apply same_state
      dsimp only
      split
      · refine .bind (.foldlM (fun entry _ members => ?_) _) fun shown => ?_
        · exact same_of_effects (Effects.addShown _ _ _ _)
        · refine .foldlM (fun entry mem members => ?_) _
          exact .bind (below _ (holds_of_child mem)) fun _ => .pure _
      · refine .bind (summaries_same fun entry _ => ?_) fun parameters => ?_
        · exact same_of_effects (Effects.paramSnapshot _ _)
        refine .bind (summaries_same fun entry mem => ?_) fun children => ?_
        · exact below _ (holds_of_child mem)
        refine .bind (summaries_same fun entry mem => ?_) fun submodules => ?_
        · exact below _ (holds_of_submodule mem)
        exact .pure _

private theorem tableWithin_same (h : r.Acyclic) (update : Bool) (width : Nat) {depth depth' : Nat}
    {n : NodeId} (hd : r.extent r.Holds n < depth) (hd' : r.extent r.Holds n < depth') :
    SameWalk r (tableWithin update width depth n) (tableWithin update width depth' n) := by
  induction depth generalizing depth' n with
  | zero => omega
  | succ depth ih =>
    cases depth' with
    | zero => omega
    | succ depth' =>
      rw [tableWithin, tableWithin]
      apply same_state
      dsimp only
      refine .bind (same_of_effects (.orEndless _)) fun title => ?_
      refine .bind (.mapM fun entry _ => ?_) fun rows => ?_
      · exact same_of_effects (Effects.tableRow _ _ _ _ _)
      refine .bind (.mapM fun m mem => ?_) fun below => ?_
      · have fewer := h.extent_lt mem
        exact ih (by omega) (by omega)
      exact .pure _

/-- A snapshot is the same with every depth limit above the number of nodes. -/
theorem snapshot_run_eq (h : r.Acyclic) {depth : Nat} (hd : r.nodes.size < depth) (n : NodeId)
    (options : SnapshotOptions) : (n.snapshot options) r = (snapshotWithin depth options n) r := by
  have bound : r.extent r.Holds n ≤ r.nodes.size := extent_le_size n
  have same : SameWalk r (snapshotWithin (r.nodes.size + 1) options n)
      (snapshotWithin depth options n) :=
    snapshotWithin_same h options (by omega) (by omega)
  rw [snapshot, Act.bind_run, Act.registry_run]
  exact (same r rfl).1

/-- A table is the same with every depth limit above the number of nodes. -/
theorem table_run_eq (h : r.Acyclic) {depth : Nat} (hd : r.nodes.size < depth) (n : NodeId)
    (update : Bool) (width : Nat) :
    (n.table update width) r = (tableWithin update width depth n) r := by
  have bound : r.extent r.Holds n ≤ r.nodes.size := extent_le_size n
  have same : SameWalk r (tableWithin update width (r.nodes.size + 1) n)
      (tableWithin update width depth n) :=
    tableWithin_same h update width (by omega) (by omega)
  rw [table, Act.bind_run, Act.registry_run]
  exact (same r rfl).1

end NodeId
end LabRegistry

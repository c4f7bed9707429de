import LabRegistry.Proofs.Engine.Effects
import LabRegistry.Registry.Snapshot
import LabRegistry.Registry.Table

/-!
# What snapshots and tables keep

Snapshots and tables visit the parameters of a tree of nodes. All that they may do to the registry
are gets, so they obey whatever gets obey.
-/
namespace LabRegistry

namespace Discipline

variable {D : Discipline} {α : Type} (get : ∀ p : ParamId, D.Obeys p.get) (update : Bool)

include get

private theorem refreshShown (p : ParamId) : D.Obeys (p.refreshShown update) := by
  have shown (b : Bool) : D.Obeys (do if b then let _ ← p.get : Act RegistryError Unit) := by
    cases b with
    | true => exact .bind (get p) fun _ => .pure _
    | false => exact .pure _
  cases update with
  | true => exact .bind (.read fun _ => rfl) fun param => shown _
  | false => exact .pure _

private theorem paramSnapshot (p : ParamId) : D.Obeys (p.snapshot update) :=
  .bind (refreshShown get update p) fun _ => .bind (.read fun _ => rfl) fun _ =>
    .bind (.orEndless _) fun _ => .pure _

private theorem addShown (members : List (String × Value)) (name : String) (p : ParamId) :
    D.Obeys (NodeId.addShown update members name p) := by
  refine .bind (.read fun _ => rfl) fun param => ?_
  split
  · exact .bind (refreshShown get update p) fun _ => .bind (.read fun _ => rfl) fun _ => .pure _
  · exact .pure _

private theorem tableRow (column width : Nat) (name : String) (p : ParamId) :
    D.Obeys (NodeId.tableRow update column width name p) :=
  .bind (refreshShown get update p) fun _ => .bind (.read fun _ => rfl) fun _ => .pure _

omit get in
private theorem summaries {summary : α → Act RegistryError (List (String × Value))}
    (h : ∀ x, D.Obeys (summary x)) (entries : List (String × α)) :
    D.Obeys (NodeId.summaries summary entries) :=
  .bind (.mapM (fun entry => .bind (h entry.2) fun _ => .pure _) entries) fun _ => .pure _

private theorem snapshotWithin (depth : Nat) (options : SnapshotOptions) (n : NodeId) :
    D.Obeys (NodeId.snapshotWithin depth options n) := by
  induction depth generalizing options n with
  | zero => exact .throw _
  | succ depth ih =>
    refine .bind (.read fun _ => rfl) fun node => ?_
    dsimp only
    split
    · refine .bind (.foldlM (fun _ _ => addShown get _ _ _ _) _ _) fun shown => ?_
      exact .foldlM (fun _ _ => .bind (ih _ _) fun _ => .pure _) _ _
    · exact .bind (summaries (paramSnapshot get _) _) fun _ => .bind (summaries (ih _) _) fun _ =>
        .bind (summaries (ih _) _) fun _ => .pure _

theorem snapshot (options : SnapshotOptions) (n : NodeId) : D.Obeys (n.snapshot options) :=
  .bind .registry fun _ => snapshotWithin get _ options n

private theorem tableWithin (width depth : Nat) (n : NodeId) :
    D.Obeys (NodeId.tableWithin update width depth n) := by
  induction depth generalizing n with
  | zero => exact .throw _
  | succ depth ih =>
    exact .bind (.read fun _ => rfl) fun _ => .bind (displayName n) fun _ =>
      .bind (.mapM (fun _ => tableRow get _ _ _ _ _) _) fun _ => .bind (.mapM ih _) fun _ => .pure _

theorem table (width : Nat) (n : NodeId) : D.Obeys (n.table update width) :=
  .bind .registry fun _ => tableWithin get update width _ n

end Discipline

namespace Effects

theorem refreshShown (update : Bool) (p : ParamId) : (p.refreshShown update).Keeps Effects :=
  discipline.refreshShown get update p

theorem paramSnapshot (update : Bool) (p : ParamId) : (p.snapshot update).Keeps Effects :=
  discipline.paramSnapshot get update p

theorem addShown (update : Bool) (members : List (String × Value)) (name : String) (p : ParamId) :
    (NodeId.addShown update members name p).Keeps Effects :=
  discipline.addShown get update members name p

theorem tableRow (update : Bool) (column width : Nat) (name : String) (p : ParamId) :
    (NodeId.tableRow update column width name p).Keeps Effects :=
  discipline.tableRow get update column width name p

theorem snapshotWithin (depth : Nat) (options : SnapshotOptions) (n : NodeId) :
    (NodeId.snapshotWithin depth options n).Keeps Effects :=
  discipline.snapshotWithin get depth options n

end Effects
end LabRegistry

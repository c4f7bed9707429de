import LabRegistry.Proofs.Binding.Command
import LabRegistry.Proofs.Binding.Frame
import LabRegistry.Proofs.Containment.Walk
import LabRegistry.Proofs.Engine.Setup
import Mathlib.Data.List.Nodup
import Mathlib.Data.List.Perm.Subperm

/-!
# What the short form of a snapshot reports

The short form enters the class tag, the shown parameters and the child nodes into one object, each
under its own key. The three kinds of keys are not kept apart: a later entry takes the place of an
earlier one under the same key, so every member has its entry exactly if all keys differ.
-/
namespace LabRegistry

/-! ## Entering one after the other -/

namespace Entries

variable {α : Type}

/-- The entries after entering some more, each under its key. -/
def enter (entries more : List (String × α)) : List (String × α) :=
  more.foldl (fun entries (key, value) => insert key value entries) entries

@[simp] theorem enter_nil (entries : List (String × α)) : enter entries [] = entries := rfl

@[simp] theorem enter_cons (entries : List (String × α)) (entry : String × α)
    (more : List (String × α)) :
    enter entries (entry :: more) = enter (insert entry.1 entry.2 entries) more := rfl

theorem enter_append (entries more last : List (String × α)) :
    enter entries (more ++ last) = enter (enter entries more) last :=
  List.foldl_append

@[simp] theorem keys_append (entries more : List (String × α)) :
    keys (entries ++ more) = keys entries ++ keys more := List.map_append

private theorem mem_keys_enter {key : String} {entries more : List (String × α)} :
    key ∈ keys (enter entries more) ↔ key ∈ keys (entries ++ more) := by
  induction more generalizing entries with
  | nil => simp
  | cons entry more ih =>
    rw [enter_cons, ih, keys_append, keys_append, List.mem_append, mem_keys_insert, List.mem_append]
    simp [keys, or_assoc, or_left_comm]

theorem nodup_keys_enter {entries more : List (String × α)} (h : (keys entries).Nodup) :
    (keys (enter entries more)).Nodup := by
  induction more generalizing entries with
  | nil => exact h
  | cons entry more ih => exact ih (nodup_keys_insert _ _ h)

theorem forall_mem_enter {P : α → Prop} {entries more : List (String × α)}
    (old : ∀ entry ∈ entries, P entry.2) (new : ∀ entry ∈ more, P entry.2) :
    ∀ entry ∈ enter entries more, P entry.2 := by
  induction more generalizing entries with
  | nil => exact old
  | cons first more ih =>
    refine ih (fun entry mem => ?_) fun entry mem => new entry (List.mem_cons_of_mem _ mem)
    rcases mem_of_mem_insert mem with value | mem
    · rw [value]
      exact new first List.mem_cons_self
    · exact old entry mem

private theorem enter_of_nodup {entries more : List (String × α)}
    (h : (keys (entries ++ more)).Nodup) :
    enter entries more = entries ++ more := by
  induction more generalizing entries with
  | nil => simp
  | cons entry more ih =>
    have fresh : entry.1 ∉ keys entries := by
      intro mem
      rw [keys_append, List.nodup_append] at h
      exact h.2.2 _ mem _ (by simp [keys]) rfl
    rw [enter_cons, insert_of_notMem fresh, ih (by simpa using h)]
    simp

/-- Every entry keeps its place exactly if the keys differ. -/
theorem length_enter_iff (entries : List (String × α)) :
    (enter [] entries).length = entries.length ↔ (keys entries).Nodup := by
  constructor
  · intro same
    have distinct : (keys (enter [] entries)).Nodup := nodup_keys_enter List.nodup_nil
    have within : (keys (enter [] entries)).Subperm (keys entries) :=
      List.subperm_of_subset distinct fun key mem => by simpa using mem_keys_enter.mp mem
    have all : (keys (enter [] entries)).Perm (keys entries) :=
      within.perm_of_length_le (by simp [keys, same])
    exact all.nodup_iff.mp distinct
  · intro distinct
    rw [enter_of_nodup (by simpa using distinct), List.nil_append]

end Entries

/-! ## The members of a short form -/

namespace Registry

/-- The parameters of a node that snapshots show. -/
def shownParameters (r : Registry) (n : NodeId) : List (String × ParamId) :=
  (r.node n).parameters.entries.filter fun entry => (r.param entry.2).inSnapshot

def shortMember (r : Registry) (entry : String × ParamId) : String × Member :=
  (simplifiedKey entry.1 (r.param entry.2).unit, .parameter entry.2)

/-- What the short form of a node reports besides the class tag, each member with its key. -/
def shortMembers (r : Registry) (n : NodeId) : List (String × Member) :=
  (r.shownParameters n).map r.shortMember ++
    (r.node n).children.entries.map fun entry => (entry.1, .node entry.2)

private theorem length_shortMembers (r : Registry) (n : NodeId) :
    (r.shortMembers n).length =
      (r.shownParameters n).length + (r.node n).children.entries.length := by
  simp [shortMembers]

end Registry

/-- What a short form reports of a member: the cached value of a parameter, which is got before if
the snapshot updates, and the snapshot of a node. -/
def Member.reported (update : Bool) : Member → Act RegistryError Value
  | .parameter p => do
    p.refreshShown update
    p.latest
  | .node child => return .object (← child.snapshot { update })

namespace NodeId

variable {r : Registry} {n : NodeId} {α : Type}

private theorem snapshotWithin_succ (depth : Nat) (options : SnapshotOptions) (n : NodeId) :
    Act.Refines (fun _ => True) (snapshotWithin depth options n)
      (snapshotWithin (depth + 1) options n) := by
  have same {α : Type} (act : Act RegistryError α) : Act.Refines (fun _ => True) act act :=
    fun _ _ _ _ h => ⟨h, trivial⟩
  induction depth generalizing options n with
  | zero =>
    intro r _ x after h
    cases h
  | succ depth ih =>
    have summary {entries : List (String × NodeId)} : Act.Refines (fun _ => True)
        (summaries (snapshotWithin depth { update := options.update }) entries)
        (summaries (snapshotWithin (depth + 1) { update := options.update }) entries) :=
      .bind (.mapM (fun entry => .bind (ih _ _) fun _ => same _) _) fun _ => same _
    rw [snapshotWithin, snapshotWithin]
    refine .bind (same _) fun node => ?_
    dsimp only
    split
    · refine .bind (same _) fun shown => .foldlM (fun members entry => ?_) _ _
      exact .bind (ih _ _) fun _ => same _
    · exact .bind (same _) fun _ => .bind summary fun _ => .bind summary fun _ => same _

private theorem snapshotWithin_mono {depth depth' : Nat} (le : depth ≤ depth')
    {options : SnapshotOptions}
    {members : List (String × Value)} {after : Registry}
    (h : snapshotWithin depth options n r = (.ok members, after)) :
    snapshotWithin depth' options n r = (.ok members, after) := by
  induction le with
  | refl => exact h
  | step _ ih => exact (snapshotWithin_succ _ options n r trivial ih).1

private abbrev enterReported (update : Bool) (members : List (String × Value))
    (entry : String × Member) : Act RegistryError (List (String × Value)) :=
  return Entries.insert entry.1 (← entry.2.reported update) members

/-- Entering members as they are reported is entering them once all are reported. -/
private theorem foldlM_enterReported (update : Bool) (entries : List (String × Member))
    (members : List (String × Value)) :
    entries.foldlM (enterReported update) members = (do
      let values ← entries.mapM (·.2.reported update)
      return Entries.enter members ((Entries.keys entries).zip values)) := by
  induction entries generalizing members with
  | nil => rfl
  | cons entry entries ih =>
    simp only [List.foldlM_cons, List.mapM_cons, bind_assoc, pure_bind, ih]
    rfl

private abbrev Passes (r s : Registry) : Prop := s.nodes = r.nodes ∧ r.SameSetups s

private theorem passes_of_effects {s after : Registry} (hs : Passes r s) (h : Effects s after) :
    Passes r after :=
  ⟨h.sameNodes.nodes.trans hs.1, IsTrans.trans _ _ _ hs.2 h.sameSetups⟩

private theorem refines_of_effects {act : Act RegistryError α} (h : act.Keeps Effects) :
    Act.Refines (Passes r) act act :=
  .of_agree (.of_keeps h fun _ _ => passes_of_effects)

private theorem addShown_of_shown {p : ParamId} (shown : (r.param p).inSnapshot = true)
    (update : Bool) (members : List (String × Value)) (name : String) :
    Act.Refines (Passes r) (addShown update members name p)
      (enterReported update members (r.shortMember (name, p))) := by
  have read : Act.Refines (Passes r)
      (do
        let param ← p.state
        return Entries.insert (simplifiedKey name param.unit) param.value members)
      (do
        let value ← p.latest
        return Entries.insert (simplifiedKey name (r.param p).unit) value members :
        Act RegistryError _) := by
    intro s hs x after h
    rw [Act.bind_run, ParamId.state_run] at h
    dsimp only at h
    rw [hs.2.unit p] at h
    cases h
    exact ⟨rfl, hs⟩
  have assoc : enterReported update members (r.shortMember (name, p)) = (do
      p.refreshShown update
      let value ← p.latest
      return Entries.insert (simplifiedKey name (r.param p).unit) value members) := by
    simp only [enterReported, Registry.shortMember, Member.reported, bind_assoc]
  intro s hs x after h
  rw [addShown, Act.bind_run, ParamId.state_run] at h
  dsimp only at h
  rw [hs.2.inSnapshot p, if_pos shown] at h
  rw [assoc]
  exact Act.Refines.bind (refines_of_effects (Effects.refreshShown update p)) (fun _ => read) s hs h

/-- The parameters that are not shown can be left out beforehand. -/
private theorem addShown_refines (update : Bool) (entries : List (String × ParamId))
    (members : List (String × Value)) :
    Act.Refines (Passes r)
      (entries.foldlM (fun members entry => addShown update members entry.1 entry.2) members)
      (((entries.filter fun entry => (r.param entry.2).inSnapshot).map r.shortMember).foldlM
        (enterReported update) members) := by
  induction entries generalizing members with
  | nil => exact .pure _
  | cons entry entries ih =>
    obtain ⟨name, p⟩ := entry
    rw [List.foldlM_cons, List.filter_cons]
    split
    case isTrue shown =>
      rw [List.map_cons, List.foldlM_cons]
      exact .bind (addShown_of_shown shown update members name) ih
    case isFalse hidden =>
      intro s hs x after h
      rw [Act.bind_run, addShown, Act.bind_run, ParamId.state_run] at h
      dsimp only at h
      rw [hs.2.inSnapshot p, if_neg hidden] at h
      exact ih members s hs h

private theorem below_refines (options : SnapshotOptions) (child : NodeId) :
    Act.Refines (Passes r) (snapshotWithin r.nodes.size options child) (child.snapshot options) := by
  intro s hs members after h
  have effects : Effects s after := by
    have keeps := Effects.snapshotWithin r.nodes.size options child s
    rwa [h] at keeps
  refine ⟨?_, passes_of_effects hs effects⟩
  rw [snapshot, Act.bind_run, Act.registry_run]
  exact snapshotWithin_mono (by rw [hs.1]; exact Nat.le_succ _) h

private theorem snapshot_run_short {options : SnapshotOptions} {members : List (String × Value)}
    {after : Registry} (h : n.snapshot options r = (.ok members, after))
    (short : options.simplify.getD (r.node n).config.shortSnapshots = true) :
    (r.shortMembers n).foldlM (enterReported options.update)
      [(classKey, .string (r.node n).config.classTag)] r = (.ok members, after) := by
  have children (members : List (String × Value)) : Act.Refines (Passes r)
      ((r.node n).children.entries.foldlM (fun members entry =>
        return Entries.insert entry.1 (Value.object
          (← snapshotWithin r.nodes.size { update := options.update } entry.2)) members) members)
      (((r.node n).children.entries.map fun entry => (entry.1, Member.node entry.2)).foldlM
        (enterReported options.update) members) := by
    rw [List.foldlM_map]
    refine .foldlM (fun members entry => ?_) _ _
    simp only [enterReported, Member.reported, bind_assoc, pure_bind]
    exact .bind (below_refines _ _) fun _ => .pure _
  rw [snapshot, Act.bind_run, Act.registry_run] at h
  dsimp only at h
  rw [snapshotWithin, Act.bind_run, state_run] at h
  dsimp only at h
  rw [if_pos short] at h
  rw [Registry.shortMembers, List.foldlM_append]
  exact (Act.Refines.bind (addShown_refines _ _ _) children r ⟨rfl, refl r⟩ h).1

/-- The short form holds the class tag and what is reported of every shown parameter and every
child node, entered in this order. All of them have an entry exactly if their keys differ, and then
the short form consists of these entries. -/
theorem short_snapshot {options : SnapshotOptions} {members : List (String × Value)}
    {after : Registry} (h : n.snapshot options r = (.ok members, after))
    (short : options.simplify.getD (r.node n).config.shortSnapshots = true) :
    ∃ values,
      (r.shortMembers n).mapM (·.2.reported options.update) r = (.ok values, after) ∧
      values.length = (r.shortMembers n).length ∧
      let keys := classKey :: Entries.keys (r.shortMembers n)
      let entries := keys.zip (.string (r.node n).config.classTag :: values)
      members = Entries.enter [] entries ∧
      (Entries.keys members).Nodup ∧
      (members.length =
        1 + (r.shownParameters n).length + (r.node n).children.entries.length ↔ keys.Nodup) ∧
      (keys.Nodup → members = entries) := by
  have run := snapshot_run_short h short
  rw [foldlM_enterReported, Act.bind_run] at run
  rcases reported : (r.shortMembers n).mapM (·.2.reported options.update) r with
    ⟨halt | values, final⟩
  all_goals rw [reported] at run
  · cases run
  · cases run
    have length : values.length = (r.shortMembers n).length := Act.length_of_mapM reported
    have same : Entries.keys ((classKey :: Entries.keys (r.shortMembers n)).zip
        (.string (r.node n).config.classTag :: values)) =
          classKey :: Entries.keys (r.shortMembers n) :=
      List.map_fst_zip (by simp [Entries.keys, length])
    have count : 1 + (r.shownParameters n).length + (r.node n).children.entries.length =
        ((classKey :: Entries.keys (r.shortMembers n)).zip
          (.string (r.node n).config.classTag :: values)).length := by
      simp [Entries.keys, length, Registry.length_shortMembers]
      omega
    refine ⟨values, rfl, length, rfl, ?_, ?_, ?_⟩
    · exact Entries.nodup_keys_enter (by simp [Entries.keys])
    · have distinct := Entries.length_enter_iff ((classKey :: Entries.keys (r.shortMembers n)).zip
        (.string (r.node n).config.classTag :: values))
      rwa [same, ← count] at distinct
    · intro distinct
      rw [← same, ← List.nil_append (List.zip _ _)] at distinct
      exact Entries.enter_of_nodup distinct

theorem short_snapshot_with_child :
    let r := (Registry.start {} default).run [
      .createNode "n" (some "n") {}, .createNode "c" (some "c") {},
      .createParameter "p" { name := "x", unit := some "s", initial := .bool true },
      .addParameter ⟨0⟩ ⟨0⟩, .addChild ⟨0⟩ "c" ⟨1⟩]
    ∃ members after, (⟨0⟩ : NodeId).snapshot { simplify := some true } r = (.ok members, after) ∧
      members.length = 3 := by
  intro r
  have taken : (⟨0⟩ : NodeId).snapshot { simplify := some true } r = (.ok _, _) := rfl
  obtain ⟨values, -, -, -, -, count, -⟩ := short_snapshot taken rfl
  exact ⟨_, _, taken, count.mpr (by decide +kernel)⟩

/-- A parameter may have the key of another one with its unit; only the later of the two is left. -/
theorem short_snapshot_drops_member :
    let r := (Registry.start {} default).run [
      .createNode "n" (some "n") {},
      .createParameter "p" { name := "x", unit := some "s", initial := .bool true },
      .createParameter "q" { name := "x (s)" },
      .addParameter ⟨0⟩ ⟨0⟩, .addParameter ⟨0⟩ ⟨1⟩]
    r.isAlive ⟨0⟩ = true ∧
      1 + (r.shownParameters ⟨0⟩).length + (r.node ⟨0⟩).children.entries.length = 3 ∧
      ∃ members after, (⟨0⟩ : NodeId).snapshot { simplify := some true } r = (.ok members, after) ∧
        members.length = 2 := by
  refine ⟨by decide +kernel, by decide +kernel, _, _, rfl, ?_⟩
  decide +kernel

end NodeId
end LabRegistry

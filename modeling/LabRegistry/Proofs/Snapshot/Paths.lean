import LabRegistry.Proofs.Containment.Attained
import LabRegistry.Proofs.Snapshot.Image

/-!
# Paths through snapshots

Where no node has the short form, a snapshot is a faithful image: the same names lead through the nodes
and through the snapshot, and where they lead to a node they lead to what depicts it.
-/
namespace LabRegistry

namespace Entries

variable {α β : Type} (f : α → β) (entries : List (String × α))

private theorem get?_map (key : String) :
    get? key (entries.map fun entry => (entry.1, f entry.2)) = (get? key entries).map f := by
  induction entries with
  | nil => rfl
  | cons entry entries ih =>
    rw [List.map_cons, get?, get?]
    split
    · rfl
    · exact ih

private theorem keys_map : keys (entries.map fun entry => (entry.1, f entry.2)) = keys entries := by
  rw [keys, List.map_map]
  rfl

end Entries

/-! ## Following names -/

/-- The two maps of a node that hold nodes. -/
inductive Branch where
  | child
  | submodule

namespace Branch

def nodes (node : Node) : Branch → OrderedMap NodeId
  | child => node.children
  | submodule => node.submodules

def key : Branch → String
  | child => "parameter_nodes"
  | submodule => "submodules"

end Branch

/-- The node to which the names lead from `n`. -/
def Registry.follow (r : Registry) (n : NodeId) : List (Branch × String) → Option NodeId
  | [] => some n
  | (branch, name) :: path => ((branch.nodes (r.node n)).get? name).bind (r.follow · path)

namespace Value

def member? (key : String) : Value → Option Value
  | .object members => Entries.get? key members
  | _ => none

def follow (v : Value) : List (Branch × String) → Option Value
  | [] => some v
  | (branch, name) :: path => ((v.member? branch.key).bind (member? name)).bind (follow · path)

end Value

namespace Registry

variable {r : Registry} {n : NodeId}

private theorem holds_of_branch {branch : Branch} {name : String} {m : NodeId}
    (found : (branch.nodes (r.node n)).get? name = some m) : r.Holds n m := by
  have mem := Entries.mem_of_get? found
  cases branch with
  | child => exact NodeId.holds_of_child mem
  | submodule => exact NodeId.holds_of_submodule mem

private theorem encloses_of_follow {path : List (Branch × String)} {m : NodeId}
    (found : r.follow n path = some m) : r.Encloses n m := by
  induction path generalizing n with
  | nil =>
    cases found
    exact .refl
  | cons step path ih =>
    obtain ⟨branch, name⟩ := step
    obtain ⟨next, first, rest⟩ := Option.bind_eq_some_iff.mp found
    exact .head (holds_of_branch first) (ih rest)

private theorem Acyclic.image_of_full (h : r.Acyclic)
    (full : (r.node n).config.shortSnapshots = false) :
    r.image none n = [(classKey, .string (r.node n).config.classTag),
      ("name", ((r.node n).name.map Value.string).getD .null),
      ("parameters", .object ((r.node n).parameters.entries.map fun entry =>
        (entry.1, .object (r.paramImage entry.2)))),
      ("parameter_nodes", .object ((r.node n).children.entries.map fun entry =>
        (entry.1, .object (r.image none entry.2)))),
      ("functions", .object ((r.node n).functions.keys.map fun name => (name, functionSummary name))),
      ("submodules", .object ((r.node n).submodules.entries.map fun entry =>
        (entry.1, .object (r.image none entry.2))))] := by
  rw [h.image_eq, imageOver]
  dsimp only [Option.getD_none]
  rw [full]
  rfl

/-- Names lead through the image of a node to the images of the nodes to which they lead. -/
theorem Acyclic.follow_image (h : r.Acyclic)
    (full : ∀ m, r.Encloses n m → (r.node m).config.shortSnapshots = false)
    (path : List (Branch × String)) :
    (Value.object (r.image none n)).follow path =
      (r.follow n path).map fun m => .object (r.image none m) := by
  induction path generalizing n with
  | nil => rfl
  | cons step path ih =>
    obtain ⟨branch, name⟩ := step
    have listed : ((Value.object (r.image none n)).member? branch.key).bind (Value.member? name) =
        ((branch.nodes (r.node n)).get? name).map fun m => .object (r.image none m) := by
      rw [OrderedMap.get?, ← Entries.get?_map, Value.member?, h.image_of_full (full n .refl)]
      cases branch <;> rfl
    rw [Value.follow, listed, follow]
    cases found : (branch.nodes (r.node n)).get? name with
    | none => rfl
    | some m => exact ih fun below path => full below (.head (holds_of_branch found) path)

/-! ## What snapshots tell of nodes -/

/-- The summary of a parameter gives its current names, its label and what it has of the rest. -/
structure Summarizes (r : Registry) (p : ParamId) (summary : List (String × Value)) : Prop where
  fullName : ∃ name, r.paramName? p = some name ∧ Entries.get? "full_name" summary = some (.string name)
  name : Entries.get? "name" summary = some (.string (r.param p).name)
  label : Entries.get? "label" summary = some (.string (r.param p).shownLabel)
  unit : Entries.get? "unit" summary = (r.param p).unit.map .string
  value : Entries.get? "value" summary = if (r.param p).inSnapshot then some (r.param p).value else none
  raw : Entries.get? "raw_value" summary = if (r.param p).inSnapshot then some (r.param p).raw else none
  timestamp : Entries.get? "timestamp" summary = (r.param p).stamp.map fun stamp => .string stamp.timestamp

/-- Under the key is an object with the names as keys, in this order. -/
def Lists (members : List (String × Value)) (key : String) (names : List String) : Prop :=
  ∃ entries, Entries.get? key members = some (.object entries) ∧ Entries.keys entries = names

/-- The object gives the names of what the node has, in the order of insertion, and summarizes its
parameters. -/
structure Depicts (r : Registry) (n : NodeId) (members : List (String × Value)) : Prop where
  parameters : Lists members "parameters" (r.node n).parameters.keys
  functions : Lists members "functions" (r.node n).functions.keys
  children : Lists members "parameter_nodes" (r.node n).children.keys
  submodules : Lists members "submodules" (r.node n).submodules.keys
  summaries : ∀ name p, (r.node n).parameters.get? name = some p → ∃ summary,
    ((Value.object members).member? "parameters").bind (Value.member? name) = some (.object summary) ∧
      r.Summarizes p summary

private theorem summarizes_paramImage (ends : ∀ m, r.ParentsEnd m) (p : ParamId) :
    r.Summarizes p (r.paramImage p) := by
  have named := paramName?_eq_some ends p
  rw [paramImage, Parameter.summary]
  constructor
  · exact ⟨_, named, rfl⟩
  · rfl
  · rfl
  all_goals
    cases (r.param p).unit <;> cases (r.param p).stamp <;> cases (r.param p).inSnapshot <;> rfl

private theorem Acyclic.depicts_image (h : r.Acyclic) (ends : ∀ m, r.ParentsEnd m)
    (full : (r.node n).config.shortSnapshots = false) : r.Depicts n (r.image none n) := by
  rw [h.image_of_full full]
  have below := Entries.keys_map fun m => Value.object (r.image none m)
  have parameters := Entries.keys_map fun p => Value.object (r.paramImage p)
  refine ⟨⟨_, rfl, parameters _⟩, ⟨_, rfl, ?_⟩, ⟨_, rfl, below _⟩, ⟨_, rfl, below _⟩,
    fun name p found => ⟨_, ?_, summarizes_paramImage ends p⟩⟩
  · rw [Entries.keys, List.map_map]
    exact List.map_id _
  · have summary := Entries.get?_map (fun p => Value.object (r.paramImage p))
      (r.node n).parameters.entries name
    rw [OrderedMap.get?] at found
    rw [found] at summary
    exact summary

/-- Where no node below has the short form, a snapshot succeeds and changes nothing, and names lead
through it exactly if they lead through the nodes. Where they lead to a node, the snapshot depicts it. -/
theorem snapshot_depicts_of_attained (attained : r.Attained) (ends : ∀ m, r.ParentsEnd m)
    (full : ∀ m, r.Encloses n m → (r.node m).config.shortSnapshots = false) :
    ∃ members, n.snapshot {} r = (.ok members, r) ∧ ∀ path,
      (((Value.object members).follow path).isSome ↔ (r.follow n path).isSome) ∧
      ∀ m, r.follow n path = some m → ∃ object,
        (Value.object members).follow path = some (.object object) ∧ r.Depicts m object := by
  have acyclic := attained.acyclic
  refine ⟨r.image none n, n.snapshot_run acyclic ends none, fun path => ⟨?_, fun m found => ?_⟩⟩
  · rw [acyclic.follow_image full, Option.isSome_map]
  · refine ⟨r.image none m, ?_, acyclic.depicts_image ends (full m (encloses_of_follow found))⟩
    rw [acyclic.follow_image full, found]
    rfl

/-- The snapshot of a bench depicts its probe. -/
theorem snapshot_depicts_of_attained_bench :
    let r := (start {} default).run
      [.createNode "bench" (some "bench") {}, .createNode "probe" (some "probe") {},
        .addSubmodule ⟨0⟩ "probe" ⟨1⟩, .createParameter "volts" (.chosen "volts" [.unit "V"]),
        .addParameter ⟨1⟩ ⟨0⟩]
    r.Attained ∧ (∀ m, r.ParentsEnd m) ∧
      (∀ m, r.Encloses ⟨0⟩ m → (r.node m).config.shortSnapshots = false) ∧
      ∃ members probe, NodeId.snapshot ⟨0⟩ {} r = (.ok members, r) ∧
        (Value.object members).follow [(.submodule, "probe")] = some (.object probe) ∧
        r.Depicts ⟨1⟩ probe := by
  intro r
  have attained : r.Attained := by
    refine attained_run {} default fun command mem => ?_
    simp only [List.mem_cons, List.not_mem_nil, or_false] at mem
    rcases mem with rfl | rfl | rfl | rfl | rfl
    all_goals rintro handle plan ⟨⟩
    exact ⟨"volts", [.unit "V"], rfl⟩
  have ends : ∀ m, r.ParentsEnd m := parentsEnd_of_paths (by decide +kernel)
  have full (m : NodeId) (_ : r.Encloses ⟨0⟩ m) : (r.node m).config.shortSnapshots = false := by
    by_cases inside : m.index < r.nodes.size
    · have all : ∀ i < r.nodes.size, (r.node ⟨i⟩).config.shortSnapshots = false := by decide +kernel
      exact all m.index inside
    · rw [node_of_size_le (Nat.le_of_not_lt inside)]
      rfl
  have found : r.follow ⟨0⟩ [(.submodule, "probe")] = some ⟨1⟩ := by decide +kernel
  obtain ⟨members, run, depicted⟩ := snapshot_depicts_of_attained attained ends full
  obtain ⟨probe, followed, depicts⟩ := (depicted _).2 _ found
  exact ⟨attained, ends, full, members, probe, run, followed, depicts⟩

end Registry
end LabRegistry

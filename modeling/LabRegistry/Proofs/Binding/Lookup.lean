import LabRegistry.Proofs.Binding.Members

/-!
# Looking members up

Since no name is in two maps of a node, asking for a member of one kind finds it exactly if the
name is of this kind, and it does not matter in which order a search goes through the maps. A search
that finds nothing fails with a message about the node, whose chain of parents must end for this.
-/
namespace LabRegistry

open Registry

/-- Asking for a member finds it if the name is of the kind asked for. If it is not, asking fails where
the chain of parents of the node ends. Both leave the registry as it was. -/
structure FindsKind {α : Type} (r : Registry) (n : NodeId) (name : String) (kind : MemberKind)
    (map : OrderedMap α) (act : Act RegistryError α) : Prop where
  found : (r.node n).kindOf name = some kind → ∃ x, map.get? name = some x ∧ act r = (.ok x, r)
  missing : (r.node n).kindOf name ≠ some kind → map.get? name = none ∧
    (r.ParentsEnd n → r.FailsAbout n (.noAttribute · name) (act r))

/-- Calling a function runs it if the name is that of a function. If it is not, calling fails where
the chain of parents of the node ends. -/
structure CallsFunction (r : Registry) (n : NodeId) (name : String) (args : List Value) : Prop where
  found : (r.node n).kindOf name = some .function → ∃ function,
    (r.node n).functions.get? name = some function ∧
      (n.call name args) r = (Request.call function (.withArgs args)).perform r
  missing : (r.node n).kindOf name ≠ some .function → r.ParentsEnd n →
    r.FailsAbout n (.noFunction · name) (n.call name args r)

/-- A name resolves to the only member that it belongs to, be it as an attribute or as an item. As an
attribute functions are not found, and as items neither functions nor fields. What is not found fails
where the chain of parents of the node ends. -/
structure ResolvesAlone (r : Registry) (n : NodeId) (name : String) : Prop where
  parameter : ∀ p, (r.node n).parameters.get? name = some p →
    n.resolve name r = (if (r.node n).config.forwards then do return .value (← p.get)
      else return .parameter p : Act RegistryError Attribute) r ∧
    n.item name r = (.ok (.parameter p), r)
  node : ∀ m, ((r.node n).children.get? name = some m ∨ (r.node n).submodules.get? name = some m) →
    n.resolve name r = (.ok (.node m), r) ∧ n.item name r = (.ok (.node m), r)
  field : ∀ v, (r.node n).fields.get? name = some v → n.resolve name r = (.ok (.field v), r)
  noAttribute : (∀ kind, (r.node n).kindOf name = some kind → kind = .function) →
    r.ParentsEnd n → r.FailsAbout n (.noAttribute · name) (n.resolve name r)
  noItem : (∀ kind, (r.node n).kindOf name = some kind → kind = .function ∨ kind = .field) →
    r.ParentsEnd n → r.FailsAbout n (.noAttribute · name) (n.item name r)

/-- What the first map that has the name has for it, the maps being searched in some order. -/
def Node.searchIn (node : Node) (order : List MemberKind) (name : String) : Option Found :=
  order.findSome? (node.lookup name)

namespace NodeId

/-- Resolves a name like `NodeId.resolve`, the maps being searched in some order. -/
def resolveIn (n : NodeId) (order : List MemberKind) (name : String) :
    Act RegistryError Attribute := do
  let node ← n.state
  match node.searchIn order name with
  | some (.parameter p) =>
    if node.config.forwards then return .value (← p.get) else return .parameter p
  | some (.parameterNode m) => return .node m
  | some (.submodule m) => return .node m
  | some (.field v) => return .field v
  | some (.function _) => n.failMissing name
  | none => n.failMissing name

/-- Resolves a name like `NodeId.item`, the maps being searched in some order. -/
def itemIn (n : NodeId) (order : List MemberKind) (name : String) : Act RegistryError Member := do
  match (← n.state).searchIn order name with
  | some (.parameter p) => return .parameter p
  | some (.parameterNode m) => return .node m
  | some (.submodule m) => return .node m
  | some (.field _) => n.failMissing name
  | some (.function _) => n.failMissing name
  | none => n.failMissing name

end NodeId

/-! ## Asking for one kind -/

section Clear

variable {r : Registry} {n : NodeId} {name : String} (clear : (r.node n).Unambiguous)
  {α : Type} (map : Node → OrderedMap α) {kind : MemberKind} {ofKind : α → Found}
  (own : ∀ node, node.lookup name kind = ((map node).get? name).map ofKind)

include clear own

private theorem get?_of_kindOf (h : (r.node n).kindOf name = some kind) :
    ∃ x, (map (r.node n)).get? name = some x := by
  have found := clear.kindOf_iff.mp h
  rw [own, Option.isSome_map] at found
  exact Option.isSome_iff_exists.mp found

private theorem get?_of_kindOf_ne (h : (r.node n).kindOf name ≠ some kind) :
    (map (r.node n)).get? name = none := by
  rw [← Option.not_isSome_iff_eq_none]
  intro found
  apply h
  rw [clear.kindOf_iff, own, Option.isSome_map]
  exact found

private theorem find_findsKind : FindsKind r n name kind (map (r.node n)) (n.find map name) where
  found h := by
    obtain ⟨x, hx⟩ := get?_of_kindOf clear map own h
    exact ⟨x, hx, NodeId.find_run hx⟩
  missing h := by
    have none := get?_of_kindOf_ne clear map own h
    exact ⟨none, fun ends => ends.failsAbout (NodeId.find_missing none)⟩

omit own in
private theorem call_callsFunction (args : List Value) : CallsFunction r n name args where
  found h := by
    obtain ⟨function, hfunction⟩ := get?_of_kindOf clear (·.functions) (fun _ => rfl) h
    refine ⟨function, hfunction, ?_⟩
    rw [NodeId.call, Act.bind_run, NodeId.state_run]
    dsimp only
    rw [hfunction]
  missing h ends := by
    have none := get?_of_kindOf_ne clear (·.functions) (fun _ => rfl) h
    rw [NodeId.call, Act.bind_run, NodeId.state_run]
    dsimp only
    rw [none]
    exact ends.failsAbout (NodeId.failNamed_run n _ r)

end Clear

/-! ## The order of a search -/

section Order

variable {node : Node} {name : String} (clear : node.Unambiguous)

include clear

private theorem searchIn_eq_some_iff {order : List MemberKind} {x : Found} :
    node.searchIn order name = some x ↔ ∃ kind ∈ order, node.lookup name kind = some x := by
  constructor
  · intro h
    exact List.exists_of_findSome?_eq_some h
  · rintro ⟨kind, mem, found⟩
    cases h : node.searchIn order name with
    | none =>
      have none := List.findSome?_eq_none_iff.mp h kind mem
      rw [found] at none
      cases none
    | some y =>
      obtain ⟨kind', _, found'⟩ := List.exists_of_findSome?_eq_some h
      have same := clear name kind kind' (by rw [found]; rfl) (by rw [found']; rfl)
      rw [← same, found] at found'
      rw [found']

private theorem searchIn_eq_none {order : List MemberKind}
    (h : ∀ kind ∈ order, node.kindOf name ≠ some kind) : node.searchIn order name = none := by
  refine List.findSome?_eq_none_iff.mpr fun kind mem => ?_
  rw [← Option.not_isSome_iff_eq_none, ← clear.kindOf_iff]
  exact h kind mem

private theorem searchIn_perm {order order' : List MemberKind} (perm : order.Perm order') :
    node.searchIn order name = node.searchIn order' name := by
  apply Option.ext
  intro x
  rw [searchIn_eq_some_iff clear, searchIn_eq_some_iff clear]
  constructor
  · rintro ⟨kind, mem, found⟩
    exact ⟨kind, perm.mem_iff.mp mem, found⟩
  · rintro ⟨kind, mem, found⟩
    exact ⟨kind, perm.mem_iff.mpr mem, found⟩

end Order

private theorem resolve_eq_resolveIn (n : NodeId) (name : String) :
    n.resolve name = n.resolveIn [.parameter, .parameterNode, .submodule, .field] name := by
  rw [NodeId.resolve, NodeId.resolveIn]
  congr 1
  funext node
  simp only [Node.searchIn, List.findSome?_cons, List.findSome?_nil, Node.lookup]
  cases node.parameters.get? name with
  | some p => rfl
  | none =>
    cases node.children.get? name with
    | some m => rfl
    | none =>
      cases node.submodules.get? name with
      | some m => rfl
      | none => cases node.fields.get? name <;> rfl

private theorem item_eq_itemIn (n : NodeId) (name : String) :
    n.item name = n.itemIn [.parameter, .parameterNode, .submodule] name := by
  rw [NodeId.item, NodeId.itemIn]
  congr 1
  funext node
  simp only [Node.searchIn, List.findSome?_cons, List.findSome?_nil, Node.lookup]
  cases node.parameters.get? name with
  | some p => rfl
  | none =>
    cases node.children.get? name with
    | some m => rfl
    | none => cases node.submodules.get? name <;> rfl

private theorem resolveIn_run_eq {r : Registry} {n : NodeId} {name : String}
    (clear : (r.node n).Unambiguous) {order order' : List MemberKind} (perm : order.Perm order') :
    (n.resolveIn order name) r = (n.resolveIn order' name) r := by
  rw [NodeId.resolveIn, NodeId.resolveIn, Act.bind_run, Act.bind_run, NodeId.state_run]
  dsimp only
  rw [searchIn_perm clear perm]

private theorem itemIn_run_eq {r : Registry} {n : NodeId} {name : String}
    (clear : (r.node n).Unambiguous) {order order' : List MemberKind} (perm : order.Perm order') :
    (n.itemIn order name) r = (n.itemIn order' name) r := by
  rw [NodeId.itemIn, NodeId.itemIn, Act.bind_run, Act.bind_run, NodeId.state_run]
  dsimp only
  rw [searchIn_perm clear perm]

private theorem resolvesAlone {r : Registry} {n : NodeId} {name : String}
    (clear : (r.node n).Unambiguous) :
    ResolvesAlone r n name := by
  -- Every map that is searched and has the name decides, as no other has it.
  have resolves {kind : MemberKind} {x : Found} (found : (r.node n).lookup name kind = some x)
      (searched : kind ∈ [.parameter, .parameterNode, .submodule, .field]) :
      (r.node n).searchIn [.parameter, .parameterNode, .submodule, .field] name = some x :=
    (searchIn_eq_some_iff clear).mpr ⟨kind, searched, found⟩
  have finds {kind : MemberKind} {x : Found} (found : (r.node n).lookup name kind = some x)
      (searched : kind ∈ [.parameter, .parameterNode, .submodule]) :
      (r.node n).searchIn [.parameter, .parameterNode, .submodule] name = some x :=
    (searchIn_eq_some_iff clear).mpr ⟨kind, searched, found⟩
  constructor
  all_goals simp only [resolve_eq_resolveIn, item_eq_itemIn, NodeId.resolveIn, NodeId.itemIn,
    Act.bind_run, NodeId.state_run]
  case parameter =>
    intro p found
    have own : (r.node n).lookup name .parameter = some (.parameter p) :=
      congrArg (Option.map Found.parameter) found
    rw [resolves own (by simp), finds own (by simp)]
    exact ⟨rfl, rfl⟩
  case node =>
    rintro m (found | found)
    · have own : (r.node n).lookup name .parameterNode = some (.parameterNode m) :=
        congrArg (Option.map Found.parameterNode) found
      rw [resolves own (by simp), finds own (by simp)]
      exact ⟨rfl, rfl⟩
    · have own : (r.node n).lookup name .submodule = some (.submodule m) :=
        congrArg (Option.map Found.submodule) found
      rw [resolves own (by simp), finds own (by simp)]
      exact ⟨rfl, rfl⟩
  case field =>
    intro v found
    have own : (r.node n).lookup name .field = some (.field v) :=
      congrArg (Option.map Found.field) found
    rw [resolves own (by simp)]
    rfl
  case noAttribute =>
    intro others ends
    rw [searchIn_eq_none clear fun kind searched own => by
      rw [others kind own] at searched
      simp at searched]
    exact ends.failsAbout (NodeId.failNamed_run n _ r)
  case noItem =>
    intro others ends
    rw [searchIn_eq_none clear fun kind searched own => by
      rcases others kind own with rfl | rfl
      all_goals simp at searched]
    exact ends.failsAbout (NodeId.failNamed_run n _ r)

/-- Whatever was done, a name of a node is in at most one of its maps. So asking for a member finds
it exactly if the name is of the kind asked for, and resolving a name gives the only member that has
it, in whatever order the maps are searched. -/
theorem members_of_run (log : Log) (now : Instant) (commands : List Command) (n : NodeId)
    (name : String) :
    let r := (start log now).run commands
    let node := r.node n
    (∀ kind kind', (node.lookup name kind).isSome → (node.lookup name kind').isSome →
      kind = kind') ∧
    (∀ kind, node.kindOf name = some kind ↔ (node.lookup name kind).isSome) ∧
    FindsKind r n name .parameter node.parameters (n.parameter name) ∧
    FindsKind r n name .parameterNode node.children (n.child name) ∧
    FindsKind r n name .submodule node.submodules (n.submodule name) ∧
    FindsKind r n name .field node.fields (n.field name) ∧
    (∀ args, CallsFunction r n name args) ∧
    ResolvesAlone r n name ∧
    (∀ order : List MemberKind, order.Perm [.parameter, .parameterNode, .submodule, .field] →
      (n.resolve name) r = (n.resolveIn order name) r) ∧
    ∀ order : List MemberKind, order.Perm [.parameter, .parameterNode, .submodule] →
      (n.item name) r = (n.itemIn order name) r := by
  intro r node
  have clear : node.Unambiguous := unambiguous_run log now commands n
  refine ⟨clear name, fun kind => clear.kindOf_iff, ?_, ?_, ?_, ?_, ?_, resolvesAlone clear, ?_, ?_⟩
  · exact find_findsKind clear _ fun _ => rfl
  · exact find_findsKind clear _ fun _ => rfl
  · exact find_findsKind clear _ fun _ => rfl
  · exact find_findsKind clear _ fun _ => rfl
  · exact call_callsFunction clear
  · intro order perm
    rw [resolve_eq_resolveIn]
    exact resolveIn_run_eq clear perm.symm
  · intro order perm
    rw [item_eq_itemIn]
    exact itemIn_run_eq clear perm.symm

/-- A field is no item and a function no attribute. And where two nodes are each other's parents, a
search that finds nothing does not fail either. -/
theorem members_beyond_search :
    (let r := (start {} default).run [
      .createNode "n" (some "n") {}, .bind ⟨0⟩ "f" (.field .null),
      .addFunction ⟨0⟩ "g" (.readRegister ⟨0⟩ "")]
    (r.node ⟨0⟩).kindOf "f" = some .field ∧
      ((⟨0⟩ : NodeId).item "f" r).1 = .error (.failed (.noAttribute "n" "f")) ∧
      (r.node ⟨0⟩).kindOf "g" = some .function ∧
      ((⟨0⟩ : NodeId).resolve "g" r).1 = .error (.failed (.noAttribute "n" "g"))) ∧
    let r := (start {} default).run [
      .createNode "a" (some "a") {}, .createNode "b" (some "b") {}, .createNode "c" (some "c") {},
      .bind ⟨0⟩ "x" (.node ⟨1⟩), .bind ⟨0⟩ "x" (.node ⟨2⟩), .bind ⟨1⟩ "y" (.node ⟨0⟩)]
    (r.node ⟨0⟩).kindOf "x" = some .parameterNode ∧
      ∀ cause, ((⟨0⟩ : NodeId).submodule "x" r).1 ≠ .error (.failed cause) := by
  constructor
  · exact ⟨by decide +kernel, rfl, by decide +kernel, rfl⟩
  · intro r
    have nameless : r.displayName? ⟨0⟩ = none := by decide +kernel
    have missing : (r.node ⟨0⟩).submodules.get? "x" = none := by decide +kernel
    refine ⟨by decide +kernel, fun cause failed => ?_⟩
    rw [NodeId.submodule, NodeId.find_missing missing, refusal, nameless] at failed
    cases failed

end LabRegistry

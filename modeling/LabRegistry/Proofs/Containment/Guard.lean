import LabRegistry.Proofs.Containment.Walk

/-!
# The guard against cycles

The guard is exact: in every state that a run leads to, it turns a binding away if the binding
would close a circle of containment, and never otherwise. Its message shows the name of the holder,
so it takes a chain of parents that ends to tell.
-/
namespace LabRegistry

open Registry

/-- Where the chain of parents of `n` ends, binding `child` below `n` as a member of a kind is
refused for containing its holder exactly if the name could be bound and `n` is `child` or inside it.
A refusal leaves the registry as it was. -/
structure GuardExact (r : Registry) (n child : NodeId) (kind : MemberKind) (name : String)
    (bind : Act RegistryError Unit) : Prop where
  refused : r.ParentsEnd n → (r.node n).Admits kind name → r.Encloses child n →
    r.FailsAbout n (.containsHolder · name) (bind r)
  only : ∀ node entered, (bind r).1 = .error (.failed (.containsHolder node entered)) →
    (r.node n).Admits kind name ∧ r.Encloses child n

private theorem attach_guardExact (r : Registry) (n child : NodeId) (kind : MemberKind)
    (name : String)
    (put : Node → Node) : GuardExact r n child kind name (n.attach kind name child put) where
  refused ends admits enclosed := ends.failsAbout (NodeId.attach_cyclic admits enclosed)
  only node entered h := by
    by_cases admits : (r.node n).Admits kind name
    · refine ⟨admits, ?_⟩
      by_contra free
      obtain ⟨mid, _, ⟨stopped, _⟩ | done⟩ := NodeId.attach_open put admits free
      · rw [stopped] at h
        cases h
      · rw [done] at h
        cases h
    · obtain ⟨existing, _, taken⟩ := NodeId.attach_taken child put admits
      rw [taken] at h
      obtain ⟨text, _, differ⟩ := refusal_eq_failed (Except.error.inj h)
      cases differ

/-- Whatever was done with nodes, no node contains itself, so that going down from holder to held
ends and no depth limit of a snapshot or a table counts; and the guard against cycles is exact for
every holder whose chain of parents ends. -/
theorem containment_of_run (log : Log) (now : Instant) (commands : List Command) :
    let r := (start log now).run commands
    (∀ n, ¬ Relation.TransGen r.Holds n n) ∧
    (WellFounded fun m n => r.Holds n m) ∧
    (∀ depth, r.nodes.size < depth → ∀ n : NodeId,
      (∀ options, (n.snapshot options) r = (NodeId.snapshotWithin depth options n) r) ∧
      ∀ update width, (n.table update width) r = (NodeId.tableWithin update width depth n) r) ∧
    ∀ (n child : NodeId) (name : String),
      GuardExact r n child .parameterNode name (n.bind name (.node child)) ∧
      GuardExact r n child .parameterNode name (n.addChild name child) ∧
      GuardExact r n child .submodule name (n.addSubmodule name child) := by
  intro r
  have acyclic : r.Acyclic := acyclic_run log now commands
  refine ⟨acyclic, acyclic.wellFounded, ?_, ?_⟩
  · intro depth hdepth n
    constructor
    · intro options
      exact n.snapshot_run_eq acyclic hdepth options
    · intro update width
      exact n.table_run_eq acyclic hdepth update width
  · intro n child name
    exact ⟨attach_guardExact r n child _ name _, attach_guardExact r n child _ name _,
      attach_guardExact r n child _ name _⟩

/-- Nodes 0 and 1 are each other's parents, since node 1 lost its place below node 0 and then took it
in. To bind node 1 below node 0 closes a circle of containment, but the refusal has no name to show. -/
theorem bind_between_parents_not_refused :
    let r := (start {} default).run [
      .createNode "a" (some "a") {}, .createNode "b" (some "b") {}, .createNode "c" (some "c") {},
      .bind ⟨0⟩ "x" (.node ⟨1⟩), .bind ⟨0⟩ "x" (.node ⟨2⟩), .bind ⟨1⟩ "y" (.node ⟨0⟩)]
    (r.node ⟨0⟩).Admits .parameterNode "z" ∧ r.Encloses ⟨1⟩ ⟨0⟩ ∧
      ∀ cause, ((⟨0⟩ : NodeId).bind "z" (.node ⟨1⟩) r).1 ≠ .error (.failed cause) := by
  intro r
  have admits : (r.node ⟨0⟩).Admits .parameterNode "z" := .inl (by decide +kernel)
  have enclosed : r.Encloses ⟨1⟩ ⟨0⟩ := contains_iff.mp (by decide +kernel)
  have nameless : r.displayName? ⟨0⟩ = none := by decide +kernel
  refine ⟨admits, enclosed, fun cause failed => ?_⟩
  rw [NodeId.bind, NodeId.addChild, NodeId.attach_cyclic admits enclosed, refusal, nameless] at failed
  cases failed

end LabRegistry

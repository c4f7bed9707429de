import LabRegistry.Proofs.Containment.Acyclic
import LabRegistry.Proofs.Validation.Reached

/-!
# Registries that operations lead to

Of the changes that operations are made of, only the entering of a node below another adds an edge of
containment, and it closes no circle. So whatever operations there were, of nodes, pulses, sequences,
instruments and stations, succeeding or failing, no node contains itself.
-/
namespace LabRegistry

open Registry

variable {r after : Registry}

private theorem Change.edges (h : Change r after) : ∃ bound : Option (NodeId × NodeId), ∀ n m,
    after.Holds n m → r.Holds n m ∨ bound = some (n, m) ∧ ¬ r.Encloses m n := by
  have same (nodes : after.nodes = r.nodes) : ∃ bound : Option (NodeId × NodeId), ∀ n m,
      after.Holds n m → r.Holds n m ∨ bound = some (n, m) ∧ ¬ r.Encloses m n :=
    ⟨none, fun n m edge => .inl (by rwa [Holds, held, node, nodes] at edge)⟩
  cases h with
  | request asked => exact same (Effects.perform asked r).sameNodes.nodes
  | effect effect values => exact same effect.sameNodes.nodes
  | elsewhere nodes params => exact same nodes
  | makeParameter sound now => exact same rfl
  | changeParameter p kept => exact same rfl
  | makeNode name config =>
    refine ⟨none, fun n m edge => .inl ?_⟩
    rw [Holds, held, node_push] at edge
    split at edge
    case isTrue => cases edge
    case isFalse => exact edge
  | @changeNode n f fewer =>
    refine ⟨none, fun a m edge => .inl ?_⟩
    rw [Holds, held, node_change] at edge
    split at edge
    case isTrue => exact fewer _ m edge
    case isFalse => exact edge
  | @enter n child put free more =>
    refine ⟨some (n, child), fun a m edge => ?_⟩
    rw [Holds, held, node_change] at edge
    split at edge
    case isTrue entered =>
      obtain ⟨rfl, -⟩ := entered
      rcases more _ m edge with rfl | old
      · exact .inr ⟨rfl, free⟩
      · exact .inl old
    case isFalse => exact .inl edge

namespace Registry

/-- The registries that come of an empty one by changes that operations make. -/
def Attained (r : Registry) : Prop := ∃ log now, Changes (start log now) r

private theorem Attained.act {ε α : Type} {act : Act ε α} (h : r.Attained)
    (changes : act.Keeps Changes) :
    (act r).2.Attained := by
  obtain ⟨log, now, before⟩ := h
  exact ⟨log, now, before.trans (changes r)⟩

private theorem Attained.run (h : r.Attained) {commands : List Command}
    (chosen : ∀ command ∈ commands, command.Chosen) : (r.run commands).Attained := by
  induction commands generalizing r with
  | nil => exact h
  | cons command commands ih =>
    refine @ih (r.step command) ?_ fun c mem => chosen c (List.mem_cons_of_mem _ mem)
    rw [step]
    split
    · exact h.act (chosen command List.mem_cons_self).changes
    · exact h

theorem attained_run (log : Log) (now : Instant) {commands : List Command}
    (chosen : ∀ command ∈ commands, command.Chosen) : ((start log now).run commands).Attained :=
  Attained.run ⟨log, now, .refl⟩ chosen

theorem Attained.acyclic (h : r.Attained) : r.Acyclic := by
  obtain ⟨log, now, changes⟩ := h
  induction changes with
  | refl => exact acyclic_start log now
  | tail _ change ih =>
    obtain ⟨bound, edges⟩ := change.edges
    exact ih.of_edges edges

end Registry
end LabRegistry

import LabRegistry.Proofs.Binding.Step
import LabRegistry.Proofs.Containment.Extent

/-!
# Containment has no cycles

A binding adds one edge of containment and is refused if it would close a circle; nothing else
adds edges. So no run leads to a node that contains itself, and going down from a node always ends.
-/
namespace LabRegistry.Registry

/-- No node contains itself. -/
def Acyclic (r : Registry) : Prop := ∀ n, ¬ Relation.TransGen r.Holds n n

variable {r after : Registry} {bound : Option (NodeId × NodeId)}

private theorem Acyclic.not_encloses (h : r.Acyclic) {n m : NodeId} (edge : r.Holds n m) :
    ¬ r.Encloses m n := by
  intro back
  exact h n (.head' edge back)

theorem Acyclic.extent_lt (h : r.Acyclic) {n m : NodeId} (edge : r.Holds n m) :
    r.extent r.Holds m < r.extent r.Holds n :=
  Registry.extent_lt edge.lt_size edge (h.not_encloses edge)

theorem Acyclic.wellFounded (h : r.Acyclic) : WellFounded fun m n => r.Holds n m := by
  have fewer : Subrelation (fun m n => r.Holds n m)
      (InvImage (· < ·) (r.extent r.Holds)) := fun edge => h.extent_lt edge
  exact fewer.wf (InvImage.wf _ Nat.lt_wfRel.wf)

section

variable (edges : ∀ n m, after.Holds n m → r.Holds n m ∨ bound = some (n, m) ∧ ¬ r.Encloses m n)

include edges

private theorem path_of_edges {x y : NodeId} (path : Relation.TransGen after.Holds x y) :
    Relation.TransGen r.Holds x y ∨ ∃ n m, bound = some (n, m) ∧ ¬ r.Encloses m n ∧
      r.Encloses x n ∧ r.Encloses m y := by
  induction path with
  | @single y edge =>
    rcases edges x y edge with old | ⟨new, free⟩
    · exact .inl (.single old)
    · exact .inr ⟨x, y, new, free, .refl, .refl⟩
  | @tail z y _ edge ih =>
    rcases edges z y edge with old | ⟨new, free⟩
    · rcases ih with path | ⟨n, m, bound, free, up, down⟩
      · exact .inl (path.tail old)
      · exact .inr ⟨n, m, bound, free, up, down.tail old⟩
    · rcases ih with path | ⟨n, m, bound, _, up, down⟩
      · exact .inr ⟨z, y, new, free, path.to_reflTransGen, .refl⟩
      · exact .inr ⟨z, y, new, free, by
          rw [bound] at new
          cases new
          exact up, .refl⟩

/-- An edge that closes no circle leaves a registry without cycles. -/
theorem Acyclic.of_edges (h : r.Acyclic) : after.Acyclic := by
  intro x cycle
  rcases path_of_edges edges cycle with old | ⟨n, m, _, free, up, down⟩
  · exact h x old
  · exact free (down.trans up)

end

theorem acyclic_start (log : Log) (now : Instant) : (start log now).Acyclic := by
  intro n cycle
  obtain ⟨m, edge, _⟩ := Relation.TransGen.head'_iff.mp cycle
  exact not_holds_start log now n m edge

/-- Whatever was done, no node contains itself. -/
theorem acyclic_run (log : Log) (now : Instant) (commands : List Command) :
    ((start log now).run commands).Acyclic := by
  have both : ((start log now).run commands).InRange ∧ ((start log now).run commands).Acyclic := by
    apply run_induction (P := fun r => r.InRange ∧ r.Acyclic)
    · exact ⟨inRange_start log now, acyclic_start log now⟩
    · intro r command h
      exact ⟨h.1.step command, h.2.of_edges (step_links h.1 command).held⟩
  exact both.2

end LabRegistry.Registry

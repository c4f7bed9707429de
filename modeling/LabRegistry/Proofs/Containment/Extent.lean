import LabRegistry.Proofs.Containment.Search

/-!
# Extents

The extent of a node along some links is the number of nodes of the registry that the links lead
to from it. It falls with every step that leads nowhere back, so it bounds how long such steps can
go on. The same holds of links between any numbered things.
-/
namespace LabRegistry

open Classical

section Numbered

variable {α : Type} (numbered : Nat → α) (size : Nat) (Link : α → α → Prop)

/-- How many of the first numbered things the links lead to from `x`, itself among them. -/
noncomputable def reachCount (x : α) : Nat :=
  ((Finset.range size).filter fun i => Relation.ReflTransGen Link x (numbered i)).card

theorem reachCount_le (x : α) : reachCount numbered size Link x ≤ size := by
  have h := Finset.card_filter_le (Finset.range size)
    fun i => Relation.ReflTransGen Link x (numbered i)
  rw [Finset.card_range] at h
  exact h

variable {numbered size Link} {x y : α}

theorem reachCount_pos {i : Nat} (inside : i < size)
    (reached : Relation.ReflTransGen Link x (numbered i)) :
    0 < reachCount numbered size Link x :=
  Finset.card_pos.mpr ⟨i, Finset.mem_filter.mpr ⟨Finset.mem_range.mpr inside, reached⟩⟩

theorem reachCount_lt {i : Nat} (inside : i < size) (self : numbered i = x) (link : Link x y)
    (away : ¬ Relation.ReflTransGen Link y x) :
    reachCount numbered size Link y < reachCount numbered size Link x := by
  subst self
  apply Finset.card_lt_card
  rw [Finset.ssubset_iff_of_subset]
  · refine ⟨i, ?_, ?_⟩
    · rw [Finset.mem_filter, Finset.mem_range]
      exact ⟨inside, .refl⟩
    · rw [Finset.mem_filter]
      rintro ⟨_, back⟩
      exact away back
  · intro i hi
    rw [Finset.mem_filter] at hi ⊢
    exact ⟨hi.1, .head link hi.2⟩

end Numbered

namespace Registry

/-- How many nodes the links lead to from `n`, the node itself among them. -/
noncomputable def extent (r : Registry) (Link : NodeId → NodeId → Prop) (n : NodeId) : Nat :=
  ((Finset.range r.nodes.size).filter fun i => Relation.ReflTransGen Link n ⟨i⟩).card

variable {r : Registry} {Link : NodeId → NodeId → Prop}

theorem extent_le_size (n : NodeId) : r.extent Link n ≤ r.nodes.size :=
  reachCount_le NodeId.mk r.nodes.size Link n

theorem extent_lt {n m : NodeId} (hn : n.index < r.nodes.size) (link : Link n m)
    (away : ¬ Relation.ReflTransGen Link m n) : r.extent Link m < r.extent Link n :=
  reachCount_lt hn (rfl : NodeId.mk n.index = n) link away

end Registry
end LabRegistry

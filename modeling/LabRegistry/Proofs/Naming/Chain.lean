import LabRegistry.Proofs.Containment.Extent
import LabRegistry.Registry.Naming

/-!
# Chains of parents

The path of a node exists exactly if its chain of parents ends. The fuel of `Registry.pathWithin`
does not matter then, since a chain that ends passes no node twice.
-/
namespace LabRegistry.Registry

/-- Going from parent to parent, one gets from `n` to a node without parent. -/
inductive ParentsEnd (r : Registry) : NodeId → Prop
  | top {n : NodeId} (h : r.parent? n = none) : ParentsEnd r n
  | step {n p : NodeId} (h : r.parent? n = some p) (hp : ParentsEnd r p) : ParentsEnd r n

theorem ParentsEnd.of_parent {r : Registry} {n : NodeId}
    (h : ∀ p, (r.node n).parent = some p → r.ParentsEnd p) : r.ParentsEnd n := by
  cases above : r.parent? n with
  | none => exact .top above
  | some p => exact .step above (h p (Option.filter_eq_some_iff.mp above).1)

def HasParent (r : Registry) (n p : NodeId) : Prop := r.parent? n = some p

variable {r : Registry}

theorem HasParent.lt_size {n p : NodeId} (h : r.HasParent n p) : n.index < r.nodes.size := by
  by_contra hn
  rw [HasParent, parent?, node_of_size_le (Nat.le_of_not_lt hn)] at h
  cases h

theorem HasParent.isAlive {n p : NodeId} (h : r.HasParent n p) : r.isAlive p = true :=
  (Option.filter_eq_some_iff.mp h).2

theorem HasParent.parent {n p : NodeId} (h : r.HasParent n p) : (r.node n).parent = some p :=
  (Option.filter_eq_some_iff.mp h).1

/-- Each ancestor of a node is above it on its only chain, so a chain that ends at the top cannot
come back. -/
theorem ParentsEnd.not_cyclic {n : NodeId} (h : r.ParentsEnd n) :
    ¬ Relation.TransGen r.HasParent n n := by
  induction h with
  | top ends =>
    intro cycle
    obtain ⟨p, link, _⟩ := Relation.TransGen.head'_iff.mp cycle
    rw [HasParent, ends] at link
    cases link
  | step link _ ih =>
    intro cycle
    obtain ⟨p, first, back⟩ := Relation.TransGen.head'_iff.mp cycle
    have same := first.symm.trans link
    cases same
    exact ih (.tail' back first)

/-- Where no node is its own ancestor, chains end, since there are only so many nodes. -/
theorem parentsEnd_of_not_cyclic (h : ∀ n, ¬ Relation.TransGen r.HasParent n n) (n : NodeId) :
    r.ParentsEnd n := by
  have bounded (fuel : Nat) (n : NodeId) (hn : r.extent r.HasParent n < fuel) : r.ParentsEnd n := by
    induction fuel generalizing n with
    | zero => omega
    | succ fuel ih =>
      cases hp : r.parent? n with
      | none => exact .top hp
      | some p =>
        have away : ¬ Relation.ReflTransGen r.HasParent p n := fun back => h n (.head' hp back)
        have shorter := extent_lt (HasParent.lt_size hp) hp away
        exact .step hp (ih p (by omega))
  exact bounded _ n (Nat.lt_succ_self _)

private theorem parentsEnd_of_pathWithin {fuel : Nat} {n : NodeId} {path : List String}
    (h : r.pathWithin fuel n = some path) : r.ParentsEnd n := by
  induction fuel generalizing n path with
  | zero => cases h
  | succ fuel ih =>
    rw [pathWithin] at h
    cases hp : r.parent? n with
    | none => exact .top hp
    | some p =>
      rw [hp] at h
      obtain ⟨above, habove, _⟩ := Option.bind_eq_some_iff.mp h
      exact .step hp (ih habove)

private theorem ParentsEnd.pathWithin {n : NodeId} (h : r.ParentsEnd n) {fuel : Nat}
    (hfuel : r.extent r.HasParent n < fuel) : (r.pathWithin fuel n).isSome := by
  induction h generalizing fuel with
  | top ends =>
    cases fuel with
    | zero => omega
    | succ fuel => simp [Registry.pathWithin, ends]
  | @step n p link above ih =>
    cases fuel with
    | zero => omega
    | succ fuel =>
      have away : ¬ Relation.ReflTransGen r.HasParent p n := by
        intro back
        exact above.not_cyclic (.tail' back link)
      have shorter := extent_lt (HasParent.lt_size link) link away
      have known : (r.pathWithin fuel p).isSome := ih (by omega)
      obtain ⟨path, hpath⟩ := Option.isSome_iff_exists.mp known
      simp [Registry.pathWithin, link, hpath]

theorem path?_isSome_iff {n : NodeId} : (r.path? n).isSome ↔ r.ParentsEnd n := by
  constructor
  · intro h
    obtain ⟨path, hpath⟩ := Option.isSome_iff_exists.mp h
    exact parentsEnd_of_pathWithin hpath
  · intro h
    have bound : r.extent r.HasParent n ≤ r.nodes.size := extent_le_size n
    exact h.pathWithin (by omega)

/-- Whether all chains end can be computed. -/
theorem parentsEnd_of_paths (known : ∀ i < r.nodes.size, (r.path? ⟨i⟩).isSome) (n : NodeId) :
    r.ParentsEnd n := by
  by_cases inside : n.index < r.nodes.size
  · exact path?_isSome_iff.mp (known n.index inside)
  · refine .top ?_
    rw [parent?, node_of_size_le (Nat.le_of_not_lt inside)]
    rfl

theorem displayName?_isSome_iff {n : NodeId} : (r.displayName? n).isSome ↔ r.ParentsEnd n := by
  rw [displayName?, Option.isSome_map, path?_isSome_iff]

theorem paramName?_isSome_iff {p : ParamId} {n : NodeId} (h : r.owner? p = some n) :
    (r.paramName? p).isSome ↔ r.ParentsEnd n := by
  rw [paramName?, h]
  dsimp only
  rw [Option.isSome_map, path?_isSome_iff]

/-- A parameter has a name if the chain of parents of its owner ends, and also without a live owner. -/
theorem paramName?_isSome {p : ParamId} (ends : ∀ n, r.owner? p = some n → r.ParentsEnd n) :
    (r.paramName? p).isSome := by
  cases owned : r.owner? p with
  | none =>
    rw [paramName?, owned]
    rfl
  | some n => exact (paramName?_isSome_iff owned).mpr (ends n owned)

end LabRegistry.Registry

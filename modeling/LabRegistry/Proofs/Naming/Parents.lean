import LabRegistry.Proofs.Containment.Acyclic
import LabRegistry.Proofs.Naming.Chain

/-!
# When chains of parents end

A binding asks what nodes hold and not who their parents are. A node that is displaced from its
holder keeps it as its parent, so the holder may be bound below it later, and their chain of
parents then goes round. This is the only way: chains end in all states of a run exactly if no
step closes one, which holds if no binding displaces a node from its parent.
-/
namespace LabRegistry.Registry

/-- The step makes `n` the parent of `child`, which had none, though going up from `n` leads to
`child` along links that the step keeps. -/
structure Closes (r after : Registry) (n child : NodeId) : Prop where
  parentless : r.parent? child = none
  adopted : after.HasParent child n
  ancestor : Relation.ReflTransGen (fun m p => r.HasParent m p ∧ after.HasParent m p) n child

/-- The step takes a node out of `n` that keeps `n` as its parent. -/
def Displaces (r after : Registry) (n : NodeId) : Prop :=
  ∃ m, r.Holds n m ∧ ¬ after.Holds n m ∧ after.HasParent m n

/-- Every node with a parent is held by it. -/
def ParentsHold (r : Registry) : Prop := ∀ m p, r.HasParent m p → r.Holds p m

variable {r after : Registry} {bound : Option (NodeId × NodeId)}

/-! ## One step -/

private def SharesLink (r after : Registry) (m p : NodeId) : Prop :=
  r.HasParent m p ∧ after.HasParent m p

private theorem ParentsEnd.transfer {n : NodeId} (h : r.ParentsEnd n)
    (new : ∀ m p, Relation.ReflTransGen (SharesLink r after) n m → after.HasParent m p →
      r.HasParent m p ∨ after.ParentsEnd p) : after.ParentsEnd n := by
  induction h with
  | @top n top =>
    cases hn : after.parent? n with
    | none => exact .top hn
    | some p =>
      rcases new n p .refl hn with old | ends
      · rw [HasParent, top] at old
        cases old
      · exact .step hn ends
  | @step n p link _ ih =>
    cases hn : after.parent? n with
    | none => exact .top hn
    | some q =>
      rcases new n q .refl hn with old | ends
      · have same : q = p := Option.some_inj.mp (old.symm.trans link)
        subst same
        exact .step hn (ih fun m p path hm => new m p (.head ⟨link, hn⟩ path) hm)
      · exact .step hn ends

section Step

variable (links : LinkStep bound r after) (inRange : r.InRange)
  (alive : ∀ n m, bound = some (n, m) → r.isAlive m = true)

include links inRange alive

private theorem LinkStep.hasParent {m p : NodeId} (h : after.HasParent m p) : r.HasParent m p ∨
    bound = some (p, m) ∧ ¬ r.Encloses m p ∧ r.parent? m = none ∧
      (after.Holds p m ∨ ∃ x, after.path? x = none) := by
  rcases links.parent m p h.parent with old | new
  · rcases links.isAlive alive h.isAlive with ha | ha
    · exact .inl (Option.filter_eq_some_iff.mpr ⟨old, ha⟩)
    · have inside := inRange.parent m p old
      omega
  · exact .inr new

/-- Chains that end still end after a step that closes none. -/
theorem LinkStep.parentsEnd (ends : ∀ n, r.ParentsEnd n)
    (closes : ∀ n child, bound = some (n, child) → ¬ Closes r after n child) (n : NodeId) :
    after.ParentsEnd n := by
  have holderEnds {child holder : NodeId} (adopted : after.HasParent child holder)
      (new : ¬ r.HasParent child holder) : after.ParentsEnd holder := by
    rcases links.hasParent inRange alive adopted with old | ⟨isBound, _, parentless, _⟩
    · exact absurd old new
    -- Going up from the holder does not lead to the child, the only node with a new link.
    · refine (ends holder).transfer fun m p path link => ?_
      rcases links.hasParent inRange alive link with old | ⟨again, _⟩
      · exact .inl old
      · rw [isBound] at again
        cases again
        exact absurd ⟨parentless, adopted, path⟩ (closes holder child isBound)
  refine (ends n).transfer fun m p _ link => ?_
  by_cases old : r.HasParent m p
  · exact .inl old
  · exact .inr (holderEnds link old)

end Step

private theorem Closes.not_parentsEnd {n child : NodeId} (h : Closes r after n child) :
    ¬ after.ParentsEnd child := by
  intro ends
  have back : Relation.ReflTransGen after.HasParent n child :=
    Relation.ReflTransGen.mono (fun _ _ => And.right) _ _ h.ancestor
  exact ends.not_cyclic (.head' h.adopted back)

/-! ## Parents that hold their nodes -/

private theorem ParentsHold.encloses (h : r.ParentsHold) {n m : NodeId}
    (path : Relation.ReflTransGen r.HasParent n m) : r.Encloses m n := by
  induction path with
  | refl => exact .refl
  | tail _ link ih => exact .head (h _ _ link) ih

private theorem ParentsHold.parentsEnd (h : r.ParentsHold) (acyclic : r.Acyclic) (n : NodeId) :
    r.ParentsEnd n := by
  apply parentsEnd_of_not_cyclic
  intro m cycle
  obtain ⟨p, link, back⟩ := Relation.TransGen.head'_iff.mp cycle
  exact acyclic m (.tail' (h.encloses back) (h m p link))

private theorem ParentsHold.step (h : r.ParentsHold) (acyclic : r.Acyclic) (inRange : r.InRange)
    (links : LinkStep bound r after) (alive : ∀ n m, bound = some (n, m) → r.isAlive m = true)
    (stays : ∀ n child, bound = some (n, child) → ¬ Displaces r after n) : after.ParentsHold := by
  have ends (n : NodeId) : after.ParentsEnd n := by
    refine links.parentsEnd inRange alive (h.parentsEnd acyclic) (fun holder child _ closes => ?_) n
    rcases links.hasParent inRange alive closes.adopted with old | ⟨_, free, _⟩
    · have parentless := closes.parentless
      rw [old] at parentless
      cases parentless
    · have up : Relation.ReflTransGen r.HasParent holder child :=
        Relation.ReflTransGen.mono (fun _ _ => And.left) _ _ closes.ancestor
      exact free (h.encloses up)
  intro m p link
  rcases links.hasParent inRange alive link with old | ⟨_, _, _, entered⟩
  · rcases links.kept p m (h m p old) link.parent with kept | ⟨child, isBound⟩
    · exact kept
    · by_contra gone
      exact stays p child isBound ⟨m, h m p old, gone, link⟩
  · rcases entered with kept | ⟨x, none⟩
    · exact kept
    · have path := path?_isSome_iff.mpr (ends x)
      rw [none] at path
      cases path

/-! ## Runs -/

theorem runTo_succ {commands : List Command} {k : Nat} {command : Command}
    (h : commands[k]? = some command) :
    r.runTo commands (k + 1) = (r.runTo commands k).step command := by
  obtain ⟨inside, same⟩ := List.getElem?_eq_some_iff.mp h
  rw [runTo, runTo, List.take_succ_eq_append_getElem inside, run, run, List.foldl_append, same]
  rfl

private theorem runTo_of_none {commands : List Command} {k : Nat} (h : commands[k]? = none) :
    r.runTo commands (k + 1) = r.runTo commands k := by
  have outside := List.getElem?_eq_none_iff.mp h
  rw [runTo, runTo, List.take_of_length_le outside, List.take_of_length_le (by omega)]

theorem runTo_onwards {P : Registry → Prop} {commands : List Command} {k l : Nat} (later : k ≤ l)
    (now : P (r.runTo commands k))
    (step : ∀ j command, k ≤ j → j < l → commands[j]? = some command → P (r.runTo commands j) →
      P ((r.runTo commands j).step command)) : P (r.runTo commands l) := by
  induction later with
  | refl => exact now
  | @step l later ih =>
    have before : P (r.runTo commands l) :=
      ih fun j command hj hl => step j command hj (Nat.lt_succ_of_lt hl)
    cases h : commands[l]? with
    | none => rwa [runTo_of_none h]
    | some command =>
      rw [runTo_succ h]
      exact step l command later (Nat.lt_succ_self l) h before

/-- What holds at the start and is kept by the steps of a run holds in all its states. -/
theorem runTo_induction {P : Registry → Prop} {commands : List Command} (start : P r)
    (step : ∀ k command, commands[k]? = some command → P (r.runTo commands k) →
      P ((r.runTo commands k).step command)) (k : Nat) : P (r.runTo commands k) :=
  runTo_onwards (Nat.zero_le k) start fun j command _ _ => step j command

private theorem not_hasParent_start (log : Log) (now : Instant) (n p : NodeId) :
    ¬ (start log now).HasParent n p := by
  intro h
  have parent := h.parent
  rw [node_start] at parent
  cases parent

/-- Chains of parents end in all states of a run exactly if no binding of the run closes one. This
holds if no binding displaces a node from its parent. A node has a path and a name to show, and a
parameter that it owns has a full name, exactly if the chain of the node ends. -/
theorem parents_of_run (log : Log) (now : Instant) (commands : List Command) :
    let state := (start log now).runTo commands
    ((∀ k n, (state k).ParentsEnd n) ↔
      ∀ k command, commands[k]? = some command → ∀ n child,
        (state k).bound? command = some (n, child) → ¬ Closes (state k) (state (k + 1)) n child) ∧
    ((∀ k command, commands[k]? = some command → ∀ n child,
        (state k).bound? command = some (n, child) → ¬ Displaces (state k) (state (k + 1)) n) →
      ∀ k n, (state k).ParentsEnd n) ∧
    ∀ k n, (((state k).path? n).isSome ↔ (state k).ParentsEnd n) ∧
      (((state k).displayName? n).isSome ↔ (state k).ParentsEnd n) ∧
      ∀ p, (state k).owner? p = some n →
        (((state k).paramName? p).isSome ↔ (state k).ParentsEnd n) := by
  intro state
  have inRange (k : Nat) : (state k).InRange := inRange_run log now _
  have acyclic (k : Nat) : (state k).Acyclic := acyclic_run log now _
  have alive (k : Nat) (command : Command) (n m : NodeId)
      (h : (state k).bound? command = some (n, m)) : (state k).isAlive m = true :=
    (isAlive_of_bound h).2
  have start : ∀ n p, ¬ (state 0).HasParent n p := not_hasParent_start log now
  refine ⟨⟨?_, ?_⟩, ?_, ?_⟩
  · intro ends k command _ n child _ closes
    exact closes.not_parentsEnd (ends (k + 1) child)
  · intro closes
    refine runTo_induction (P := fun r => ∀ n, r.ParentsEnd n) (fun n => ?_)
      fun k command hk ends => ?_
    · cases hn : (state 0).parent? n with
      | none => exact .top hn
      | some p => exact absurd hn (start n p)
    · refine (step_links (inRange k) command).parentsEnd (inRange k) (alive k command) ends ?_
      intro n child isBound
      rw [← runTo_succ hk]
      exact closes k command hk n child isBound
  · intro stays k n
    refine ParentsHold.parentsEnd ?_ (acyclic k) n
    refine runTo_induction (P := ParentsHold) (fun n p link => absurd link (start n p))
      (fun k command hk holds => ?_) k
    refine holds.step (acyclic k) (inRange k) (step_links (inRange k) command) (alive k command) ?_
    intro n child isBound
    rw [← runTo_succ hk]
    exact stays k command hk n child isBound
  · intro k n
    exact ⟨path?_isSome_iff, displayName?_isSome_iff, fun p howner => paramName?_isSome_iff howner⟩

/-- Node 1 is displaced from node 0 by node 2 and keeps it as its parent, so binding node 0 below
it makes the two each other's parents. -/
theorem displaced_node_closes_chain :
    let r := (start {} default).run [
      .createNode "a" (some "a") {}, .createNode "b" (some "b") {}, .createNode "c" (some "c") {},
      .bind ⟨0⟩ "x" (.node ⟨1⟩), .bind ⟨0⟩ "x" (.node ⟨2⟩), .bind ⟨1⟩ "y" (.node ⟨0⟩)]
    r.isAlive ⟨0⟩ = true ∧ ¬ r.ParentsEnd ⟨0⟩ := by
  intro r
  refine ⟨by decide +kernel, ?_⟩
  rw [← path?_isSome_iff]
  decide +kernel

end LabRegistry.Registry

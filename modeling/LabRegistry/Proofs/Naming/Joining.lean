import LabRegistry.Proofs.Binding.Outcome
import LabRegistry.Proofs.Engine.Cache
import LabRegistry.Proofs.Naming.Chain

/-!
# Entering free nodes

A node without parent can be entered below every node at the top where its name is free, unless it
contains that node.
-/
namespace LabRegistry

open Registry

/-- A node was entered below another one, and nothing else has changed. -/
structure Registry.Entered (r : Registry) (n child : NodeId) (name : String) (put : Node → Node)
    (after : Registry) : Prop where
  size : after.nodes.size = r.nodes.size
  holder : after.node n = put (r.node n)
  entrant : after.node child = { r.node child with parent := some n, name := some name }
  others : ∀ m, m ≠ n → m ≠ child → after.node m = r.node m
  params : after.params = r.params
  sequences : after.sequences = r.sequences
  devices : after.devices = r.devices
  bench : after.bench = r.bench
  inUse : after.inUse = r.inUse

theorem Registry.not_encloses_of_leaf {r : Registry} {n child : NodeId} (leaf : r.held child = [])
    (other : child ≠ n) : ¬ r.Encloses child n := by
  intro path
  rcases Relation.ReflTransGen.cases_head path with rfl | ⟨m, edge, -⟩
  · exact other rfl
  · rw [Holds, leaf] at edge
    cases edge

theorem Registry.Entered.held {r after : Registry} {n child m : NodeId} {name : String}
    {put : Node → Node}
    (h : r.Entered n child name put after) (other : m ≠ n) : after.held m = r.held m := by
  by_cases self : m = child
  · rw [self, Registry.held, h.entrant]
    rfl
  · rw [Registry.held, h.others m other self, Registry.held]

theorem NodeId.attach_free_run {r : Registry} (n : NodeId) (kind : MemberKind) (name : String)
    (child : NodeId) (put : Node → Node) (admits : (r.node n).Admits kind name)
    (enclosed : ¬ r.Encloses child n) (inside : child.index < r.nodes.size)
    (free : (r.node child).parent = none) (top : (r.node n).parent = none) :
    ∃ lines, n.attach kind name child put r = (.ok (), { r with
      nodes := ((r.nodes.change child.index ({ · with parent := some n })).change child.index
        ({ · with name := some name })).change n.index put
      log := { r.log with lines } }) := by
  have other : child ≠ n := fun same => enclosed (same ▸ .refl)
  let adopted : Registry := { r with nodes := r.nodes.change child.index ({ · with parent := some n }) }
  let named : Registry := { adopted with
    nodes := adopted.nodes.change child.index ({ · with name := some name }) }
  have joined : (adopted.node child).parent = some n := by
    rw [node_change, if_pos ⟨rfl, inside⟩]
  have ends : named.ParentsEnd child := by
    refine .of_parent fun p above => .of_parent fun q beyond => ?_
    rw [node_change, if_pos ⟨rfl, (Arena.size_change _ _ _).symm ▸ inside⟩] at above
    obtain rfl : n = p := Option.some.inj (joined.symm.trans above)
    rw [node_change, if_neg fun both => other both.1.symm, node_change,
      if_neg fun both => other both.1.symm, top] at beyond
    cases beyond
  obtain ⟨path, found⟩ := Option.isSome_iff_exists.mp (path?_isSome_iff.mpr ends)
  have composed : (do return "attached node '" ++ (← child.fullName) ++ "'" :
      Act RegistryError String) named =
        (.ok ("attached node '" ++ nameSeparator.intercalate path ++ "'"), named) := by
    rw [Act.bind_run, fullName, Act.bind_run, NodeId.path, Act.orEndless_run, found]
    rfl
  obtain ⟨lines, logged⟩ := Act.debug_ok composed
  have alone : r.parent? child = none := by
    rw [Registry.parent?, free]
    rfl
  refine ⟨lines, ?_⟩
  rw [attach, Act.bind_run, requireFree_of_admits admits]
  dsimp only
  rw [Act.bind_run, requireNoCycle_of_not_encloses enclosed]
  dsimp only
  rw [Act.bind_run, joinParent, Act.bind_run, parent?_run, alone]
  dsimp only
  rw [Option.isNone_none, if_pos rfl, Act.bind_run, change_run]
  dsimp only
  rw [takeName, Act.bind_run, state_run]
  dsimp only
  rw [if_neg (not_not.mpr joined), Act.bind_run, change_run]
  dsimp only
  rw [if_pos rfl, logged]
  rfl

theorem NodeId.attach_free_entered {r : Registry} (n : NodeId) (kind : MemberKind) (name : String)
    (child : NodeId) (put : Node → Node) (admits : (r.node n).Admits kind name)
    (enclosed : ¬ r.Encloses child n) (inside : child.index < r.nodes.size)
    (holder : n.index < r.nodes.size) (free : (r.node child).parent = none)
    (top : (r.node n).parent = none) :
    ∃ after, n.attach kind name child put r = (.ok (), after) ∧ r.Entered n child name put after := by
  have other : child ≠ n := fun same => enclosed (same ▸ .refl)
  obtain ⟨lines, run⟩ := n.attach_free_run kind name child put admits enclosed inside free top
  let adopted : Registry := { r with nodes := r.nodes.change child.index ({ · with parent := some n }) }
  let named : Registry := { adopted with
    nodes := adopted.nodes.change child.index ({ · with name := some name }) }
  have first (m : NodeId) := node_change r child m ({ · with parent := some n })
  have second (m : NodeId) := node_change adopted child m ({ · with name := some name })
  have third (m : NodeId) := node_change named n m put
  have inside' : child.index < adopted.nodes.size := inside.trans_eq (Arena.size_change _ _ _).symm
  have size : named.nodes.size = r.nodes.size :=
    (Arena.size_change _ _ _).trans (Arena.size_change _ _ _)
  have stays (m : NodeId) (ne : m ≠ child) : named.node m = r.node m :=
    (second m).trans ((if_neg fun both => ne both.1).trans
      ((first m).trans (if_neg fun both => ne both.1)))
  refine ⟨_, run, ?_⟩
  exact {
    size := (Arena.size_change _ _ _).trans size
    holder := (third n).trans ((if_pos ⟨rfl, size ▸ holder⟩).trans (by rw [stays n other.symm]))
    entrant := by
      refine (third child).trans ((if_neg fun both => other both.1).trans ?_)
      refine (second child).trans ((if_pos ⟨rfl, inside'⟩).trans ?_)
      rw [first child, if_pos ⟨rfl, inside⟩]
    others := fun m ne ne' => (third m).trans ((if_neg fun both => ne both.1).trans (stays m ne'))
    params := rfl
    sequences := rfl
    devices := rfl
    bench := rfl
    inUse := rfl }

end LabRegistry

import LabRegistry.Proofs.Binding.Frame
import LabRegistry.Proofs.Engine.Setup
import LabRegistry.Proofs.Naming.Chain

/-!
# Wiring

The wiring of a registry is all that decides where a value goes: the nodes and what keeps them
alive, the sequences, and the parameters with their listeners. Writing a cache leaves it as it is,
and with it all names.
-/
namespace LabRegistry

namespace Registry

variable {r after : Registry}

/-! ## What nodes decide -/

/-- Every node holds the same nodes and has the same parent and name. -/
structure SameNames (r after : Registry) : Prop extends r.SameLinks after where
  name : ∀ n, (after.node n).name = (r.node n).name

namespace SameNames

variable (h : r.SameNames after)

include h

theorem holds : after.Holds = r.Holds := by
  funext n m
  rw [Holds, h.held, Holds]

theorem isAlive (n : NodeId) : after.isAlive n = r.isAlive n := by
  rw [Bool.eq_iff_iff, isAlive_iff, isAlive_iff, h.roots, Encloses, h.holds, Encloses]

private theorem parent? (n : NodeId) : after.parent? n = r.parent? n := by
  rw [Registry.parent?, h.parent, funext h.isAlive, Registry.parent?]

private theorem path? (n : NodeId) : after.path? n = r.path? n := by
  have within (fuel : Nat) : after.pathWithin fuel = r.pathWithin fuel := by
    induction fuel with
    | zero => rfl
    | succ fuel ih =>
      funext n
      rw [pathWithin, h.parent?, h.name, ih, pathWithin]
  rw [Registry.path?, within, h.size, Registry.path?]

theorem parentsEnd {n : NodeId} (ends : r.ParentsEnd n) : after.ParentsEnd n := by
  rw [← path?_isSome_iff, h.path?, path?_isSome_iff]
  exact ends

theorem paramName? {p : ParamId} (name : (after.param p).name = (r.param p).name)
    (owner : (after.param p).owner = (r.param p).owner) : after.paramName? p = r.paramName? p := by
  have live : after.owner? p = r.owner? p := by
    rw [Registry.owner?, owner, funext h.isAlive, Registry.owner?]
  rw [Registry.paramName?, live, name, funext h.path?, Registry.paramName?]

end SameNames

namespace SameNodes

variable (h : r.SameNodes after)

include h

theorem node (n : NodeId) : after.node n = r.node n := by
  rw [Registry.node, h.nodes, Registry.node]

theorem names : r.SameNames after where
  toSameLinks := h.tree.links
  name n := by rw [h.node]

theorem isAlive (n : NodeId) : after.isAlive n = r.isAlive n := h.names.isAlive n

theorem path? (n : NodeId) : after.path? n = r.path? n := h.names.path? n

theorem paramName? {p : ParamId} (setup : (after.param p).setup = (r.param p).setup) :
    after.paramName? p = r.paramName? p :=
  h.names.paramName? (congrArg (·.name) setup) (congrArg (·.owner) setup)

end SameNodes

/-- Whatever the parameter logs has a name to be logged under. -/
def Speaks (r : Registry) (p : ParamId) : Prop :=
  (r.param p).logsChanges = false ∨ (r.paramName? p).isSome = true

theorem Speaks.of_same {p : ParamId} (speaks : r.Speaks p) (nodes : r.SameNodes after)
    (setup : (after.param p).setup = (r.param p).setup) : after.Speaks p := by
  have logs : (after.param p).logsChanges = (r.param p).logsChanges := congrArg (·.logsChanges) setup
  rw [Speaks, logs, nodes.paramName? setup]
  exact speaks

/-! ## The wiring -/

/-- The registries differ in caches, the bench, devices, the clock and the lines of the log only. -/
structure SameWiring (r after : Registry) : Prop where
  nodes : r.SameNodes after
  sequences : after.sequences = r.sequences
  logging : after.log.enabled = r.log.enabled
  size : after.params.size = r.params.size
  params : ∀ p, (after.param p).uncached = (r.param p).uncached

instance : IsPreorder Registry SameWiring where
  refl _ := ⟨refl _, rfl, rfl, rfl, fun _ => rfl⟩
  trans _ _ _ h h' := ⟨IsTrans.trans _ _ _ h.nodes h'.nodes, h'.sequences.trans h.sequences,
    h'.logging.trans h.logging, h'.size.trans h.size, fun p => (h'.params p).trans (h.params p)⟩

namespace SameWiring

theorem symm (h : r.SameWiring after) : after.SameWiring r :=
  ⟨⟨h.nodes.nodes.symm, h.nodes.roots.symm⟩, h.sequences.symm, h.logging.symm, h.size.symm,
    fun p => (h.params p).symm⟩

theorem setups (h : r.SameWiring after) : r.SameSetups after where
  size := h.size
  setup p := congrArg (fun param : Parameter => { param with listeners := [], nextListener := 0 })
    (h.params p)

section

variable (h : r.SameWiring after) (p : ParamId)

include h

theorem listeners : (after.param p).listeners = (r.param p).listeners :=
  congrArg (·.listeners) (h.params p)

theorem getSource : (after.param p).getSource = (r.param p).getSource :=
  congrArg (·.getSource) (h.params p)

theorem setSource : (after.param p).setSource = (r.param p).setSource :=
  congrArg (·.setSource) (h.params p)

theorem validator : (after.param p).validator = (r.param p).validator :=
  congrArg (·.validator) (h.params p)

theorem getParser : (after.param p).getParser = (r.param p).getParser :=
  congrArg (·.getParser) (h.params p)

theorem setParser : (after.param p).setParser = (r.param p).setParser :=
  congrArg (·.setParser) (h.params p)

theorem logsChanges : (after.param p).logsChanges = (r.param p).logsChanges :=
  congrArg (·.logsChanges) (h.params p)

theorem paramName? : after.paramName? p = r.paramName? p := h.nodes.paramName? (h.setups.setup p)

theorem speaks (speaks : r.Speaks p) : after.Speaks p := speaks.of_same h.nodes (h.setups.setup p)

end

end SameWiring
end Registry
end LabRegistry

import LabRegistry.Proofs.Engine.Reading
import LabRegistry.Proofs.Pulse.Equipped

/-!
# Reading the stop of a pulse

The stop of a pulse is its start plus its duration whenever it is got, whatever the cache of the
stop holds.
-/
namespace LabRegistry

open Registry

variable {r after : Registry} {n : NodeId} {first : Nat}

/-- The node as it is whatever its parent is. -/
def Node.orphan (node : Node) : Node := { node with parent := none }

def Node.unplaced (node : Node) : Node := { node with name := none, parent := none }

namespace Registry

theorem Fitted.getWith_reads {i : Nat} {plan : ParameterPlan} {plans : List ParameterPlan}
    (h : r.Fitted n first plans) (hi : plans[i]? = some plan) (cache : plan.getSource = .cache)
    (fuel : Nat) : (n.getWith (engine fuel) plan.name).Reads r (r.param ⟨first + i⟩).value (fuel < 1) :=
  .bind (.of_run (h.parameter_run hi)) fun _ same => by
    rw [← same.value]
    exact get_reads ((same.wiring.getSource _).trans ((h.getSource hi).trans cache)) fuel

/-- A live pulse with its parameters and the delegates of its stop. -/
structure PulseWired (r : Registry) (n : NodeId) (first : Nat) : Prop where
  fitted : r.Fitted n first Pulse.plans
  delegates : (r.node n).delegatesFor "t_stop" = ⟨some .pulseStop, some .setPulseStop⟩
  config : (r.node n).config = Pulse.config
  leaf : r.held n = []
  alive : r.isAlive n = true

theorem PulseWired.of_same (h : r.PulseWired n first) (nodes : r.SameNodes after)
    (setups : r.SameSetups after) : after.PulseWired n first where
  fitted := h.fitted.of_same nodes setups
  delegates := by rw [nodes.node, h.delegates]
  config := by rw [nodes.node, h.config]
  leaf := by rw [held, nodes.node, ← held, h.leaf]
  alive := (nodes.isAlive n).trans h.alive

theorem PulseWired.of_old (h : r.PulseWired n first)
    (node : (after.node n).unplaced = (r.node n).unplaced)
    (size : r.params.size ≤ after.params.size)
    (old : ∀ p : ParamId, p.index < r.params.size →
      (after.param p).setup.muted = (r.param p).setup.muted)
    (speaks : ∀ i < 5, after.Speaks ⟨first + i⟩) (alive : after.isAlive n = true) :
    after.PulseWired n first where
  fitted := h.fitted.of_old (congrArg (·.parameters) node) size old speaks
  delegates := (congrArg (·.delegatesFor "t_stop") node).trans h.delegates
  config := (congrArg (·.config) node).trans h.config
  leaf := (congrArg Node.held node).trans h.leaf
  alive := alive

theorem PulseWired.of_wiring (h : r.PulseWired n first) (same : r.SameWiring after) :
    after.PulseWired n first :=
  h.of_same same.nodes same.setups

/-- Start plus duration, `null` while one of them is missing. -/
def stopValue (r : Registry) (first : Nat) : Value :=
  ((r.param (Pulse.startAt first)).value.add? (r.param (Pulse.durationAt first)).value).getD .null

theorem Equipped.pulseWired {base : Registry} (h : base.Equipped r n)
    (config : (base.node n).config = Pulse.config) (leaf : base.held n = [])
    (alive : r.isAlive n = true) : r.PulseWired n base.params.size where
  fitted := h.fitted
  delegates := h.delegates
  config := by rw [h.node, config]
  leaf := by rw [held, h.node, ← leaf]; rfl
  alive := alive

theorem Equipped.stop_value {base : Registry} (h : base.Equipped r n) :
    (r.param (Pulse.stopAt base.params.size)).value = r.stopValue base.params.size := by
  rw [stopValue, Pulse.startAt, h.cache 1 _ rfl, Pulse.durationAt, h.cache 2 _ rfl, Pulse.stopAt,
    h.cache 3 _ rfl]
  rfl

theorem SameState.stopValue (h : r.SameState after) (first : Nat) :
    after.stopValue first = r.stopValue first := by
  rw [Registry.stopValue, h.value, h.value, Registry.stopValue]

namespace PulseWired

variable (h : r.PulseWired n first)

include h

theorem start_source : (r.param (Pulse.startAt first)).getSource = .cache :=
  h.fitted.getSource (i := 1) rfl

theorem duration_source : (r.param (Pulse.durationAt first)).getSource = .cache :=
  h.fitted.getSource (i := 2) rfl

theorem parameter_duration : n.parameter "duration" r = (.ok (Pulse.durationAt first), r) :=
  h.fitted.parameter_run (i := 2) rfl

theorem parameter_stop : n.parameter "t_stop" r = (.ok (Pulse.stopAt first), r) :=
  h.fitted.parameter_run (i := 3) rfl

theorem start_reads (fuel : Nat) : (n.getWith (engine fuel) "t_start").Reads r
    (r.param (Pulse.startAt first)).value (fuel < 1) :=
  h.fitted.getWith_reads (i := 1) rfl rfl fuel

private theorem duration_reads (fuel : Nat) : (n.getWith (engine fuel) "duration").Reads r
    (r.param (Pulse.durationAt first)).value (fuel < 1) :=
  h.fitted.getWith_reads (i := 2) rfl rfl fuel

private theorem pulseStop_reads (fuel : Nat) :
    (n.pulseStop (engine fuel)).Reads r (r.stopValue first) (fuel < 1) := by
  refine .bind (h.start_reads fuel) fun s same => ?_
  have duration := (h.of_wiring same.wiring).duration_reads fuel
  rw [same.value] at duration
  exact .bind duration fun _ _ => .pure _

private theorem stop_call_reads (fuel : Nat) (p : Option ParamId) (v : Value) (args : List Value) :
    (engine fuel (.call .pulseStop ⟨some n, p, v, args⟩)).Reads r (r.stopValue first)
      (fuel < 2) := by
  cases fuel with
  | zero => exact ⟨r, refl r, .inr ⟨by omega, rfl⟩⟩
  | succ fuel => exact (h.pulseStop_reads fuel).mono fun few => by omega

theorem stop_inside : (Pulse.stopAt first).index < r.params.size := h.fitted.lt_size (i := 3) rfl

theorem stop_name : (r.param (Pulse.stopAt first)).name = "t_stop" := h.fitted.name (i := 3) rfl

theorem stop_owner : r.owner? (Pulse.stopAt first) = some n :=
  h.fitted.owner? (i := 3) rfl h.alive

theorem stop_delegates : (r.node n).delegatesFor (r.param (Pulse.stopAt first)).name =
    ⟨some .pulseStop, some .setPulseStop⟩ := by
  rw [h.stop_name, h.delegates]

theorem stop_receive_takes (fuel : Nat) :
    (engine fuel (.call .pulseStop (.delegate n (Pulse.stopAt first) .null)) >>=
      (Pulse.stopAt first).receive (engine fuel)).Takes r (Pulse.stopAt first)
        (r.stopValue first) (fuel < 2) :=
  ParamId.receive_takes _ (h.fitted.getParser (i := 3) rfl) (h.fitted.speaksAt (i := 3) rfl)
    h.stop_inside (h.stop_call_reads fuel _ _ _)

theorem stop_getWith_takes (fuel : Nat) : ((Pulse.stopAt first).getWith (engine fuel)).Takes r
    (Pulse.stopAt first) (r.stopValue first) (fuel < 2) := by
  have source : (r.param (Pulse.stopAt first)).getSource = .owner :=
    h.fitted.getSource (i := 3) rfl
  have asked := ParamId.getWith_run_of_owner source h.stop_owner
    (congrArg (·.getter) h.stop_delegates) (engine fuel)
  rw [Act.Takes, asked]
  exact h.stop_receive_takes fuel

end PulseWired
end Registry
end LabRegistry

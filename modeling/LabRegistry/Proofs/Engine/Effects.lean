import LabRegistry.Proofs.Engine.Discipline
import Mathlib.Logic.Relation

/-!
# Effects of requests

Whatever a request runs, it changes the registry by effects only: nodes, handles and the
identities of sequences stay as they are, and of a parameter only the cache and the listeners
change.
-/
namespace LabRegistry

/-- Any number of effects, one after the other. -/
abbrev Effects : Registry → Registry → Prop := Relation.ReflTransGen Effect

namespace Effects

variable {ε : Type}

def discipline : Discipline where
  Obeys act := act.Keeps Effects
  obeys_read := .read
  obeys_bind := .bind
  obeys_change h := .change fun r => .single (h r).1

theorem writes (p : ParamId) : discipline.Writes p :=
  fun raw value stamp => .change fun r => .single (.cache r p raw value stamp)

theorem readClock : (Act.readClock : Act ε Instant).Keeps Effects := discipline.readClock

theorem parameter (n : NodeId) (name : String) : (n.parameter name).Keeps Effects :=
  discipline.parameter n name

theorem listen (p : ParamId) (listener : Listener) :
    (p.listen listener : Act ε ListenerId).Keeps Effects :=
  discipline.listen p listener

theorem disconnect (p : ParamId) (id : ListenerId) : (p.disconnect id : Act ε Bool).Keeps Effects :=
  discipline.disconnect p id

theorem disconnectAll (p : ParamId) : (p.disconnectAll : Act ε Unit).Keeps Effects :=
  discipline.disconnectAll p

theorem engine (fuel : Nat) (request : Request) : (LabRegistry.engine fuel request).Keeps Effects :=
  discipline.engine_of_writes writes fuel request

theorem perform (request : Request) : request.perform.Keeps Effects :=
  .bind .registry fun r => engine r.depthLimit request

theorem get (p : ParamId) : p.get.Keeps Effects := perform _

theorem set (p : ParamId) (v : Value) : (p.set v).Keeps Effects :=
  .bind (perform _) fun _ => .pure _

end Effects
end LabRegistry

import LabRegistry.Registry.Access
import LabRegistry.Workbench

/-!
# Commands and runs

A `Command` is one thing that a user does with nodes: making, holding and dropping them, binding
members and taking them out, naming, configuring, registering delegates, and whatever passes
between parameters meanwhile. A command that stops on the way leaves the registry as it was
when it stopped. Since nodes are reached through handles, a command is carried out only on nodes
that are alive.
-/
namespace LabRegistry

inductive Command where
  | createNode (handle : String) (name : Option String) (config : NodeConfig)
  | createParameter (handle : String) (plan : ParameterPlan)
  /-- Keeps a node under a handle, which lets go of what it stood for. -/
  | keep (handle : String) (n : NodeId)
  | drop (handle : String)
  /-- Binds a parameter, a node, a value or a field as an attribute. -/
  | bind (n : NodeId) (name : String) (attr : Attribute)
  | addParameter (n : NodeId) (p : ParamId)
  | addChild (n : NodeId) (name : String) (child : NodeId)
  | addSubmodule (n : NodeId) (name : String) (child : NodeId)
  | addFunction (n : NodeId) (name : String) (function : Callable)
  | removeChild (n : NodeId) (name : String)
  | rename (n : NodeId) (name : String)
  | setForwards (n : NodeId) (on : Bool)
  | setShortSnapshots (n : NodeId) (on : Bool)
  | registerGetter (n : NodeId) (name : String) (getter : Callable)
  | registerSetter (n : NodeId) (name : String) (setter : Callable)
  /-- Gets, sets or updates a parameter or calls a callable. -/
  | request (asked : Request)
  | connect (p target : ParamId) (link : Link)
  | listen (p : ParamId) (callback : Callable)
  | disconnect (p : ParamId) (id : ListenerId)
  | disconnectAll (p : ParamId)

namespace Command

def act : Command → Act RegistryError Unit
  | createNode handle name config => do
    let n ← NodeId.create name config
    Act.store handle (.node n)
  | createParameter handle plan => do
    let p ← plan.create
    Act.store handle (.parameter p)
  | keep handle n => Act.store handle (.node n)
  | drop handle => do
    let _ ← Act.drop handle
  | bind n name attr => n.bind name attr
  | addParameter n p => n.addParameter p
  | addChild n name child => n.addChild name child
  | addSubmodule n name child => n.addSubmodule name child
  | addFunction n name function => n.addFunction name function
  | removeChild n name => do
    let _ ← n.removeChild name
  | rename n name => n.rename name
  | setForwards n on => n.setForwards on
  | setShortSnapshots n on => n.setShortSnapshots on
  | registerGetter n name getter => n.registerGetter name getter
  | registerSetter n name setter => n.registerSetter name setter
  | request asked => do
    let _ ← asked.perform
  | connect p target link => p.connect target link
  | listen p callback => do
    let _ ← p.listen (.callback callback)
  | disconnect p id => do
    let _ ← p.disconnect id
  | disconnectAll p => p.disconnectAll

def nodes : Command → List NodeId
  | keep _ n => [n]
  | bind n _ (.node child) => [n, child]
  | bind n _ _ => [n]
  | addParameter n _ => [n]
  | addChild n _ child => [n, child]
  | addSubmodule n _ child => [n, child]
  | addFunction n _ _ => [n]
  | removeChild n _ => [n]
  | rename n _ => [n]
  | setForwards n _ => [n]
  | setShortSnapshots n _ => [n]
  | registerGetter n _ _ => [n]
  | registerSetter n _ _ => [n]
  | _ => []

end Command

namespace Registry

/-- A registry in which nothing was made yet. -/
def start (log : Log) (now : Instant) : Registry := { log, now }

/-- The registry after a command; one that names a dead node cannot be given. -/
def step (r : Registry) (command : Command) : Registry :=
  if command.nodes.all r.isAlive then (command.act r).2 else r

def run (r : Registry) (commands : List Command) : Registry := commands.foldl step r

/-- The registry after the first `count` of some commands. -/
def runTo (r : Registry) (commands : List Command) (count : Nat) : Registry :=
  r.run (commands.take count)

variable {r : Registry}

/-- What holds at the start and is kept by every step holds after every run. -/
theorem run_induction {P : Registry → Prop} (h : P r)
    (hstep : ∀ r command, P r → P (r.step command)) (commands : List Command) :
    P (r.run commands) := by
  induction commands generalizing r with
  | nil => exact h
  | cons command commands ih => exact ih (hstep r command h)

/-- What every operation keeps is kept by every step. -/
theorem step_of_act {P : Registry → Prop} {command : Command} (h : P r)
    (hact : P (command.act r).2) : P (r.step command) := by
  unfold step
  split
  · exact hact
  · exact h

end Registry
end LabRegistry

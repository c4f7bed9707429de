import LabRegistry.Registry.Callable
import LabRegistry.Time.Calendar
import LabRegistry.Value.Numeric
import LabRegistry.Value.Validator

/-!
# Parameters

A parameter is a named cell with a cached value. Where a get comes from and where a set goes is
chosen when it is made: its own cache, a callable of its own, or a delegate registered under its
name on the node that owns it.
-/
namespace LabRegistry

inductive GetSource where
  | cache
  | command (command : Callable)
  | owner
deriving Inhabited

inductive SetSource where
  | cache
  | command (command : Callable)
  | owner
  | nowhere
deriving Inhabited

/-- How a value is changed on its way to another parameter. -/
structure Link where
  offset : Double := .zero
  scale : Double := .ofInt 1
  /-- The current value is passed on at once when the link is made. -/
  update : Bool := false

def Link.apply (link : Link) (v : Value) : Value := v.scaleOffset link.scale link.offset

inductive Listener where
  | link (target : ParamId) (link : Link)
  | callback (callback : Callable)

structure Parameter where
  name : String
  label : Option String
  unit : Option String
  value : Value
  raw : Value
  /-- When the cache was last written or confirmed. -/
  stamp : Option Instant
  getSource : GetSource
  setSource : SetSource
  validator : Validator
  getParser : Option Callable
  setParser : Option Callable
  /-- Snapshots show the value. -/
  inSnapshot : Bool
  logsChanges : Bool
  /-- In the order in which they were connected. -/
  listeners : List (ListenerId × Listener)
  nextListener : Nat
  /-- The first node that took the parameter; it never changes. -/
  owner : Option NodeId
deriving Inhabited

/-- The choices from which a parameter is made. -/
structure ParameterPlan where
  name : String
  label : Option String := none
  unit : Option String := none
  initial : Value := .null
  getSource : GetSource := .cache
  setSource : Option SetSource := none
  validator : Validator := .anything
  getParser : Option Callable := none
  setParser : Option Callable := none
  inSnapshot : Bool := true
  logsChanges : Bool := false

namespace ParameterPlan

/-- Where a set goes if the plan does not say: a parameter with a get command is read-only. -/
def defaultSetSource : GetSource → SetSource
  | .cache => .cache
  | .command _ => .nowhere
  | .owner => .owner

/-- Get and set are left to the node that owns the parameter. -/
def delegated (plan : ParameterPlan) : ParameterPlan :=
  { plan with getSource := .owner, setSource := some .owner }

def withGetCommand (plan : ParameterPlan) (command : Callable) : ParameterPlan :=
  { plan with getSource := .command command }

def withSetCommand (plan : ParameterPlan) (command : Callable) : ParameterPlan :=
  { plan with setSource := some (.command command) }

def readOnly (plan : ParameterPlan) : ParameterPlan :=
  { plan with setSource := some .nowhere }

/-- The parameter as planned; it has a time only if it starts with a value. -/
def toParameter (plan : ParameterPlan) (now : Instant) : Parameter where
  name := plan.name
  label := plan.label
  unit := plan.unit
  value := plan.initial
  raw := plan.initial
  stamp := if plan.initial.isNull then none else some now
  getSource := plan.getSource
  setSource := plan.setSource.getD (defaultSetSource plan.getSource)
  validator := plan.validator
  getParser := plan.getParser
  setParser := plan.setParser
  inSnapshot := plan.inSnapshot
  logsChanges := plan.logsChanges
  listeners := []
  nextListener := 0
  owner := none

end ParameterPlan

namespace Parameter

/-- Adds a listener under a fresh number. -/
def addListener (param : Parameter) (listener : Listener) : Parameter :=
  { param with
    listeners := param.listeners ++ [(⟨param.nextListener⟩, listener)]
    nextListener := param.nextListener + 1 }

def hasListener (param : Parameter) (id : ListenerId) : Bool :=
  param.listeners.any (·.1 == id)

def removeListener (param : Parameter) (id : ListenerId) : Parameter :=
  { param with listeners := param.listeners.filter (·.1 != id) }

def clearListeners (param : Parameter) : Parameter := { param with listeners := [] }

end Parameter
end LabRegistry

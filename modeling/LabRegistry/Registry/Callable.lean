import LabRegistry.Value.Basic

/-!
# Identities and callables

Parameters, nodes, devices and pulse sequences are known by identities. What a parameter, a node
or a listener runs is a `Callable`: one of the behaviours that pulses, sequences and instruments
bring along, or a script of the user.
-/
namespace LabRegistry

structure ParamId where
  index : Nat
deriving DecidableEq, Inhabited

structure NodeId where
  index : Nat
deriving DecidableEq, Inhabited

structure DeviceId where
  index : Nat
deriving DecidableEq, Inhabited

structure SequenceId where
  index : Nat
deriving DecidableEq, Inhabited

/-- The number of a listener among all that its parameter ever had. -/
structure ListenerId where
  number : Nat
deriving DecidableEq, Inhabited

/-! ## Scripts -/

/-- What a script computes. Handles are looked up when the script runs. -/
inductive Expr where
  | const (v : Value)
  /-- The value that the callable was given. -/
  | value
  | arg (index : Nat)
  | args
  | cell (name : String)
  | get (name : String)
  /-- The cached value of a parameter of the node. -/
  | latest (name : String)
  | getHandle (handle : String)
  | latestHandle (handle : String)
  | paramName
  | nodeName
  | add (a b : Expr)
  | sub (a b : Expr)
  | scale (e : Expr) (scale offset : Double)
  | list (items : List Expr)
  | fail (message : String)
deriving Inhabited

mutual

inductive Action where
  | log (tag : String) (e : Expr)
  | cell (name : String) (e : Expr)
  | set (name : String) (e : Expr)
  | update (name : String)
  | setHandle (handle : String) (e : Expr)
  | updateHandle (handle : String)
  | fail (message : String)
  | failIf (message : String) (e : Expr)
  | disconnect (handle listener : String)
  | disconnectAll (handle : String)
  | connect (handle : String) (callback : Script)

/-- Actions in order, then a result, `null` if there is none. -/
inductive Script where
  | mk (actions : List Action) (result : Option Expr)

end

instance : Inhabited Script := ⟨.mk [] none⟩

/-! ## Callables -/

inductive Callable where
  | script (body : Script)
  /-- The stop of a pulse: its start plus its duration, `null` while one of them is missing. -/
  | pulseStop
  /-- Moves the stop of a pulse by changing its duration. -/
  | setPulseStop
  | refresh (p : ParamId)
  /-- Updates a parameter as long as its owner lives. -/
  | refreshOwned (p : ParamId)
  /-- The duration of a sequence: the fixed one, else the last stop of its enabled pulses. -/
  | sequenceDuration (s : SequenceId)
  /-- Fixes the duration of a sequence, or frees it if the value is no number. -/
  | fixDuration (s : SequenceId)
  /-- The values of a parameter over the enabled pulses of the node, in ascending order. -/
  | pulseTimes (parameter : String)
  | readRegister (device : DeviceId) (address : String)
  | writeRegister (device : DeviceId) (address : String)
  | voltsOfMillivolts
  | millivoltsOfVolts
  | resetChannels (device : DeviceId) (count : Nat)
deriving Inhabited

/-- What a callable is told when it runs. -/
structure Call where
  node : Option NodeId := none
  param : Option ParamId := none
  value : Value := .null
  args : List Value := []

namespace Call

def withValue (v : Value) : Call := { value := v }

def withArgs (args : List Value) : Call := { args }

/-- The call of a delegate, which is told the owner and the parameter. -/
def delegate (node : NodeId) (param : ParamId) (v : Value) : Call := ⟨some node, some param, v, []⟩

end Call
end LabRegistry

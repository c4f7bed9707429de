import LabRegistry.Registry.Arithmetic
import LabRegistry.Registry.Transfer

/-!
# Running scripts

A script runs its actions in order, the first failure ending it, and then computes its result.
It stops with an undefined name if it asks for a handle that is not on the workbench, or for the
node or parameter of a call that has none.
-/
namespace LabRegistry

namespace Workbench

def param? (bench : Workbench) (handle : String) : Option ParamId :=
  match bench.handles.get? handle with
  | some (.parameter p) => some p
  | _ => none

end Workbench

namespace Act

variable {ε α : Type}

def bench : Act ε Workbench := return (← registry).bench

def changeBench (f : Workbench → Workbench) : Act ε Unit :=
  change fun r => { r with bench := f r.bench }

/-- Stops where a name is not defined. -/
def defined : Option α → Act ε α
  | some x => pure x
  | none => throw .undefinedName

def paramOf (handle : String) : Act ε ParamId := do defined ((← bench).param? handle)

end Act

namespace ParamId

variable {ε : Type}

/-- Adds a listener and gives its identity, which no listener of the parameter had before. -/
def listen (p : ParamId) (listener : Listener) : Act ε ListenerId := do
  let param ← p.state
  p.change (·.addListener listener)
  return ⟨param.nextListener⟩

/-- Takes a listener away; tells whether it was there. -/
def disconnect (p : ParamId) (id : ListenerId) : Act ε Bool := do
  let param ← p.state
  p.change (·.removeListener id)
  return param.hasListener id

def disconnectAll (p : ParamId) : Act ε Unit := p.change (·.clearListeners)

end ParamId

namespace Expr

mutual

def eval (handler : Handler) (call : Call) : Expr → Act RegistryError Value
  | .const v => return v
  | .value => return call.value
  | .arg index => return call.args.getD index .null
  | .args => return .array call.args
  | .cell name => return ((← Act.bench).cells.get? name).getD .null
  | .get name => do (← Act.defined call.node).getWith handler name
  | .latest name => do
    let p ← (← Act.defined call.node).parameter name
    return (← p.state).value
  | .getHandle handle => do handler (.get (← Act.paramOf handle))
  | .latestHandle handle => do return (← (← Act.paramOf handle).state).value
  | .paramName => do return .string (← (← Act.defined call.param).fullName)
  | .nodeName => do return .string (← (← Act.defined call.node).displayName)
  | .add a b => do
    let x ← eval handler call a
    let y ← eval handler call b
    Act.ofExcept (x.requireAdd y)
  | .sub a b => do
    let x ← eval handler call a
    let y ← eval handler call b
    Act.ofExcept (x.requireSub y)
  | .scale e factor offset => do return (← eval handler call e).scaleOffset factor offset
  | .list items => do return .array (← evalItems handler call items)
  | .fail message => Act.fail (.callableFailed message)

def evalItems (handler : Handler) (call : Call) : List Expr → Act RegistryError (List Value)
  | [] => return []
  | item :: rest => do
    let v ← eval handler call item
    return v :: (← evalItems handler call rest)

end

end Expr

def Value.isTrue : Value → Bool
  | .bool b => b
  | _ => false

def Action.run (handler : Handler) (call : Call) : Action → Act RegistryError Unit
  | .log tag e => do
    let v ← e.eval handler call
    Act.changeBench fun bench => { bench with journal := bench.journal ++ [(tag, v)] }
  | .cell name e => do
    let v ← e.eval handler call
    Act.changeBench fun bench => { bench with cells := bench.cells.insert name v }
  | .set name e => do
    let v ← e.eval handler call
    (← Act.defined call.node).setWith handler name v
  | .update name => do
    let p ← (← Act.defined call.node).parameter name
    let _ ← handler (.update p)
  | .setHandle handle e => do
    let v ← e.eval handler call
    let _ ← handler (.set (← Act.paramOf handle) v)
  | .updateHandle handle => do
    let _ ← handler (.update (← Act.paramOf handle))
  | .fail message => Act.fail (.callableFailed message)
  | .failIf message e => do
    if (← e.eval handler call).isTrue then Act.fail (.callableFailed message)
  | .disconnect handle listener => do
    let id ← Act.defined ((← Act.bench).listeners.get? listener)
    let _ ← (← Act.paramOf handle).disconnect id
  | .disconnectAll handle => do (← Act.paramOf handle).disconnectAll
  | .connect handle callback => do
    let _ ← (← Act.paramOf handle).listen (.callback (.script callback))

def Script.run (handler : Handler) (call : Call) : Script → Act RegistryError Value
  | .mk actions result => do
    actions.forM (Action.run handler call)
    match result with
    | some e => e.eval handler call
    | none => return .null

end LabRegistry

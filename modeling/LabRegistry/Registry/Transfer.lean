import LabRegistry.Registry.Binding

/-!
# Getting and setting

What a get, a set and an update of one parameter do. Whatever they ask of other parameters or of
callables goes through a handler, so each of them is a plain sequence of steps; `Engine` closes
the circle.
-/
namespace LabRegistry

/-- What can be asked for in the course of an operation. -/
inductive Request where
  | get (p : ParamId)
  | set (p : ParamId) (v : Value)
  | update (p : ParamId)
  | call (callable : Callable) (call : Call)

/-- Answers requests; a set answers `null`. -/
abbrev Handler : Type := Request → Act RegistryError Value

namespace ParamId

def failReadOnly {α : Type} (p : ParamId) : Act RegistryError α := do
  Act.fail (.readOnly (← p.fullName))

def failWithoutDelegate {α : Type} (p : ParamId) (operation : Operation) : Act RegistryError α := do
  Act.fail (.noDelegate (← p.fullName) operation)

/-- Writes both values into the cache, with the time. -/
def record (p : ParamId) (raw value : Value) : Act RegistryError Unit := do
  let param ← p.state
  if param.logsChanges && !(param.value == value) then
    Act.debug do
      return "parameter '" ++ (← p.fullName) ++ "' changed from " ++ param.value.compact ++ " to " ++
        value.compact
  let now ← Act.readClock
  p.change ({ · with raw, value, stamp := some now })

/-- Notes the time of an access that leaves the cache alone. -/
def stampNow (p : ParamId) : Act RegistryError Unit := do
  let now ← Act.readClock
  p.change ({ · with stamp := some now })

/-- Takes a raw value through the get parser into the cache. -/
def receive (handler : Handler) (p : ParamId) (raw : Value) : Act RegistryError Value := do
  let value ← match (← p.state).getParser with
    | some parser => handler (.call parser (.withValue raw))
    | none => pure raw
  p.record raw value
  return value

/-- The raw form in which a value is written: validated, then taken through the set parser. -/
def rawOf (handler : Handler) (p : ParamId) (v : Value) : Act RegistryError Value := do
  let param ← p.state
  match param.validator.validate v with
  | .error reason => Act.fail (.invalidValue (← p.fullName) reason)
  | .ok () => pure ()
  match param.setParser with
  | some parser => handler (.call parser (.withValue v))
  | none => return v

/-- The live owner and its delegates for the parameter. -/
def ownerDelegates (p : ParamId) (operation : Operation) :
    Act RegistryError (NodeId × Delegates) := do
  match ← p.owner? with
  | some owner => return (owner, (← owner.state).delegatesFor (← p.state).name)
  | none => p.failWithoutDelegate operation

def tell (handler : Handler) (value : Value) : Listener → Act RegistryError Unit
  | .link target link => do
    let _ ← handler (.set target (link.apply value))
  | .callback callback => do
    let _ ← handler (.call callback (.withValue value))

/-- Tells every listener the cached value, in order; listeners that come or go meanwhile do not
matter, and the first failure ends the round. -/
def announce (handler : Handler) (p : ParamId) : Act RegistryError Unit := do
  let param ← p.state
  param.listeners.forM fun (_, listener) => tell handler param.value listener

/-- Gets the value from its source into the cache. -/
def getWith (handler : Handler) (p : ParamId) : Act RegistryError Value := do
  match (← p.state).getSource with
  | .cache =>
    p.stampNow
    return (← p.state).value
  | .command command => p.receive handler (← handler (.call command {}))
  | .owner =>
    let (owner, delegates) ← p.ownerDelegates .get
    match delegates.getter with
    | some getter => p.receive handler (← handler (.call getter (.delegate owner p .null)))
    | none => p.failWithoutDelegate .get

/-- The part of a set before the listeners hear of it. -/
def write (handler : Handler) (p : ParamId) (v : Value) : Act RegistryError Unit := do
  match (← p.state).setSource with
  | .nowhere => p.failReadOnly
  | .cache =>
    let raw ← p.rawOf handler v
    p.record raw v
  | .command command =>
    let raw ← p.rawOf handler v
    let _ ← handler (.call command (.withValue raw))
    p.record raw v
  | .owner =>
    let (owner, delegates) ← p.ownerDelegates .set
    match delegates.getter, delegates.setter with
    | some getter, some setter =>
      let raw ← p.rawOf handler v
      let _ ← handler (.call setter (.delegate owner p raw))
      let _ ← p.receive handler (← handler (.call getter (.delegate owner p .null)))
    | none, some setter =>
      let raw ← p.rawOf handler v
      let _ ← handler (.call setter (.delegate owner p raw))
      p.stampNow
    | some _, none => p.failReadOnly
    | none, none => p.failWithoutDelegate .set

/-- Sets the value and tells the listeners. -/
def setWith (handler : Handler) (p : ParamId) (v : Value) : Act RegistryError Unit := do
  p.write handler v
  p.announce handler

/-- Gets the value and tells the listeners if it changed. -/
def updateWith (handler : Handler) (p : ParamId) : Act RegistryError Value := do
  let previous := (← p.state).value
  let value ← p.getWith handler
  if !(value == previous) then p.announce handler
  return value

end ParamId

namespace NodeId

def getWith (handler : Handler) (n : NodeId) (name : String) : Act RegistryError Value := do
  handler (.get (← n.parameter name))

def setWith (handler : Handler) (n : NodeId) (name : String) (v : Value) :
    Act RegistryError Unit := do
  let _ ← handler (.set (← n.parameter name) v)

end NodeId
end LabRegistry

import LabRegistry.Registry.Engine

/-!
# Access to parameters and nodes

What the user does with parameters and nodes once they are made. On a node that
forwards, reading or writing the name of a parameter as an attribute goes through to its value.
-/
namespace LabRegistry

namespace ParamId

def get (p : ParamId) : Act RegistryError Value := (Request.get p).perform

def set (p : ParamId) (v : Value) : Act RegistryError Unit := do
  let _ ← (Request.set p v).perform

def update (p : ParamId) : Act RegistryError Value := (Request.update p).perform

/-- Gets the value before it is shown, if it is shown at all. -/
def refreshShown (update : Bool) (p : ParamId) : Act RegistryError Unit := do
  if update && (← p.state).inSnapshot then
    let _ ← p.get

/-- The cached value. -/
def latest {ε : Type} (p : ParamId) : Act ε Value := return (← p.state).value

/-- Links a target: every value told to listeners is set there after `link`. A first push that
fails leaves the link in place. -/
def connect (p target : ParamId) (link : Link) : Act RegistryError Unit := do
  let _ ← p.listen (.link target link)
  if link.update then
    let current ← p.latest
    if !current.isNull then target.set (link.apply current)

end ParamId

/-- What an attribute resolves to. -/
inductive Attribute where
  | value (v : Value)
  | parameter (p : ParamId)
  | node (n : NodeId)
  | field (v : Value)

/-- A member that is an object of its own. -/
inductive Member where
  | parameter (p : ParamId)
  | node (n : NodeId)

namespace NodeId

def get (n : NodeId) (name : String) : Act RegistryError Value := do (← n.parameter name).get

def set (n : NodeId) (name : String) (v : Value) : Act RegistryError Unit := do
  (← n.parameter name).set v

/-- Writes a value under a name: into the parameter of that name if access goes through to it,
else into a field, unless the name belongs to a member that is neither. -/
def assign (n : NodeId) (name : String) (v : Value) : Act RegistryError Unit := do
  let node ← n.state
  match node.kindOf name, node.config.forwards with
  | some .parameter, true => n.set name v
  | none, _ | some .field, _ =>
    n.change fun node => { node with fields := node.fields.insert name v }
  | some existing, _ => n.failTaken name existing

/-- Binds whatever an attribute can be. -/
def bind (n : NodeId) (name : String) : Attribute → Act RegistryError Unit
  | .parameter p => n.addParameterAs name p
  | .node child => n.addChild name child
  | .value v => n.assign name v
  | .field v => n.assign name v

/-- Resolves a name to a parameter or its value, a child node, a submodule or a field. -/
def resolve (n : NodeId) (name : String) : Act RegistryError Attribute := do
  let node ← n.state
  match node.parameters.get? name with
  | some p => if node.config.forwards then return .value (← p.get) else return .parameter p
  | none =>
    match (node.children.get? name).or (node.submodules.get? name) with
    | some child => return .node child
    | none =>
      match node.fields.get? name with
      | some v => return .field v
      | none => n.failMissing name

/-- Resolves a name to the object itself, a parameter, child node or submodule. -/
def item (n : NodeId) (name : String) : Act RegistryError Member := do
  let node ← n.state
  match node.parameters.get? name with
  | some p => return .parameter p
  | none =>
    match (node.children.get? name).or (node.submodules.get? name) with
    | some child => return .node child
    | none => n.failMissing name

def call (n : NodeId) (name : String) (args : List Value) : Act RegistryError Value := do
  match (← n.state).functions.get? name with
  | some function => (Request.call function (.withArgs args)).perform
  | none => Act.fail (.noFunction (← n.displayName) name)

def setForwards {ε : Type} (n : NodeId) (on : Bool) : Act ε Unit :=
  n.change fun node => { node with config := { node.config with forwards := on } }

def setShortSnapshots {ε : Type} (n : NodeId) (on : Bool) : Act ε Unit :=
  n.change fun node => { node with config := { node.config with shortSnapshots := on } }

end NodeId
end LabRegistry

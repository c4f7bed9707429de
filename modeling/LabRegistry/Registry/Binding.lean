import LabRegistry.Registry.Naming

/-!
# Binding members

Every name of a node belongs to at most one kind of member. Binding a member of the same kind
again replaces the old one, and binding one of another kind is refused. The first node that takes
a parameter stays its owner for good; a node keeps its parent until the parent dies or removes
it.
-/
namespace LabRegistry

/-- Makes a parameter as planned if its validator takes the initial value. -/
def ParameterPlan.create (plan : ParameterPlan) : Act RegistryError ParamId := do
  match plan.validator.validate plan.initial with
  | .error reason => Act.fail (.invalidValue plan.name reason)
  | .ok () => pure ()
  let now ← Act.readClock
  let r ← Act.registry
  Act.change fun r => { r with params := r.params.push (plan.toParameter now) }
  return ⟨r.params.size⟩

/-- Makes a parameter in the cache with a value, which is not validated. -/
def ParamId.withValue {ε : Type} (name : String) (value : Value) : Act ε ParamId := do
  let now ← Act.readClock
  let r ← Act.registry
  let param := { ParameterPlan.toParameter { name, initial := value } now with stamp := some now }
  Act.change fun r => { r with params := r.params.push param }
  return ⟨r.params.size⟩

def NodeId.create {ε : Type} (name : Option String) (config : NodeConfig) : Act ε NodeId := do
  let r ← Act.registry
  Act.change fun r => { r with nodes := r.nodes.push { name, config } }
  return ⟨r.nodes.size⟩

namespace ParamId

variable {ε : Type}

/-- Makes `n` the owner if there is none yet; the name follows the owner's binding only. -/
def joinNode (p : ParamId) (n : NodeId) (name : String) : Act ε Unit := do
  let param ← p.state
  if param.owner.getD n ≠ n then
    Act.warn do
      return "parameter '" ++ (← p.fullName) ++ "' already attached elsewhere; keeping its owner"
  else
    let first := param.owner.isNone
    let logs := (← n.state).config.logsChanges
    p.change fun param => { param with
      owner := some n, name, logsChanges := param.logsChanges || (first && logs) }
    if first then
      Act.debug do return "attached parameter '" ++ (← p.fullName) ++ "'"

end ParamId

namespace NodeId

/-- Takes the name that `parent` gives unless another node is the parent. `first` tells whether
the node just got its parent. -/
def takeName {ε : Type} (child parent : NodeId) (name : String) (first : Bool) : Act ε Unit := do
  if (← child.state).parent ≠ some parent then
    Act.warn do return "node '" ++ (← child.displayName) ++ "' already has a parent; keeping it"
  else
    child.change ({ · with name := some name })
    if first then Act.debug do return "attached node '" ++ (← child.fullName) ++ "'"

/-- Makes `parent` the parent if there is no live one; the name follows the parent's binding
only. -/
def joinParent {ε : Type} (child parent : NodeId) (name : String) : Act ε Unit := do
  let first := (← child.parent?).isNone
  if first then child.change ({ · with parent := some parent })
  child.takeName parent name first

def failTaken {α : Type} (n : NodeId) (name : String) (existing : MemberKind) :
    Act RegistryError α := do
  Act.fail (.nameTaken (← n.displayName) name existing)

def failMissing {α : Type} (n : NodeId) (name : String) : Act RegistryError α := do
  Act.fail (.noAttribute (← n.displayName) name)

/-- The name is free or already belongs to a member of this kind. -/
def requireFree (n : NodeId) (name : String) (kind : MemberKind) : Act RegistryError Unit := do
  match (← n.state).kindOf name with
  | none => pure ()
  | some existing => if existing = kind then pure () else n.failTaken name existing

/-- A node goes neither below itself nor below anything that it contains. What nodes hold is
followed and not who their parents are, since a node may be held in several places. -/
def requireNoCycle (n : NodeId) (name : String) (child : NodeId) : Act RegistryError Unit := do
  if ← child.contains n then Act.fail (.containsHolder (← n.displayName) name)

def addParameterAs (n : NodeId) (name : String) (p : ParamId) : Act RegistryError Unit := do
  n.requireFree name .parameter
  p.joinNode n name
  n.change fun node => { node with parameters := node.parameters.insert name p }

/-- Binds a parameter under its own name. -/
def addParameter (n : NodeId) (p : ParamId) : Act RegistryError Unit := do
  n.addParameterAs (← p.state).name p

/-- Binds a node as a member of a kind; `put` enters it into the map of this kind. -/
def attach (n : NodeId) (kind : MemberKind) (name : String) (child : NodeId) (put : Node → Node) :
    Act RegistryError Unit := do
  n.requireFree name kind
  n.requireNoCycle name child
  child.joinParent n name
  n.change put

def addChild (n : NodeId) (name : String) (child : NodeId) : Act RegistryError Unit :=
  n.attach .parameterNode name child fun node =>
    { node with children := node.children.insert name child }

def addSubmodule (n : NodeId) (name : String) (child : NodeId) : Act RegistryError Unit :=
  n.attach .submodule name child fun node =>
    { node with submodules := node.submodules.insert name child }

def addFunction (n : NodeId) (name : String) (function : Callable) : Act RegistryError Unit := do
  n.requireFree name .function
  n.change fun node => { node with functions := node.functions.insert name function }

/-- Makes a node free to go elsewhere if `parent` is its parent. -/
def leaveParent {ε : Type} (child parent : NodeId) : Act ε Unit := do
  if (← child.state).parent = some parent then child.change ({ · with parent := none })

/-- Takes a child node out; if this node was its parent, it is free to go elsewhere. -/
def removeChild (n : NodeId) (name : String) : Act RegistryError NodeId := do
  match (← n.state).children.get? name with
  | none => n.failMissing name
  | some child =>
    n.change fun node => { node with children := node.children.erase name }
    child.leaveParent n
    Act.debug do return "removed node '" ++ name ++ "' from '" ++ (← n.displayName) ++ "'"
    return child

def rename {ε : Type} (n : NodeId) (name : String) : Act ε Unit :=
  n.change ({ · with name := some name })

/-! ## Delegates -/

/-- Registers what gets the delegated parameter of this name; the parameter may come later. -/
def registerGetter {ε : Type} (n : NodeId) (name : String) (getter : Callable) : Act ε Unit := do
  n.change fun node => { node with
    delegates := node.delegates.upsert name {} ({ · with getter := some getter }) }
  Act.debug do return "registered getter for '" ++ name ++ "' on '" ++ (← n.displayName) ++ "'"

def registerSetter {ε : Type} (n : NodeId) (name : String) (setter : Callable) : Act ε Unit := do
  n.change fun node => { node with
    delegates := node.delegates.upsert name {} ({ · with setter := some setter }) }
  Act.debug do return "registered setter for '" ++ name ++ "' on '" ++ (← n.displayName) ++ "'"

/-! ## Looking members up -/

/-- Looks a name up in one of the maps of a node. -/
def find {α : Type} (n : NodeId) (map : Node → OrderedMap α) (name : String) :
    Act RegistryError α := do
  match (map (← n.state)).get? name with
  | some x => return x
  | none => n.failMissing name

def parameter (n : NodeId) (name : String) : Act RegistryError ParamId := n.find (·.parameters) name

def child (n : NodeId) (name : String) : Act RegistryError NodeId := n.find (·.children) name

def submodule (n : NodeId) (name : String) : Act RegistryError NodeId := n.find (·.submodules) name

def field (n : NodeId) (name : String) : Act RegistryError Value := n.find (·.fields) name

end NodeId
end LabRegistry

import LabRegistry.Proofs.Engine.Setup
import LabRegistry.Proofs.Naming.Parents
import Mathlib.Tactic.IntervalCases

/-!
# Names of registered parameters

A parameter takes the name of every binding in the node that owns it, and the node keeps it under
the names of earlier bindings as well. Another parameter that is bound under the present name of
such a parameter takes its place there but does not take it out of the node, so the two then go by
one name. This is the only way: names of parameters differ in all states of a run exactly if no
step lets a parameter take the name of another one that stays, which holds if no parameter is
displaced from its name and kept under another one.
-/
namespace LabRegistry

namespace Registry

/-- The live node owns the parameter and has it among its parameters. -/
def Registers (r : Registry) (n : NodeId) (p : ParamId) : Prop :=
  r.owner? p = some n ∧ ∃ key, (r.node n).parameters.get? key = some p

/-- No two parameters that a node owns and has among its parameters go by the same name. -/
def NamesDiffer (r : Registry) : Prop :=
  ∀ n p q, r.Registers n p → r.Registers n q → (r.param p).name = (r.param q).name → p = q

/-- The step enters `q` under a name into the node that owns it, where another parameter goes by
this name that the node has under another one too. -/
structure TakesName (r after : Registry) (n : NodeId) (name : String) (q : ParamId) : Prop where
  entered : (after.node n).parameters.get? name = some q
  owned : after.owner? q = some n
  taken : ∃ p key, p ≠ q ∧ key ≠ name ∧ (r.node n).parameters.get? key = some p ∧
    r.owner? p = some n ∧ (r.param p).name = name

/-- After the step the name by which a parameter of the node goes stands for something else there,
but the node has the parameter under another name. -/
def DisplacesParameter (r after : Registry) (n : NodeId) (name : String) : Prop :=
  ∃ p, (r.node n).parameters.get? name = some p ∧ (r.param p).name = name ∧
    (after.node n).parameters.get? name ≠ some p ∧ after.Registers n p

/-- Whatever a node has among its parameters has an owner. -/
def Owned (r : Registry) : Prop :=
  ∀ n key p, (r.node n).parameters.get? key = some p → (r.param p).owner.isSome

/-- Every parameter that its owner has among its parameters is there under its own name. -/
def UnderOwnName (r : Registry) : Prop :=
  ∀ n p, r.Registers n p → (r.node n).parameters.get? (r.param p).name = some p

/-! ## What a step does -/

/-- How the names after a step may differ from those before it. -/
structure NamingStep (entry : Option (NodeId × String × ParamId)) (r after : Registry) :
    Prop where
  size : r.params.size ≤ after.params.size
  owner : ∀ p n, (after.param p).owner = some n →
    (r.param p).owner = some n ∨ ∃ name, entry = some (n, name, p)
  owned : ∀ p n, (r.param p).owner = some n → (after.param p).owner = some n
  name : ∀ p, (r.param p).owner.isSome → (after.param p).name = (r.param p).name ∨
    ∃ n, entry = some (n, (after.param p).name, p) ∧ (after.param p).owner = some n ∧
      (after.node n).parameters.get? (after.param p).name = some p
  listed : ∀ n key p, (after.node n).parameters.get? key = some p →
    (r.node n).parameters.get? key = some p ∨ entry = some (n, key, p)
  kept : ∀ n key p, (r.node n).parameters.get? key = some p →
    (after.node n).parameters.get? key = some p ∨ ∃ q, entry = some (n, key, q)
  entered : ∀ n name p, entry = some (n, name, p) →
    (after.node n).parameters.get? name = some p → p.index < r.params.size →
      (after.param p).owner.isSome ∧
        ((after.param p).owner = some n → (after.param p).name = name)

variable {r after : Registry} {entry : Option (NodeId × String × ParamId)}

private theorem index_lt_of_owner {p : ParamId} {n : NodeId} (h : (r.param p).owner = some n) :
    p.index < r.params.size := by
  by_contra outside
  have beyond : ¬ p.index < r.params.cells.size := outside
  have unmade : r.param p = default := by simp [param, Arena.get, Array.getD, beyond]
  rw [unmade] at h
  cases h

private theorem owner_of_owner? {p : ParamId} {n : NodeId} (h : r.owner? p = some n) :
    (r.param p).owner = some n ∧ r.isAlive n = true :=
  Option.filter_eq_some_iff.mp h

private theorem owner?_of_isAlive {p : ParamId} {n : NodeId} (h : (r.param p).owner = some n)
    (alive : r.isAlive n = true) : r.owner? p = some n :=
  Option.filter_eq_some_iff.mpr ⟨h, alive⟩

/-- Maps of parameters, names and owners are the same. -/
structure SameNaming (r after : Registry) : Prop where
  size : r.params.size ≤ after.params.size
  parameters : ∀ n, (after.node n).parameters = (r.node n).parameters
  owner : ∀ p, (after.param p).owner = (r.param p).owner
  name : ∀ p, p.index < r.params.size → (after.param p).name = (r.param p).name

instance : IsPreorder Registry SameNaming where
  refl _ := ⟨le_rfl, fun _ => rfl, fun _ => rfl, fun _ _ => rfl⟩
  trans _ _ _ h h' := ⟨h.size.trans h'.size, fun n => (h'.parameters n).trans (h.parameters n),
    fun p => (h'.owner p).trans (h.owner p),
    fun p hp => (h'.name p (hp.trans_le h.size)).trans (h.name p hp)⟩

private theorem SameNaming.step (h : r.SameNaming after) : NamingStep none r after where
  size := h.size
  owner p n hn := .inl ((h.owner p).symm.trans hn)
  owned p n hn := (h.owner p).trans hn
  name p hp := by
    obtain ⟨n, hn⟩ := Option.isSome_iff_exists.mp hp
    exact .inl (h.name p (index_lt_of_owner hn))
  listed n key p hp := .inl (by rwa [← h.parameters])
  kept n key p hp := .inl (by rwa [h.parameters])
  entered n name p new := by cases new

private theorem SameTree.parameters (h : r.SameTree after) (n : NodeId) :
    (after.node n).parameters = (r.node n).parameters :=
  congrArg (·.parameters) (h.members n)

private theorem sameNaming_of_setups (tree : r.SameTree after) (setups : r.SameSetups after) :
    r.SameNaming after where
  size := setups.size.ge
  parameters := tree.parameters
  owner p := congrArg (·.owner) (setups.setup p)
  name p _ := setups.name p

private theorem sameNaming_of_params (h : after.params = r.params)
    (parameters : ∀ n, (after.node n).parameters = (r.node n).parameters) :
    r.SameNaming after where
  size := by rw [h]
  parameters := parameters
  owner p := by rw [param, h, param]
  name p _ := by rw [param, h, param]

private theorem sameNaming_change {n : NodeId} {f : Node → Node}
    (h : ∀ node, (f node).parameters = node.parameters) :
    r.SameNaming { r with nodes := r.nodes.change n.index f } := by
  refine sameNaming_of_params rfl fun m => ?_
  rw [node_change]
  split
  · exact h _
  · rfl

end Registry

open Registry

/-! ## Binding a parameter -/

section Bind

variable {n : NodeId} {name : String} {p : ParamId} {r : Registry}

/-- The first node that `p` joins is its owner, and `p` takes the names that its owner gives. -/
private structure Joins (n : NodeId) (name : String) (p : ParamId) (r after : Registry) :
    Prop where
  size : after.params.size = r.params.size
  other : ∀ q, q ≠ p → after.param q = r.param q
  owner : (after.param p).owner = some ((r.param p).owner.getD n)
  name : (after.param p).name =
    if (r.param p).owner.getD n = n then name else (r.param p).name

private theorem Joins.of_same {after : Registry} (same : after.params = r.params) {m : NodeId}
    (owner : (r.param p).owner = some m) (other : m ≠ n) : Joins n name p r after where
  size := by rw [same]
  other q _ := by rw [param, same, param]
  owner := by
    rw [param, same, ← param, owner]
    rfl
  name := by
    rw [param, same, ← param, owner]
    exact (if_neg other).symm

private theorem Joins.of_change {after : Registry} {f : Parameter → Parameter}
    (change : after.params = r.params.change p.index f)
    (joined : ∀ param, (f param).owner = some n ∧ (f param).name = name)
    (inside : p.index < r.params.size) (owner : (r.param p).owner.getD n = n) :
    Joins n name p r after := by
  have cell (q : ParamId) : after.param q = if q = p then f (r.param q) else r.param q := by
    have same : after.param q = param { r with params := r.params.change p.index f } q :=
      congrArg (·.get q.index) change
    rw [same, param_change]
    simp only [inside, and_true]
  refine ⟨?_, ?_, ?_, ?_⟩
  · rw [change, Arena.size_change]
  · intro q other
    rw [cell, if_neg other]
  · rw [cell, if_pos rfl, owner]
    exact (joined _).1
  · rw [cell, if_pos rfl, if_pos owner]
    exact (joined _).2

/-- Only where the parameter gets its first owner or keeps another one does a line of the log come
before the entry, so only then may the entry not be made. -/
private theorem joinNode_outcome (name : String) (inside : p.index < r.params.size) :
    let outcome := (p.joinNode n name : Act RegistryError Unit) r
    outcome.2.nodes = r.nodes ∧ Joins n name p r outcome.2 ∧
      (outcome.1 = .ok () ∨ (r.param p).owner ≠ some n) := by
  rcases @ParamId.joinNode_cases RegistryError p n name r with ⟨other, noted⟩ | ⟨same, noted, again⟩
  · cases owner : (r.param p).owner with
    | none =>
      rw [owner] at other
      exact absurd rfl other
    | some m =>
      rw [owner] at other
      have differ : some m ≠ some n := fun same => other (Option.some_inj.mp same)
      rcases noted with ⟨lines, run⟩ | ⟨-, run⟩
      all_goals
        rw [run]
        exact ⟨rfl, .of_same rfl owner other, .inr differ⟩
  · rcases noted with ⟨lines, run⟩ | ⟨-, run⟩
    · rw [run]
      exact ⟨rfl, .of_change rfl (fun _ => ⟨rfl, rfl⟩) inside same, .inl rfl⟩
    · rw [run] at again ⊢
      refine ⟨rfl, .of_change rfl (fun _ => ⟨rfl, rfl⟩) inside same, .inr fun own => ?_⟩
      cases again own

private theorem Joins.step {after : Registry} (joins : Joins n name p r after)
    (parameters : (∀ m, (after.node m).parameters = (r.node m).parameters) ∧
        (r.param p).owner ≠ some n ∨
      ∀ m, (after.node m).parameters =
        if m = n then (r.node m).parameters.insert name p else (r.node m).parameters) :
    NamingStep (some (n, name, p)) r after := by
  refine ⟨joins.size.ge, ?_, ?_, ?_, ?_, ?_, ?_⟩
  · intro q m hm
    by_cases own : q = p
    · subst own
      rw [joins.owner] at hm
      cases owner : (r.param q).owner with
      | none =>
        rw [owner] at hm
        cases hm
        exact .inr ⟨name, rfl⟩
      | some m' =>
        rw [owner] at hm
        exact .inl hm
    · exact .inl (joins.other q own ▸ hm)
  · intro q m hm
    by_cases own : q = p
    · subst own
      rw [joins.owner, hm]
      rfl
    · rwa [joins.other q own]
  · intro q hq
    by_cases own : q = p
    · subst own
      obtain ⟨m, hm⟩ := Option.isSome_iff_exists.mp hq
      have renamed := joins.name
      rw [hm] at renamed
      by_cases here : m = n
      · subst here
        rw [Option.getD_some, if_pos rfl] at renamed
        rcases parameters with ⟨_, other⟩ | enters
        · exact absurd hm other
        · refine .inr ⟨m, by rw [renamed], ?_, ?_⟩
          · rw [joins.owner, hm]
            rfl
          · rw [enters, if_pos rfl, renamed, OrderedMap.get?_insert, if_pos rfl]
      · rw [Option.getD_some, if_neg here] at renamed
        exact .inl renamed
    · exact .inl (by rw [joins.other q own])
  · intro m key q found
    rcases parameters with ⟨same, _⟩ | enters
    · exact .inl (by rwa [← same])
    · rw [enters] at found
      split at found
      case isTrue here =>
        rw [OrderedMap.get?_insert] at found
        split at found
        case isTrue key =>
          cases found
          rw [here, key]
          exact .inr rfl
        case isFalse => exact .inl found
      case isFalse => exact .inl found
  · intro m key q found
    rcases parameters with ⟨same, _⟩ | enters
    · exact .inl (by rwa [same])
    · by_cases here : m = n ∧ key = name
      · exact .inr ⟨p, by rw [here.1, here.2]⟩
      · left
        rw [enters]
        split
        case isTrue node =>
          rw [OrderedMap.get?_insert, if_neg fun same => here ⟨node, same⟩]
          exact found
        case isFalse => exact found
  · intro m key q new _ _
    cases new
    have owner := joins.owner
    refine ⟨by rw [owner]; rfl, fun own => ?_⟩
    rw [owner] at own
    rw [joins.name, if_pos (Option.some_inj.mp own)]

private theorem NodeId.addParameterAs_naming (name : String) (inside : p.index < r.params.size)
    (made : n.index < r.nodes.size) :
    NamingStep (some (n, name, p)) r ((n.addParameterAs name p) r).2 := by
  rw [NodeId.addParameterAs, Act.bind_run]
  by_cases admits : (r.node n).Admits .parameter name
  · rw [NodeId.requireFree_of_admits admits]
    dsimp only
    obtain ⟨nodes, joins, done⟩ := joinNode_outcome (n := n) name inside
    rw [Act.bind_run]
    rcases joined : (p.joinNode n name : Act RegistryError Unit) r with ⟨halt | _, mid⟩
    · rw [joined] at nodes joins done
      refine joins.step (.inl ⟨fun m => ?_, ?_⟩)
      · rw [node, nodes, node]
      · rcases done with ok | other
        · cases ok
        · exact other
    · rw [joined] at nodes joins
      refine Joins.step ⟨joins.size, joins.other, joins.owner, joins.name⟩ (.inr fun m => ?_)
      have change := node_change mid n m fun node =>
        { node with parameters := node.parameters.insert name p }
      have same : mid.node m = r.node m := by rw [node, nodes, node]
      have size : mid.nodes.size = r.nodes.size := congrArg Arena.size nodes
      rw [same, size] at change
      dsimp only
      rw [NodeId.change_run, change]
      by_cases here : m = n
      · rw [if_pos ⟨here, made⟩, if_pos here]
      · rw [if_neg fun both => here both.1, if_neg here]
  · obtain ⟨existing, taken, refused⟩ := NodeId.requireFree_of_not_admits admits
    rw [refused]
    refine ⟨le_rfl, fun _ _ => .inl, fun _ _ => id, fun _ _ => .inl rfl, fun _ _ _ => .inl,
      fun _ _ _ => .inl, fun _ _ _ new found _ => ?_⟩
    cases new
    -- A name that is refused belongs to no parameter.
    have parameter : (r.node n).kindOf name = some .parameter := by
      rw [Node.kindOf, OrderedMap.contains, found]
      rfl
    exact absurd (.inr parameter) admits

end Bind

/-! ## Every command -/

/-- The node, the name and the parameter that a command enters there. -/
def Command.entered? (r : Registry) : Command → Option (NodeId × String × ParamId)
  | bind n name (.parameter p) => some (n, name, p)
  | addParameter n p => some (n, (r.param p).name, p)
  | _ => none

private theorem createNode_naming (handle : String) (name : Option String) (config : NodeConfig)
    (r : Registry) : r.SameNaming ((Command.createNode handle name config).act r).2 := by
  refine sameNaming_of_params rfl fun n => ?_
  have fresh := node_push r { name, config } n
  have found : ((Command.createNode handle name config).act r).2.node n =
      if n.index = r.nodes.size then { name, config } else r.node n := fresh
  rw [found]
  split
  case isTrue new =>
    rw [node_of_size_le new.ge]
    rfl
  case isFalse => rfl

private theorem createParameter_naming (handle : String) (plan : ParameterPlan) :
    (Command.createParameter handle plan).act.Keeps SameNaming := by
  have push : (do
      let now ← Act.readClock
      let r ← Act.registry
      Act.change fun r => { r with params := r.params.push (plan.toParameter now) }
      return ⟨r.params.size⟩ : Act RegistryError ParamId).Keeps SameNaming := by
    intro r
    have cell (q : ParamId) (param : Parameter) : (r.params.push param).get q.index =
        if q.index = r.params.size then param else r.param q := Arena.get_push _ _ _
    refine ⟨?_, fun _ => rfl, fun q => ?_, fun q old => ?_⟩
    · exact (Nat.le_succ _).trans (Arena.size_push _ _).ge
    · refine congrArg (·.owner) (cell q (plan.toParameter r.now)) |>.trans ?_
      split
      case isTrue new =>
        cases owner : (r.param q).owner with
        | none => rfl
        | some n =>
          have made := index_lt_of_owner owner
          omega
      case isFalse => rfl
    · refine congrArg (·.name) (cell q (plan.toParameter r.now)) |>.trans ?_
      rw [if_neg (by omega)]
  have create : plan.create.Keeps SameNaming := by
    rw [ParameterPlan.create]
    cases plan.validator.validate plan.initial with
    | error reason => exact .bind (.fail _) fun _ => push
    | ok _ => exact push
  exact .bind create fun p => .change fun r => sameNaming_of_params rfl fun _ => rfl

private theorem effects_naming {α : Type} {act : Act RegistryError α} (keeps : act.Keeps Effects) :
    act.Keeps SameNaming :=
  fun r => sameNaming_of_setups (keeps r).sameNodes.tree (keeps r).sameSetups

private theorem set_naming (n : NodeId) (name : String) (v : Value) :
    (n.set name v).Keeps SameNaming :=
  effects_naming (.bind (Effects.parameter n name) fun p => Effects.set p v)

private theorem setting_naming {ε : Type} (n : NodeId) {f : Node → Node}
    (h : ∀ node, (f node).parameters = node.parameters) :
    (n.change f : Act ε Unit).Keeps SameNaming :=
  .change fun _ => sameNaming_change h

private theorem logged_naming {ε : Type} {level : LogLevel} {text : Act ε String}
    (h : text.Keeps SameNaming) : (Act.writeLog level text).Keeps SameNaming :=
  .writeLog h fun _ _ => sameNaming_of_params rfl fun _ => rfl

private theorem shown_naming {α : Type} (n : NodeId) (f : String → α) :
    (do return f (← n.displayName) : Act RegistryError α).Keeps SameNaming :=
  .bind (.orEndless _) fun _ => .pure _

private theorem assign_naming (n : NodeId) (name : String) (v : Value) :
    (n.assign name v).Keeps SameNaming := by
  refine .bind (.read fun _ => rfl) fun node => ?_
  split
  · exact set_naming n name v
  · exact setting_naming n fun _ => rfl
  · exact setting_naming n fun _ => rfl
  · exact .bind (.orEndless _) fun _ => .fail _

private theorem attach_naming (n : NodeId) (kind : MemberKind) (name : String) (child : NodeId)
    {put : Node → Node} (h : ∀ node, (put node).parameters = node.parameters) :
    (n.attach kind name child put).Keeps SameNaming := by
  have taken (first : Bool) :
      (child.takeName n name first : Act RegistryError Unit).Keeps SameNaming := by
    refine .bind (.read fun _ => rfl) fun node => ?_
    split
    · exact logged_naming (shown_naming child _)
    · refine .bind (setting_naming child fun _ => rfl) fun _ => ?_
      split
      · exact logged_naming (.bind (.bind (.orEndless _) fun _ => .pure _) fun _ => .pure _)
      · exact .pure _
  have joins : (child.joinParent n name : Act RegistryError Unit).Keeps SameNaming := by
    refine .bind (.read fun _ => rfl) fun parent => ?_
    dsimp only
    split
    · exact .bind (setting_naming child fun _ => rfl) fun _ => taken _
    · exact taken _
  have acyclic : (n.requireNoCycle name child).Keeps SameNaming := by
    refine .bind (.read fun _ => rfl) fun inside => ?_
    split
    · exact .bind (.orEndless _) fun _ => .fail _
    · exact .pure _
  exact .bind (.read (n.requireFree_read name kind)) fun _ => .bind acyclic fun _ =>
    .bind joins fun _ => setting_naming n h

private theorem removeChild_naming (n : NodeId) (name : String) :
    (n.removeChild name).Keeps SameNaming := by
  refine .bind (.read fun _ => rfl) fun node => ?_
  split
  · exact .bind (.orEndless _) fun _ => .fail _
  · rename_i child _
    have leaves : (child.leaveParent n : Act RegistryError Unit).Keeps SameNaming := by
      refine .bind (.read fun _ => rfl) fun node => ?_
      split
      · exact setting_naming child fun _ => rfl
      · exact .pure _
    exact .bind (setting_naming n fun _ => rfl) fun _ => .bind leaves fun _ =>
      .bind (logged_naming (shown_naming n _)) fun _ => .pure _

private theorem register_naming (n : NodeId) (name : String) (given : Delegates → Delegates)
    (text : String → String) :
    (do
      n.change fun node => { node with delegates := node.delegates.upsert name {} given }
      Act.debug do return text (← n.displayName) : Act RegistryError Unit).Keeps SameNaming :=
  .bind (setting_naming n fun _ => rfl) fun _ => logged_naming (shown_naming n text)

theorem Command.act_naming {r : Registry} (h : r.InRange) (command : Command)
    (alive : ∀ n ∈ command.nodes, r.isAlive n = true)
    (made : ∀ n name p, command.entered? r = some (n, name, p) → p.index < r.params.size) :
    NamingStep (command.entered? r) r (command.act r).2 := by
  have same {act : Act RegistryError Unit} (keeps : act.Keeps SameNaming) :
      NamingStep none r (act r).2 := (keeps r).step
  have effects {α : Type} {act : Act RegistryError α} (keeps : act.Keeps Effects) :
      NamingStep none r ((do let _ ← act : Act RegistryError Unit) r).2 :=
    same (.bind (effects_naming keeps) fun _ => .pure _)
  cases command with
  | createNode handle name config => exact (createNode_naming handle name config r).step
  | createParameter handle plan => exact same (createParameter_naming handle plan)
  | keep handle n => exact same (.change fun _ => sameNaming_of_params rfl fun _ => rfl)
  | drop handle =>
    refine same (.bind (.bind (.read fun _ => rfl) fun _ => .bind ?_ fun _ => .pure _) fun _ =>
      .pure _)
    exact .change fun _ => sameNaming_of_params rfl fun _ => rfl
  | bind n name attr =>
    cases attr with
    | value v => exact same (assign_naming n name v)
    | parameter p =>
      exact NodeId.addParameterAs_naming name (made n name p rfl)
        (h.isAlive (alive n List.mem_cons_self))
    | node child => exact same (attach_naming n .parameterNode name child fun _ => rfl)
    | field v => exact same (assign_naming n name v)
  | addParameter n p =>
    rw [act, NodeId.addParameter, Act.bind_run, ParamId.state_run]
    exact NodeId.addParameterAs_naming _ (made n _ p rfl) (h.isAlive (alive n List.mem_cons_self))
  | addChild n name child => exact same (attach_naming n .parameterNode name child fun _ => rfl)
  | addSubmodule n name child => exact same (attach_naming n .submodule name child fun _ => rfl)
  | addFunction n name function =>
    exact same (.bind (.read (n.requireFree_read name .function)) fun _ =>
      setting_naming n fun _ => rfl)
  | removeChild n name => exact same (.bind (removeChild_naming n name) fun _ => .pure _)
  | rename n name => exact same (setting_naming n fun _ => rfl)
  | setForwards n on => exact same (setting_naming n fun _ => rfl)
  | setShortSnapshots n on => exact same (setting_naming n fun _ => rfl)
  | registerGetter n name getter => exact same (register_naming n name _ _)
  | registerSetter n name setter => exact same (register_naming n name _ _)
  | request asked => exact effects (Effects.perform asked)
  | connect p target link =>
    exact same (effects_naming (Effects.discipline.connect Effects.set p target link))
  | listen p callback => exact effects (Effects.listen p _)
  | disconnect p id => exact effects (Effects.disconnect p id)
  | disconnectAll p => exact same (effects_naming (Effects.disconnectAll p))

namespace Registry

def entered? (r : Registry) (command : Command) : Option (NodeId × String × ParamId) :=
  if command.nodes.all r.isAlive then command.entered? r else none

private theorem step_naming {r : Registry} (h : r.InRange) (command : Command)
    (made : ∀ n name p, r.entered? command = some (n, name, p) → p.index < r.params.size) :
    NamingStep (r.entered? command) r (r.step command) := by
  rw [entered?] at made ⊢
  rw [step]
  split
  case isTrue alive =>
    rw [if_pos alive] at made
    exact Command.act_naming h command (List.all_eq_true.mp alive) made
  case isFalse => exact (SameNaming.step (refl r))

/-! ## What follows for a step -/

variable {r after : Registry} {entry : Option (NodeId × String × ParamId)}

private theorem Owned.step (owned : r.Owned) (naming : NamingStep entry r after)
    (made : ∀ n name p, entry = some (n, name, p) → p.index < r.params.size) : after.Owned := by
  intro n key p found
  rcases naming.listed n key p found with old | new
  · obtain ⟨m, hm⟩ := Option.isSome_iff_exists.mp (owned n key p old)
    rw [naming.owned p m hm]
    rfl
  · exact (naming.entered n key p new found (made n key p new)).1

section Step

variable (naming : NamingStep entry r after) (owned : r.Owned)
  (made : ∀ n name p, entry = some (n, name, p) → p.index < r.params.size)
  (live : ∀ n, after.isAlive n = true → r.isAlive n = true ∨ r.nodes.size ≤ n.index)

include naming owned made live

private theorem Registers.before {n : NodeId} {p : ParamId} (h : after.Registers n p) :
    r.Registers n p ∧ (after.param p).name = (r.param p).name ∨
      entry = some (n, (after.param p).name, p) ∧
        (after.node n).parameters.get? (after.param p).name = some p := by
  obtain ⟨owner, key, found⟩ := h
  obtain ⟨owner, alive⟩ := owner_of_owner? owner
  rcases naming.listed n key p found with old | new
  · obtain ⟨m, hm⟩ := Option.isSome_iff_exists.mp (owned n key p old)
    have same : m = n := Option.some_inj.mp ((naming.owned p m hm).symm.trans owner)
    subst same
    rcases naming.name p (owned m key p old) with name | ⟨m', new, owner', found'⟩
    · have lives : r.isAlive m = true := by
        refine (live m alive).resolve_right fun outside => ?_
        rw [node_of_size_le outside] at old
        cases old
      exact .inl ⟨⟨owner?_of_isAlive hm lives, key, old⟩, name⟩
    · rw [owner'] at owner
      cases owner
      exact .inr ⟨new, found'⟩
  · have name := (naming.entered n key p new found (made n key p new)).2 owner
    rw [name]
    exact .inr ⟨new, found⟩

private theorem NamesDiffer.step (h : r.NamesDiffer)
    (free : ∀ n name q, entry = some (n, name, q) → ¬ TakesName r after n name q) :
    after.NamesDiffer := by
  have takes {n : NodeId} {p q : ParamId} (hp : after.Registers n p) (hq : after.Registers n q)
      (old : r.Registers n p) (kept : (after.param p).name = (r.param p).name)
      (new : entry = some (n, (after.param q).name, q))
      (entered : (after.node n).parameters.get? (after.param q).name = some q)
      (same : (after.param p).name = (after.param q).name) : p = q := by
    by_contra differ
    obtain ⟨_, key, found⟩ := hp
    have other : key ≠ (after.param q).name := by
      intro here
      rw [here, entered] at found
      exact differ (Option.some_inj.mp found).symm
    have before : (r.node n).parameters.get? key = some p := by
      rcases naming.listed n key p found with before | again
      · exact before
      · rw [new] at again
        cases again
        exact absurd rfl differ
    exact free n _ q new
      ⟨entered, hq.1, p, key, differ, other, before, old.1, kept.symm.trans same⟩
  intro n p q hp hq same
  rcases hp.before naming owned made live with ⟨oldP, nameP⟩ | ⟨newP, foundP⟩
  · rcases hq.before naming owned made live with ⟨oldQ, nameQ⟩ | ⟨newQ, foundQ⟩
    · exact h n p q oldP oldQ (nameP.symm.trans (same.trans nameQ))
    · exact takes hp hq oldP nameP newQ foundQ same
  · rcases hq.before naming owned made live with ⟨oldQ, nameQ⟩ | ⟨newQ, foundQ⟩
    · exact (takes hq hp oldQ nameQ newP foundP same.symm).symm
    · exact congrArg (·.2.2) (Option.some_inj.mp (newP.symm.trans newQ))

private theorem UnderOwnName.step (h : r.UnderOwnName)
    (stays : ∀ n name q, entry = some (n, name, q) → ¬ DisplacesParameter r after n name) :
    after.UnderOwnName := by
  intro n p hp
  rcases hp.before naming owned made live with ⟨old, name⟩ | ⟨_, found⟩
  · have before := h n p old
    rw [name]
    by_contra gone
    rcases naming.kept n _ p before with kept | ⟨q, new⟩
    · exact gone kept
    · exact stays n _ q new ⟨p, before, rfl, gone, hp⟩
  · exact found

omit live in
/-- A parameter that takes the name of another one goes by the same name from then on. -/
theorem TakesName.not_namesDiffer {n : NodeId} {name : String} {q : ParamId}
    (h : TakesName r after n name q) (new : entry = some (n, name, q)) : ¬ after.NamesDiffer := by
  intro namesDiffer
  obtain ⟨p, key, differ, other, found, owner, named⟩ := h.taken
  obtain ⟨ownerQ, alive⟩ := owner_of_owner? h.owned
  have nameQ := (naming.entered n name q new h.entered (made n name q new)).2 ownerQ
  have nameP : (after.param p).name = name := by
    rcases naming.name p (owned n key p found) with same | ⟨m, again, _⟩
    · exact same.trans named
    · rw [new] at again
      cases again
      exact absurd rfl differ
  have foundP : (after.node n).parameters.get? key = some p := by
    rcases naming.kept n key p found with kept | ⟨q', again⟩
    · exact kept
    · rw [new] at again
      cases again
      exact absurd rfl other
  have ownerP := naming.owned p n (owner_of_owner? owner).1
  exact differ (namesDiffer n p q ⟨owner?_of_isAlive ownerP alive, key, foundP⟩
    ⟨h.owned, name, h.entered⟩ (nameP.trans nameQ.symm))

end Step

private theorem UnderOwnName.namesDiffer (h : r.UnderOwnName) : r.NamesDiffer := by
  intro n p q hp hq same
  have found := h n p hp
  rw [same, h n q hq] at found
  exact (Option.some_inj.mp found).symm

/-! ## What names decide -/

private theorem intercalate_concat_injective (sep : String) (path : List String) {a b : String}
    (h : sep.intercalate (path ++ [a]) = sep.intercalate (path ++ [b])) : a = b := by
  by_cases top : path = []
  · subst top
    simpa using h
  · rw [String.intercalate_append_of_ne_nil top (List.cons_ne_nil _ _),
      String.intercalate_append_of_ne_nil top (List.cons_ne_nil _ _)] at h
    simpa using h

/-- Parameters of a node that go by different names have different full names, and what is
registered under the name of one of them is no delegate of the other. -/
theorem names_tell_apart {n : NodeId} {p q : ParamId} (hp : r.Registers n p)
    (hq : r.Registers n q) (differ : (r.param p).name ≠ (r.param q).name) :
    (∀ full, r.paramName? p = some full → r.paramName? q ≠ some full) ∧
      ∀ given, ({ r.node n with
        delegates := (r.node n).delegates.upsert (r.param q).name {} given } : Node).delegatesFor
          (r.param p).name = (r.node n).delegatesFor (r.param p).name := by
  constructor
  · intro full fullP fullQ
    rw [paramName?, hp.1] at fullP
    rw [paramName?, hq.1] at fullQ
    dsimp only at fullP fullQ
    cases hpath : r.path? n with
    | none =>
      rw [hpath] at fullP
      cases fullP
    | some path =>
      rw [hpath] at fullP fullQ
      have same := Option.some_inj.mp (fullP.trans fullQ.symm)
      exact differ (intercalate_concat_injective nameSeparator path same)
  · intro given
    rw [Node.delegatesFor, OrderedMap.upsert, OrderedMap.get?_insert, if_neg differ,
      Node.delegatesFor]

/-! ## Runs -/

/-- In runs that bind existing parameters, names of registered parameters differ in all states
exactly if no step lets a parameter take the name of another one that its owner has under another
name too. This holds if no step displaces a parameter from its name that its owner still has. While
names differ, full names differ too, and no parameter is answered by the delegate of another one. -/
theorem names_of_run (log : Log) (now : Instant) (commands : List Command)
    (made : ∀ k command, commands[k]? = some command → ∀ n name p,
      ((start log now).runTo commands k).entered? command = some (n, name, p) →
        p.index < ((start log now).runTo commands k).params.size) :
    let state := (start log now).runTo commands
    ((∀ k, (state k).NamesDiffer) ↔
      ∀ k command, commands[k]? = some command → ∀ n name q,
        (state k).entered? command = some (n, name, q) →
          ¬ TakesName (state k) (state (k + 1)) n name q) ∧
    ((∀ k command, commands[k]? = some command → ∀ n name q,
        (state k).entered? command = some (n, name, q) →
          ¬ DisplacesParameter (state k) (state (k + 1)) n name) →
      ∀ k, (state k).NamesDiffer) ∧
    ∀ k, (state k).NamesDiffer → ∀ n p q, p ≠ q →
      (state k).Registers n p → (state k).Registers n q →
        (∀ full, (state k).paramName? p = some full → (state k).paramName? q ≠ some full) ∧
        ∀ given, ({ (state k).node n with delegates :=
          ((state k).node n).delegates.upsert ((state k).param q).name {} given } :
            Node).delegatesFor ((state k).param p).name =
              ((state k).node n).delegatesFor ((state k).param p).name := by
  intro state
  have inRange (k : Nat) : (state k).InRange := inRange_run log now _
  have naming (k : Nat) {command : Command} (hk : commands[k]? = some command) :
      NamingStep ((state k).entered? command) (state k) (state (k + 1)) := by
    have step := step_naming (inRange k) command (made k command hk)
    rwa [← runTo_succ hk] at step
  have live (k : Nat) {command : Command} (hk : commands[k]? = some command) (n : NodeId)
      (alive : (state (k + 1)).isAlive n = true) :
      (state k).isAlive n = true ∨ (state k).nodes.size ≤ n.index := by
    have links := step_links (inRange k) command
    rw [← runTo_succ hk] at links
    exact links.isAlive (fun n m bound => (isAlive_of_bound bound).2) alive
  have nothing (n : NodeId) (key : String) : ((state 0).node n).parameters.get? key = none := by
    have empty : (state 0).node n = default := node_start log now n
    rw [empty]
    rfl
  have unregistered (n : NodeId) (p : ParamId) : ¬ (state 0).Registers n p := by
    rintro ⟨_, key, found⟩
    rw [nothing] at found
    cases found
  have owned (k : Nat) : (state k).Owned := by
    refine runTo_induction (P := Owned) (fun n key p found => ?_) (fun k command hk ih => ?_) k
    · exact absurd (found.symm.trans (nothing n key)) (Option.some_ne_none p)
    · rw [← runTo_succ hk]
      exact ih.step (naming k hk) (made k command hk)
  refine ⟨⟨?_, ?_⟩, ?_, ?_⟩
  · intro differ k command hk n name q new takes
    exact takes.not_namesDiffer (naming k hk) (owned k) (made k command hk) new (differ (k + 1))
  · intro free
    refine runTo_induction (P := NamesDiffer) (fun n p q hp => absurd hp (unregistered n p)) ?_
    intro k command hk ih
    rw [← runTo_succ hk]
    exact ih.step (naming k hk) (owned k) (made k command hk) (live k hk) (free k command hk)
  · intro stays k
    have under : (state k).UnderOwnName := by
      refine runTo_induction (P := UnderOwnName) (fun n p hp => absurd hp (unregistered n p))
        (fun k command hk ih => ?_) k
      rw [← runTo_succ hk]
      exact ih.step (naming k hk) (owned k) (made k command hk) (live k hk) (stays k command hk)
    exact under.namesDiffer
  · intro k differ n p q other hp hq
    exact names_tell_apart hp hq fun same => other (differ n p q hp hq same)

/-- Parameter 0 is bound under two names and goes by the second one, under which parameter 1 is
bound then. -/
def aliasing : List Command := [
  .createNode "n" (some "n") {}, .createParameter "p" { name := "p" },
  .createParameter "q" { name := "q" }, .bind ⟨0⟩ "a" (.parameter ⟨0⟩),
  .bind ⟨0⟩ "b" (.parameter ⟨0⟩), .bind ⟨0⟩ "b" (.parameter ⟨1⟩)]

private theorem aliasing_made : ∀ k command, aliasing[k]? = some command → ∀ n name p,
    ((start {} default).runTo aliasing k).entered? command = some (n, name, p) →
      p.index < ((start {} default).runTo aliasing k).params.size := by
  intro k command hk n name p new
  have inside : k < 6 := (List.getElem?_eq_some_iff.mp hk).1
  rw [entered?] at new
  split at new
  case isTrue =>
    interval_cases k
    all_goals
      cases hk
      cases new
    all_goals decide +kernel
  case isFalse => cases new

private theorem aliasing_shares_name :
    let r := (start {} default).run aliasing
    r.Registers ⟨0⟩ ⟨0⟩ ∧ r.Registers ⟨0⟩ ⟨1⟩ ∧ (r.param ⟨0⟩).name = (r.param ⟨1⟩).name := by
  intro r
  have first : r.Registers ⟨0⟩ ⟨0⟩ := ⟨by decide +kernel, "a", by decide +kernel⟩
  have second : r.Registers ⟨0⟩ ⟨1⟩ := ⟨by decide +kernel, "b", by decide +kernel⟩
  exact ⟨first, second, by decide +kernel⟩

/-- The run binds existing parameters only, and in it a parameter takes the name of another. -/
theorem aliasing_takes_name :
    let state := (start {} default).runTo aliasing
    (∀ k command, aliasing[k]? = some command → ∀ n name p,
      (state k).entered? command = some (n, name, p) → p.index < (state k).params.size) ∧
    ∃ k command n name q, aliasing[k]? = some command ∧
      (state k).entered? command = some (n, name, q) ∧
        TakesName (state k) (state (k + 1)) n name q := by
  refine ⟨aliasing_made, ?_⟩
  by_contra none
  push Not at none
  obtain ⟨first, second, same⟩ := aliasing_shares_name
  have differ := (names_of_run {} default aliasing aliasing_made).1.mpr
    (fun k command hk n name q new => none k command n name q hk new) 6
  cases differ _ _ _ first second same

/-- Two distinct parameters that a live node owns and has among its parameters go by the same
name. -/
theorem displaced_parameter_shares_name :
    ∃ p q, p ≠ q ∧ ∃ n, let r := (start {} default).run aliasing
      r.Registers n p ∧ r.Registers n q ∧ (r.param p).name = (r.param q).name ∧
        r.paramName? p = r.paramName? q ∧ (r.paramName? p).isSome := by
  obtain ⟨first, second, same⟩ := aliasing_shares_name
  exact ⟨⟨0⟩, ⟨1⟩, by decide, ⟨0⟩, first, second, same, by decide +kernel, by decide +kernel⟩

end Registry
end LabRegistry

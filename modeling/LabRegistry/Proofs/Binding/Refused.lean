import LabRegistry.Proofs.Binding.Command
import LabRegistry.Proofs.Binding.Outcome

/-!
# Refused bindings

Whatever binds a member or writes a field first asks whether the name is free for it and, where a node
is bound, whether that would close a circle. Both guards come before the first change, and once they are
passed nothing fails any more. So a binding that fails has left the whole registry as it was.
-/
namespace LabRegistry

/-- What is to be bound: a member of a kind under a name of its holder. If it is a node, it is to hang
below the holder. -/
structure Placement where
  holder : NodeId
  name : String
  kind : MemberKind
  child : Option NodeId := none

/-- What is in the way, once it is known how the holder is shown: the name belongs to a member of
another kind, or the node to be bound contains the holder. -/
def Placement.obstacle? (place : Placement) (r : Registry) : Option (String → RegistryError) :=
  match ((r.node place.holder).kindOf place.name).filter (· ≠ place.kind) with
  | some existing => some (.nameTaken · place.name existing)
  | none =>
    if place.child.any (r.contains · place.holder) then some (.containsHolder · place.name)
    else none

/-- What a command binds where. A value that goes through to a parameter of the name is not bound. -/
def Command.placement? (r : Registry) : Command → Option Placement
  | .bind n name (.parameter _) => some { holder := n, name, kind := .parameter }
  | .bind n name (.node child) => some { holder := n, name, kind := .parameterNode, child }
  | .bind n name (.value _) | .bind n name (.field _) =>
    if (r.node n).kindOf name = some .parameter ∧ (r.node n).config.forwards = true then none
    else some { holder := n, name, kind := .field }
  | .addParameter n p => some { holder := n, name := (r.param p).name, kind := .parameter }
  | .addChild n name child => some { holder := n, name, kind := .parameterNode, child }
  | .addSubmodule n name child => some { holder := n, name, kind := .submodule, child }
  | .addFunction n name _ => some { holder := n, name, kind := .function }
  | _ => none

/-- Where something is in the way the operation stops with nothing changed, and elsewhere it does not
fail. -/
def Act.GuardedBy {α : Type} (act : Act RegistryError α) (r : Registry) (place : Placement) : Prop :=
  match place.obstacle? r with
  | some cause => act r = (.error (r.refusal place.holder cause), r)
  | none => ∀ cause, (act r).1 ≠ .error (.failed cause)

variable {r : Registry} {n child : NodeId} {p : ParamId} {name : String} {place : Placement}
  {existing : MemberKind} {command : Command}

namespace Placement

private theorem obstacle?_of_taken (taken : (r.node place.holder).kindOf place.name = some existing)
    (other : existing ≠ place.kind) : place.obstacle? r = some (.nameTaken · place.name existing) := by
  rw [obstacle?, taken, Option.filter_some, if_pos (decide_eq_true other)]

private theorem obstacle?_of_admits (admits : (r.node place.holder).Admits place.kind place.name) :
    place.obstacle? r =
      if place.child.any (r.contains · place.holder) then some (.containsHolder · place.name)
      else none := by
  have free : ((r.node place.holder).kindOf place.name).filter (· ≠ place.kind) = none := by
    rcases admits with none | own
    · rw [none, Option.filter_none]
    · rw [own, Option.filter_some, if_neg (by simp)]
  rw [obstacle?, free]

end Placement

private theorem Act.GuardedBy.of_run {α : Type} {act act' : Act RegistryError α}
    (h : act'.GuardedBy r place)
    (run : act r = act' r) : act.GuardedBy r place := by
  rw [GuardedBy] at h ⊢
  rw [run]
  exact h

private theorem NodeId.requireFree_guardedBy (place : Placement)
    {next : Unit → Act RegistryError Unit}
    (leaf : place.child = none)
    (fine : (r.node place.holder).Admits place.kind place.name →
      ∀ cause, (next () r).1 ≠ .error (.failed cause)) :
    (place.holder.requireFree place.name place.kind >>= next).GuardedBy r place := by
  by_cases admits : (r.node place.holder).Admits place.kind place.name
  · rw [Act.GuardedBy, Placement.obstacle?_of_admits admits, leaf, Option.any_none,
      if_neg Bool.false_ne_true, Act.bind_run, requireFree_of_admits admits]
    exact fine admits
  · obtain ⟨existing, taken, refused⟩ := requireFree_of_not_admits admits
    have other : existing ≠ place.kind := fun same => admits (.inr (same ▸ taken))
    rw [Act.GuardedBy, Placement.obstacle?_of_taken taken other, Act.bind_run, refused]

private theorem NodeId.attach_guardedBy (n : NodeId) (kind : MemberKind) (name : String)
    (child : NodeId)
    (put : Node → Node) (r : Registry) :
    (n.attach kind name child put).GuardedBy r { holder := n, name, kind, child } := by
  by_cases admits : (r.node n).Admits kind name
  · rw [Act.GuardedBy, Placement.obstacle?_of_admits admits, Option.any_some]
    by_cases enclosed : r.Encloses child n
    · rw [if_pos (Registry.contains_iff.mpr enclosed)]
      exact attach_cyclic admits enclosed
    · rw [if_neg (mt Registry.contains_iff.mp enclosed)]
      obtain ⟨mid, -, ⟨endless, -⟩ | entered⟩ := attach_open put admits enclosed
      · rw [endless]
        exact nofun
      · rw [entered]
        exact nofun
  · obtain ⟨existing, taken, refused⟩ := attach_taken child put admits
    have other : existing ≠ kind := fun same => admits (.inr (same ▸ taken))
    rw [Act.GuardedBy, Placement.obstacle?_of_taken taken other]
    exact refused

/-- Writing a line of the log with a name in it may not end, but it does not fail. -/
theorem Registry.Noted.ne_failed {shown : Option String}
    {outcome : Except (Halt RegistryError) Unit × Registry} (h : r.Noted shown outcome)
    (cause : RegistryError) : outcome.1 ≠ .error (.failed cause) := by
  rcases h with ⟨lines, rfl⟩ | ⟨-, rfl⟩
  · exact nofun
  · exact nofun

private theorem ParamId.joinNode_ne_failed (p : ParamId) (n : NodeId) (name : String) (r : Registry)
    (cause : RegistryError) :
    ((p.joinNode n name : Act RegistryError Unit) r).1 ≠ .error (.failed cause) := by
  rcases p.joinNode_cases n name r with ⟨-, noted⟩ | ⟨-, noted, -⟩
  · exact noted.ne_failed cause
  · exact noted.ne_failed cause

private theorem NodeId.addParameterAs_guardedBy (n : NodeId) (name : String) (p : ParamId)
    (r : Registry) :
    (n.addParameterAs name p).GuardedBy r { holder := n, name, kind := .parameter } := by
  refine requireFree_guardedBy { holder := n, name, kind := .parameter } rfl fun _ cause => ?_
  have joins := p.joinNode_ne_failed n name r cause
  rw [Act.bind_run]
  rcases run : (p.joinNode n name : Act RegistryError Unit) r with ⟨halt | done, mid⟩
  · rw [run] at joins
    exact joins
  · exact nofun

private theorem NodeId.assign_guardedBy (v : Value)
    (direct : ¬ ((r.node n).kindOf name = some .parameter ∧ (r.node n).config.forwards = true)) :
    (n.assign name v).GuardedBy r { holder := n, name, kind := .field } := by
  by_cases admits : (r.node n).Admits .field name
  · rw [Act.GuardedBy, Placement.obstacle?_of_admits admits, Option.any_none,
      if_neg Bool.false_ne_true, assign, Act.bind_run, state_run]
    dsimp only
    rcases admits with none | own
    · rw [none]
      exact nofun
    · rw [own]
      exact nofun
  · cases taken : (r.node n).kindOf name with
    | none => exact absurd (.inl taken) admits
    | some existing =>
      have other : existing ≠ .field := fun same => admits (.inr (same ▸ taken))
      rw [Act.GuardedBy, Placement.obstacle?_of_taken taken other, assign, Act.bind_run, state_run]
      dsimp only
      rw [taken]
      cases existing with
      | field => exact absurd rfl other
      | parameter =>
        cases forwards : (r.node n).config.forwards with
        | true => exact absurd ⟨taken, forwards⟩ direct
        | false => exact failNamed_run n _ r
      | _ => exact failNamed_run n _ r

private theorem Command.guardedBy (binds : command.placement? r = some place) :
    command.act.GuardedBy r place := by
  cases command with
  | bind n name attr =>
    cases attr with
    | parameter p =>
      cases binds
      exact n.addParameterAs_guardedBy name p r
    | node child =>
      cases binds
      exact n.attach_guardedBy .parameterNode name child _ r
    | value v | field v =>
      rw [placement?] at binds
      split at binds
      case isTrue => cases binds
      case isFalse direct =>
        cases binds
        exact NodeId.assign_guardedBy v direct
  | addParameter n p =>
    cases binds
    refine (n.addParameterAs_guardedBy _ p r).of_run ?_
    rw [act, NodeId.addParameter, Act.bind_run, ParamId.state_run]
  | addChild n name child =>
    cases binds
    exact n.attach_guardedBy .parameterNode name child _ r
  | addSubmodule n name child =>
    cases binds
    exact n.attach_guardedBy .submodule name child _ r
  | addFunction n name function =>
    cases binds
    exact NodeId.requireFree_guardedBy { holder := n, name, kind := .function } rfl
      fun _ _ => nofun
  | _ => cases binds

/-- A binding fails exactly if its holder has a name to be shown by and the name is taken by another
kind of member or the node contains the holder. Then nothing at all has changed. -/
theorem unchanged_of_refused_binding (binds : command.placement? r = some place)
    (cause : RegistryError) :
    ((command.act r).1 = .error (.failed cause) ↔ ∃ shown why,
      r.displayName? place.holder = some shown ∧ place.obstacle? r = some why ∧ cause = why shown) ∧
    ((command.act r).1 = .error (.failed cause) → (command.act r).2 = r) := by
  have guarded := command.guardedBy binds
  rw [Act.GuardedBy] at guarded
  cases obstacle : place.obstacle? r with
  | none =>
    rw [obstacle] at guarded
    refine ⟨⟨fun failed => absurd failed (guarded cause), ?_⟩, fun failed => absurd failed (guarded cause)⟩
    rintro ⟨_, _, -, ⟨⟩, -⟩
  | some why =>
    rw [obstacle] at guarded
    rw [guarded]
    refine ⟨⟨fun failed => ?_, ?_⟩, fun _ => rfl⟩
    · obtain ⟨shown, name, same⟩ := Registry.refusal_eq_failed (Except.error.inj failed)
      exact ⟨shown, why, name, rfl, same⟩
    · rintro ⟨shown, _, name, ⟨⟩, rfl⟩
      rw [Registry.refusal, name]

/-- A node is not hung below its own child, and the child is still free to take a name. -/
theorem unchanged_of_refused_parent :
    let r := (Registry.start {} default).run [.createNode "a" (some "a") {}, .createNode "b" (some "b") {},
      .addChild ⟨0⟩ "x" ⟨1⟩]
    let command : Command := .addSubmodule ⟨1⟩ "y" ⟨0⟩
    (command.act r).1 = .error (.failed (.containsHolder "a_x" "y")) ∧ (command.act r).2 = r := by
  intro r command
  have refused : (command.act r).1 = .error (.failed (.containsHolder "a_x" "y")) := by decide +kernel
  exact ⟨refused, (unchanged_of_refused_binding rfl _).2 refused⟩

end LabRegistry

import LabRegistry.Proofs.Binding.Members
import LabRegistry.Proofs.Engine.Wiring
import LabRegistry.Proofs.Naming.Chain

/-!
# Registering in a second node

The first node that registers a member is the owner of a parameter or the parent of a node. Any
other node that registers the member is told so by a line of the log and gets an entry, and that is
all that changes: parameters, the member and the first node are as before. What the new entry
replaces may die, though. Names follow live parents only, so they lose the ancestors that die.
-/
namespace LabRegistry

/-- The node among the members of a node. -/
def Found.node? : Found → Option NodeId
  | .parameterNode c | .submodule c => some c
  | _ => none

/-- The holder, the name and the member that a command registers. -/
def Command.member? (r : Registry) : Command → Option (NodeId × String × Found)
  | bind n name (.parameter p) => some (n, name, .parameter p)
  | bind n name (.node child) => some (n, name, .parameterNode child)
  | addParameter n p => some (n, (r.param p).name, .parameter p)
  | addChild n name child => some (n, name, .parameterNode child)
  | addSubmodule n name child => some (n, name, .submodule child)
  | _ => none

namespace Registry

/-- What a command registers, which is nothing if the command cannot be given. -/
def member? (r : Registry) (command : Command) : Option (NodeId × String × Found) :=
  if command.nodes.all r.isAlive then command.member? r else none

/-- The first node that registered a member: the owner of a parameter, dead or alive, and the live
parent of a node. -/
def firstHolder? (r : Registry) : Found → Option NodeId
  | .parameter p => (r.param p).owner
  | .parameterNode c | .submodule c => r.parent? c
  | _ => none

/-- The registry with a member entered under a name and lines of the log written. -/
def enter (r : Registry) (n : NodeId) (name : String) (x : Found)
    (lines : List (LogLevel × String)) : Registry :=
  { r with
    nodes := r.nodes.change n.index (·.put name x)
    log := { r.log with lines } }

/-- How it ends to register in `n` what `first` has registered. -/
inductive Elsewhere (r : Registry) (n first : NodeId) (name : String) (x : Found) :
    Except (Halt RegistryError) Unit × Registry → Prop
  | refused (cause : RegistryError) : Elsewhere r n first name x (.error (.failed cause), r)
  | entered (free : ∀ c, x.node? = some c → ¬ r.Encloses c n) (lines : List (LogLevel × String)) :
      Elsewhere r n first name x (.ok (), r.enter n name x lines)
  /-- Composing a message follows the parents of one of the two nodes round and round. -/
  | stuck (round : ¬ r.ParentsEnd n ∨ ¬ r.ParentsEnd first) :
      Elsewhere r n first name x (.error .endless, r)

variable {r : Registry} {n first : NodeId} {name : String} {x : Found}

private theorem refusal_elsewhere (cause : String → RegistryError) :
    r.Elsewhere n first name x (.error (r.refusal n cause), r) := by
  rw [refusal]
  cases shown : r.displayName? n with
  | some text => exact .refused (cause text)
  | none =>
    refine .stuck (.inl fun ends => ?_)
    have known := displayName?_isSome_iff.mpr ends
    rw [shown] at known
    cases known

end Registry

open Registry

/-! ## Operations -/

section

variable {r : Registry} {n first child : NodeId} {p : ParamId}

private theorem ParamId.joinNode_elsewhere (owner : (r.param p).owner = some first)
    (other : n ≠ first)
    (name : String) :
    (∃ lines, (p.joinNode n name : Act RegistryError Unit) r =
      (.ok (), { r with log := { r.log with lines } })) ∨
    ¬ r.ParentsEnd first ∧ (p.joinNode n name : Act RegistryError Unit) r = (.error .endless, r) := by
  rcases @joinNode_cases RegistryError p n name r with ⟨-, noted⟩ | ⟨same, -⟩
  · refine noted.imp_right ?_
    rintro ⟨nameless, run⟩
    refine ⟨fun ends => ?_, run⟩
    -- A parameter without a live owner has a name, so the nameless one has a live owner.
    cases live : r.owner? p with
    | none =>
      rw [paramName?, live] at nameless
      cases nameless
    | some m =>
      obtain rfl : first = m :=
        Option.some.inj (owner.symm.trans (Option.filter_eq_some_iff.mp live).1)
      have named := (paramName?_isSome_iff live).mpr ends
      rw [nameless] at named
      cases named
  · rw [owner] at same
    exact absurd same.symm other

private theorem NodeId.addParameterAs_elsewhere (owner : (r.param p).owner = some first)
    (other : n ≠ first)
    (name : String) :
    r.Elsewhere n first name (.parameter p) (n.addParameterAs name p r) := by
  rw [addParameterAs, Act.bind_run]
  by_cases admits : (r.node n).Admits .parameter name
  · rw [requireFree_of_admits admits]
    dsimp only
    rw [Act.bind_run]
    rcases ParamId.joinNode_elsewhere owner other name with ⟨lines, joined⟩ | ⟨round, joined⟩
    · rw [joined]
      exact .entered (fun _ none => by cases none) lines
    · rw [joined]
      exact .stuck (.inr round)
  · obtain ⟨existing, -, refused⟩ := requireFree_of_not_admits admits
    rw [refused]
    exact refusal_elsewhere _

private theorem NodeId.joinParent_elsewhere (parent : r.parent? child = some first)
    (other : n ≠ first)
    (name : String) :
    (∃ lines, (child.joinParent n name : Act RegistryError Unit) r =
      (.ok (), { r with log := { r.log with lines } })) ∨
    ¬ r.ParentsEnd first ∧
      (child.joinParent n name : Act RegistryError Unit) r = (.error .endless, r) := by
  have kept : (r.node child).parent ≠ some n := by
    rw [HasParent.parent parent, ne_eq, Option.some_inj]
    exact other.symm
  rw [joinParent, Act.bind_run, parent?_run, parent]
  dsimp only
  rw [Option.isNone_some, if_neg Bool.false_ne_true]
  dsimp only [takeName]
  rw [Act.bind_run, state_run]
  dsimp only
  rw [if_pos kept]
  refine (Act.writeLog_noted .warn (·.displayName? child) _ _ r).imp_right ?_
  rintro ⟨nameless, run⟩
  refine ⟨fun ends => ?_, run⟩
  have named := displayName?_isSome_iff.mpr (.step parent ends)
  rw [nameless] at named
  cases named

private theorem NodeId.attach_elsewhere (parent : r.parent? child = some first) (other : n ≠ first)
    (kind : MemberKind) (name : String) {x : Found} (node : x.node? = some child) :
    r.Elsewhere n first name x (n.attach kind name child (·.put name x) r) := by
  by_cases admits : (r.node n).Admits kind name
  · by_cases enclosed : r.Encloses child n
    · rw [attach_cyclic admits enclosed]
      exact refusal_elsewhere _
    · rw [attach, Act.bind_run, requireFree_of_admits admits]
      dsimp only
      rw [Act.bind_run, requireNoCycle_of_not_encloses enclosed]
      dsimp only
      rw [Act.bind_run]
      rcases joinParent_elsewhere parent other name with ⟨lines, joined⟩ | ⟨round, joined⟩
      · rw [joined]
        refine .entered (fun c same => ?_) lines
        rw [node] at same
        cases same
        exact enclosed
      · rw [joined]
        exact .stuck (.inr round)
  · obtain ⟨existing, -, refused⟩ := attach_taken child (·.put name x) admits
    rw [refused]
    exact refusal_elsewhere _

end

/-- Registering what another node registered first is refused, enters it or does not end. -/
theorem Command.elsewhere {r : Registry} {command : Command} {n first : NodeId} {name : String}
    {x : Found} (registers : command.member? r = some (n, name, x))
    (holder : r.firstHolder? x = some first) (other : n ≠ first) :
    r.Elsewhere n first name x (command.act r) := by
  cases command with
  | bind m key attr =>
    cases attr with
    | parameter p =>
      cases registers
      exact NodeId.addParameterAs_elsewhere holder other name
    | node child =>
      cases registers
      exact NodeId.attach_elsewhere holder other .parameterNode name rfl
    | value v => cases registers
    | field v => cases registers
  | addParameter m p =>
    cases registers
    rw [act, NodeId.addParameter, Act.bind_run, ParamId.state_run]
    exact NodeId.addParameterAs_elsewhere holder other _
  | addChild m key child =>
    cases registers
    exact NodeId.attach_elsewhere holder other .parameterNode name rfl
  | addSubmodule m key child =>
    cases registers
    exact NodeId.attach_elsewhere holder other .submodule name rfl
  | _ => cases registers

/-! ## Names that lose ancestors -/

private theorem Node.mem_held_put {node : Node} {name : String} {x : Found} {m : NodeId}
    (h : m ∈ (node.put name x).held) : m ∈ node.held ∨ x.node? = some m := by
  rw [held, List.mem_append] at h ⊢
  cases x with
  | parameterNode c =>
    rcases h with child | submodule
    · rcases OrderedMap.mem_of_mem_values_insert child with rfl | old
      · exact .inr rfl
      · exact .inl (.inl old)
    · exact .inl (.inr submodule)
  | submodule c =>
    rcases h with child | submodule
    · exact .inl (.inl child)
    · rcases OrderedMap.mem_of_mem_values_insert submodule with rfl | old
      · exact .inr rfl
      · exact .inl (.inr old)
  | _ => exact .inl h

namespace Registry

variable {r after : Registry}

/-- Nodes keep their names and parents, and nothing comes to life. -/
structure Fades (r after : Registry) : Prop where
  size : after.nodes.size = r.nodes.size
  name : ∀ m, (after.node m).name = (r.node m).name
  parent : ∀ m, (after.node m).parent = (r.node m).parent
  alive : ∀ m, after.isAlive m = true → r.isAlive m = true

namespace Fades

variable (h : r.Fades after) {m : NodeId}

include h

private theorem hasParent {p : NodeId} (link : after.HasParent m p) : r.HasParent m p :=
  Option.filter_eq_some_iff.mpr ⟨(h.parent m).symm.trans link.parent, h.alive p link.isAlive⟩

private theorem parent?_of_isAlive {p : NodeId} (link : r.HasParent m p)
    (alive : after.isAlive p = true) :
    after.HasParent m p :=
  Option.filter_eq_some_iff.mpr ⟨(h.parent m).trans link.parent, alive⟩

private theorem pathWithin_suffix {fuel : Nat} {path : List String}
    (known : r.pathWithin fuel m = some path) :
    ∃ rest, after.pathWithin fuel m = some rest ∧ rest <:+ path := by
  induction fuel generalizing m path with
  | zero => cases known
  | succ fuel ih =>
    rw [pathWithin] at known
    rw [pathWithin, h.name]
    cases before : r.parent? m with
    | none =>
      rw [before] at known
      cases now : after.parent? m with
      | none => exact ⟨path, known, List.suffix_refl path⟩
      | some p =>
        rw [h.hasParent now] at before
        cases before
    | some p =>
      rw [before] at known
      obtain ⟨above, habove, last⟩ := Option.bind_eq_some_iff.mp known
      cases last
      cases now : after.parent? m with
      | none => exact ⟨_, rfl, List.suffix_append above _⟩
      | some q =>
        obtain rfl : p = q := Option.some.inj (before.symm.trans (h.hasParent now))
        obtain ⟨rest, hrest, start, rfl⟩ := ih habove
        refine ⟨rest ++ (r.node m).name.toList, ?_, start, (List.append_assoc _ _ _).symm⟩
        dsimp only
        rw [hrest]
        rfl

/-- As long as all ancestors live, the path is the same. -/
theorem pathWithin_eq (fuel : Nat)
    (alive : ∀ p, Relation.TransGen r.HasParent m p → after.isAlive p = true) :
    after.pathWithin fuel m = r.pathWithin fuel m := by
  induction fuel generalizing m with
  | zero => rfl
  | succ fuel ih =>
    rw [pathWithin, pathWithin, h.name]
    cases before : r.parent? m with
    | none =>
      cases now : after.parent? m with
      | none => rfl
      | some p =>
        rw [h.hasParent now] at before
        cases before
    | some p =>
      have link : after.parent? m = some p := h.parent?_of_isAlive before (alive p (.single before))
      rw [link]
      dsimp only
      rw [ih fun q path => alive q (.head before path)]

private theorem path?_suffix {path : List String} (known : r.path? m = some path) :
    ∃ rest, after.path? m = some rest ∧ rest <:+ path := by
  rw [path?, h.size]
  exact h.pathWithin_suffix known

private theorem path?_eq (alive : ∀ p, Relation.TransGen r.HasParent m p → after.isAlive p = true) :
    after.path? m = r.path? m := by
  rw [path?, h.size, h.pathWithin_eq _ alive, path?]

end Fades

/-! ## What is left -/

/-- What a registration in `n` leaves of a member `x` that `first` has registered. -/
structure KeepsFirst (n first : NodeId) (x : Found) (r after : Registry) : Prop where
  params : after.params = r.params
  others : ∀ m, m ≠ n → after.node m = r.node m
  member : ∀ c, x.node? = some c → after.node c = r.node c
  holder : after.isAlive first = true → after.firstHolder? x = some first
  called : ∀ p, x = .parameter p → after.owner? p = r.owner? p ∧ after.paramName? p = r.paramName? p
  path : ∀ m, (∀ p, Relation.TransGen r.HasParent m p → after.isAlive p = true) →
    after.path? m = r.path? m
  shorter : ∀ m path, r.path? m = some path → ∃ rest, after.path? m = some rest ∧ rest <:+ path

variable {n first : NodeId} {name : String} {x : Found}

private theorem KeepsFirst.refl (holder : r.firstHolder? x = some first) :
    KeepsFirst n first x r r where
  params := rfl
  others _ _ := rfl
  member _ _ := rfl
  holder _ := holder
  called _ _ := ⟨rfl, rfl⟩
  path _ _ := rfl
  shorter _ path known := ⟨path, known, List.suffix_refl path⟩

section Enter

variable (lines : List (LogLevel × String))

theorem node_enter (m : NodeId) : (r.enter n name x lines).node m =
    if m = n ∧ n.index < r.nodes.size then (r.node m).put name x else r.node m :=
  node_change r n m _

private theorem node_enter_of_ne {m : NodeId} (other : m ≠ n) :
    (r.enter n name x lines).node m = r.node m :=
  (node_enter lines m).trans (if_neg fun both => other both.1)

private theorem roots_enter : (r.enter n name x lines).roots = r.roots :=
  roots_of_eq rfl rfl fun _ => rfl

private theorem Holds.of_enter {a m : NodeId} (h : (r.enter n name x lines).Holds a m) :
    r.Holds a m ∨ x.node? = some m := by
  rw [Holds, held, node_enter] at h
  split at h
  · exact Node.mem_held_put h
  · exact .inl h

private theorem fades_enter (live : ∀ c, x.node? = some c → r.isAlive c = true) :
    r.Fades (r.enter n name x lines) where
  size := Arena.size_change _ _ _
  name m := by
    rw [node_enter]
    split
    · cases x <;> rfl
    · rfl
  parent m := by
    rw [node_enter]
    split
    · cases x <;> rfl
    · rfl
  alive m hm := by
    obtain ⟨root, hroot, path⟩ := isAlive_iff.mp hm
    rw [roots_enter] at hroot
    induction path with
    | refl => exact isAlive_of_mem_roots hroot
    | tail path edge ih =>
      rcases edge.of_enter with old | new
      · have above := ih (isAlive_iff.mpr ⟨root, (roots_enter lines).symm ▸ hroot, path⟩)
        obtain ⟨root', hroot', path'⟩ := isAlive_iff.mp above
        exact isAlive_iff.mpr ⟨root', hroot', path'.tail old⟩
      · exact live _ new

private theorem sameNames_enter (p : ParamId) :
    r.SameNames (r.enter n name (.parameter p) lines) where
  size := Arena.size_change _ _ _
  roots := roots_enter lines
  held m := by
    rw [held, node_enter]
    split <;> rfl
  parent m := by
    rw [node_enter]
    split <;> rfl
  name m := by
    rw [node_enter]
    split <;> rfl

end Enter

theorem Elsewhere.keepsFirst {result : Except (Halt RegistryError) Unit}
    (h : r.Elsewhere n first name x (result, after)) (holder : r.firstHolder? x = some first)
    (live : ∀ c, x.node? = some c → r.isAlive c = true) : KeepsFirst n first x r after := by
  cases h with
  | refused cause => exact .refl holder
  | stuck round => exact .refl holder
  | entered free lines =>
    have fades : r.Fades (r.enter n name x lines) := fades_enter lines live
    refine ⟨rfl, fun m other => node_enter_of_ne lines other, ?member, ?holder, ?called,
      fun m => fades.path?_eq, fun m path => fades.path?_suffix⟩
    case member =>
      intro c hc
      refine node_enter_of_ne lines fun same => free c hc ?_
      rw [same]
    case holder =>
      intro alive
      cases x with
      | parameter p => exact holder
      | parameterNode c => exact fades.parent?_of_isAlive holder alive
      | submodule c => exact fades.parent?_of_isAlive holder alive
      | function _ => cases holder
      | field _ => cases holder
    case called =>
      rintro p rfl
      have same : r.SameNames (r.enter n name (.parameter p) lines) := sameNames_enter lines p
      refine ⟨?_, same.paramName? rfl rfl⟩
      exact congrArg (Option.filter · (r.param p).owner) (funext same.isAlive)

end Registry
end LabRegistry

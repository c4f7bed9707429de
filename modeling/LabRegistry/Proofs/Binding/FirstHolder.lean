import LabRegistry.Proofs.Binding.Elsewhere
import LabRegistry.Proofs.Naming.Registered

/-!
# First holders

A parameter keeps its first owner for good, also when the owner dies. A node keeps its live parent
until the parent dies or takes it out. In between others may register the same member, which does
not touch it.
-/
namespace LabRegistry

open Registry

/-! ## Owners -/

/-- No parameter gets another owner. -/
def Registry.OwnersStay (r after : Registry) : Prop :=
  ∀ p n, (r.param p).owner = some n → (after.param p).owner = some n

instance : IsPreorder Registry OwnersStay where
  refl _ _ _ := id
  trans _ _ _ h h' p n owner := h' p n (h p n owner)

private theorem ParamId.joinNode_ownersStay (p : ParamId) (n : NodeId) (name : String) :
    (p.joinNode n name : Act RegistryError Unit).Keeps OwnersStay := by
  intro r
  rcases @joinNode_cases RegistryError p n name r with ⟨-, noted⟩ | ⟨own, noted, -⟩
  · rcases noted with ⟨lines, run⟩ | ⟨-, run⟩
    all_goals
      rw [run]
      exact fun _ _ => id
  · have stays : OwnersStay r (r.joined n name p) := by
      intro q m hm
      rw [joined, param_change]
      split
      case isTrue here =>
        rw [here.1] at hm
        rw [hm] at own
        exact congrArg some own.symm
      case isFalse => exact hm
    rcases noted with ⟨lines, run⟩ | ⟨-, run⟩
    all_goals
      rw [run]
      exact stays

/-- Commands that enter no parameter leave names and owners alone, so only those that do are to be
looked at. -/
theorem Command.act_ownersStay {r : Registry} (h : r.InRange) (command : Command)
    (alive : ∀ n ∈ command.nodes, r.isAlive n = true) : OwnersStay r (command.act r).2 := by
  have enters (n : NodeId) (name : String) (p : ParamId) :
      (n.addParameterAs name p).Keeps OwnersStay :=
    .bind (.read (n.requireFree_read name .parameter)) fun _ =>
      .bind (p.joinNode_ownersStay n name) fun _ => .change fun _ _ _ => id
  cases entered : command.entered? r with
  | none =>
    have made : ∀ n name p, command.entered? r = some (n, name, p) → p.index < r.params.size := by
      intro n name p new
      exact absurd (entered.symm.trans new) (Option.some_ne_none _).symm
    exact (Command.act_naming h command alive made).owned
  | some entry =>
    cases command with
    | bind n name attr =>
      cases attr with
      | parameter p => exact enters n name p r
      | _ => cases entered
    | addParameter n p =>
      rw [act, NodeId.addParameter, Act.bind_run, ParamId.state_run]
      exact enters n _ p r
    | _ => cases entered

private theorem Registry.step_ownersStay {r : Registry} (h : r.InRange) (command : Command) :
    OwnersStay r (r.step command) := by
  rw [step]
  split
  case isTrue alive => exact Command.act_ownersStay h command (List.all_eq_true.mp alive)
  case isFalse => exact refl r

/-! ## Parents -/

/-- The command takes the child out of the node. -/
def Registry.TakesOut (r : Registry) (n child : NodeId) (command : Command) : Prop :=
  ∃ name, command = .removeChild n name ∧ (r.node n).children.get? name = some child

/-- Every node with a live parent still refers to it. -/
def Registry.ParentsStay (r after : Registry) : Prop :=
  ∀ c p, r.HasParent c p → (after.node c).parent = some p

private theorem Registry.ParentsStay.of_same {r after : Registry}
    (h : ∀ c, (after.node c).parent = (r.node c).parent) : ParentsStay r after :=
  fun c _ link => (h c).trans link.parent

private theorem takeName_tree (child n : NodeId) (name : String) (first : Bool) :
    (child.takeName n name first : Act RegistryError Unit).Keeps SameTree := by
  refine .bind (.read fun _ => rfl) fun node => ?_
  split
  · exact (Act.Keeps.logged (.bind (.orEndless _) fun _ => .pure _)).tree
  · refine .bind (.change fun _ => sameTree_change (fun _ => rfl) fun _ => rfl) fun _ => ?_
    split
    · exact (Act.Keeps.logged (.bind (.bind (.orEndless _) fun _ => .pure _) fun _ => .pure _)).tree
    · exact .pure _

private theorem NodeId.joinParent_parentsStay (child n : NodeId) (name : String) (r : Registry) :
    ParentsStay r ((child.joinParent n name : Act RegistryError Unit) r).2 := by
  rw [joinParent, Act.bind_run, parent?_run]
  dsimp only
  cases free : r.parent? child with
  | some p => exact .of_same (takeName_tree child n name false r).parent
  | none =>
    dsimp only [Option.isNone_none]
    rw [if_pos rfl, Act.bind_run, change_run]
    dsimp only
    intro c p link
    refine ((takeName_tree child n name true _).parent c).trans ?_
    rw [node_change, if_neg fun both => ?_]
    · exact link.parent
    · rw [both.1, HasParent, free] at link
      cases link

private theorem NodeId.attach_parentsStay {put : Node → Node}
    (h : ∀ node, (put node).parent = node.parent)
    (n : NodeId) (kind : MemberKind) (name : String) (child : NodeId) (r : Registry) :
    ParentsStay r ((n.attach kind name child put) r).2 := by
  by_cases admits : (r.node n).Admits kind name
  · by_cases enclosed : r.Encloses child n
    · rw [attach_cyclic admits enclosed]
      exact .of_same fun _ => rfl
    · rw [attach, Act.bind_run, requireFree_of_admits admits]
      dsimp only
      rw [Act.bind_run, requireNoCycle_of_not_encloses enclosed]
      dsimp only
      have joined := child.joinParent_parentsStay n name r
      rw [Act.bind_run]
      rcases run : (child.joinParent n name : Act RegistryError Unit) r with ⟨halt | _, mid⟩
      · rw [run] at joined
        exact joined
      · rw [run] at joined
        intro c p link
        have entered : (node { mid with nodes := mid.nodes.change n.index put } c).parent =
            (mid.node c).parent := by
          rw [node_change]
          split
          · exact h _
          · rfl
        exact entered.trans (joined c p link)
  · obtain ⟨existing, -, refused⟩ := attach_taken child put admits
    rw [refused]
    exact .of_same fun _ => rfl

private theorem NodeId.removeChild_parentsStay {r : Registry} {n : NodeId} {name : String}
    {c p : NodeId}
    (link : r.HasParent c p) (stays : n = p → (r.node n).children.get? name ≠ some c) :
    ((n.removeChild name r).2.node c).parent = some p := by
  rcases removeChild_outcome n name r with same | ⟨child, found, removed⟩
  · rw [same]
    exact link.parent
  · rw [removed.parent, if_neg]
    · exact link.parent
    · rintro ⟨rfl, own⟩
      exact stays (Option.some.inj (own.symm.trans link.parent)) found

private theorem Command.act_parent {r : Registry} {c p : NodeId} (link : r.HasParent c p)
    (command : Command)
    (stays : ¬ r.TakesOut p c command) : ((command.act r).2.node c).parent = some p := by
  have links {act : Act RegistryError Unit} (keeps : act.Keeps SameLinks) :
      ((act r).2.node c).parent = some p := ((keeps r).parent c).trans link.parent
  have effects {α : Type} {act : Act RegistryError α} (keeps : act.Keeps Effects) :
      act.Keeps SameLinks := keeps.sameNodes.tree.links
  have nodes {after : Registry} (same : after.nodes = r.nodes) : (after.node c).parent = some p := by
    rw [node, same]
    exact link.parent
  have setting {n : NodeId} {f : Node → Node}
      (members : ∀ node, (f node).membersOnly = node.membersOnly)
      (parent : ∀ node, (f node).parent = node.parent) :
      (n.change f : Act RegistryError Unit).Keeps SameLinks :=
    .change fun _ => (sameTree_change members parent).links
  have child (n child : NodeId) (name : String) : ParentsStay r ((n.addChild name child) r).2 := by
    refine NodeId.attach_parentsStay ?_ n .parameterNode name child r
    exact fun _ => rfl
  have submodule (n child : NodeId) (name : String) :
      ParentsStay r ((n.addSubmodule name child) r).2 := by
    refine NodeId.attach_parentsStay ?_ n .submodule name child r
    exact fun _ => rfl
  cases command with
  | createNode handle name config =>
    have fresh := node_push r { name, config } c
    rw [if_neg link.lt_size.ne] at fresh
    exact (congrArg (·.parent) fresh).trans link.parent
  | createParameter handle plan => exact nodes (createParameter_releases handle plan r).nodes
  | keep handle n => exact link.parent
  | drop handle => exact nodes (drop_releases handle r).nodes
  | bind n name attr =>
    cases attr with
    | value v => exact links (assign_links n name v)
    | parameter q => exact links (addParameterAs_links n name q)
    | node m => exact child n m name c p link
    | field v => exact links (assign_links n name v)
  | addParameter n q =>
    rw [act, NodeId.addParameter, Act.bind_run, ParamId.state_run]
    exact links (addParameterAs_links n _ q)
  | addChild n name m => exact child n m name c p link
  | addSubmodule n name m => exact submodule n m name c p link
  | addFunction n name function => exact links (addFunction_links n name function)
  | removeChild n name =>
    rw [act, Act.discard_run]
    refine NodeId.removeChild_parentsStay link ?_
    rintro rfl found
    exact stays ⟨name, rfl, found⟩
  | rename n name => exact links (setting (fun _ => rfl) fun _ => rfl)
  | setForwards n on => exact links (setting (fun _ => rfl) fun _ => rfl)
  | setShortSnapshots n on => exact links (setting (fun _ => rfl) fun _ => rfl)
  | registerGetter n name getter => exact links (register_tree n name _ _ _ _).links
  | registerSetter n name setter => exact links (register_tree n name _ _ _ _).links
  | request asked => exact links (.bind (effects (Effects.perform asked)) fun _ => .pure _)
  | connect q target link => exact links (connect_sameNodes q target link).tree.links
  | listen q callback => exact links (.bind (effects (Effects.listen q _)) fun _ => .pure _)
  | disconnect q id => exact links (.bind (effects (Effects.disconnect q id)) fun _ => .pure _)
  | disconnectAll q => exact links (effects (Effects.disconnectAll q))

namespace Registry

private theorem step_parent_iff {r : Registry} {c p : NodeId} (link : r.HasParent c p)
    (command : Command) :
    (r.step command).HasParent c p ↔
      (r.step command).isAlive p = true ∧ ¬ r.TakesOut p c command := by
  constructor
  · intro kept
    refine ⟨kept.isAlive, ?_⟩
    rintro ⟨name, rfl, found⟩
    have removed := NodeId.removeChild_removed found
    have parent := kept.parent
    have given : (Command.removeChild p name).nodes.all r.isAlive = true := by
      rw [Command.nodes, List.all_cons, link.isAlive]
      rfl
    rw [step, if_pos given, Command.act, Act.discard_run, removed.parent,
      if_pos ⟨rfl, link.parent⟩] at parent
    cases parent
  · rintro ⟨alive, stays⟩
    refine Option.filter_eq_some_iff.mpr ⟨?_, alive⟩
    rw [step]
    split
    · exact command.act_parent link stays
    · exact link.parent

/-! ## Runs -/

private theorem member?_eq_some {r : Registry} {command : Command} {entry : NodeId × String × Found}
    (h : r.member? command = some entry) :
    r.step command = (command.act r).2 ∧ command.member? r = some entry ∧
      ∀ n ∈ command.nodes, r.isAlive n = true := by
  rw [member?] at h
  split at h
  case isTrue alive => exact ⟨if_pos alive, h, List.all_eq_true.mp alive⟩
  case isFalse => cases h

private theorem mem_nodes_of_member {r : Registry} {command : Command} {n : NodeId} {name : String}
    {x : Found} (h : command.member? r = some (n, name, x)) :
    n ∈ command.nodes ∧ ∀ c, x.node? = some c → c ∈ command.nodes := by
  cases command with
  | bind m key attr =>
    cases attr with
    | parameter p =>
      cases h
      exact ⟨List.mem_cons_self, fun _ none => by cases none⟩
    | node child =>
      cases h
      simp [Command.nodes, Found.node?]
    | value v => cases h
    | field v => cases h
  | addParameter m p =>
    cases h
    exact ⟨List.mem_cons_self, fun _ none => by cases none⟩
  | addChild m key child =>
    cases h
    simp [Command.nodes, Found.node?]
  | addSubmodule m key child =>
    cases h
    simp [Command.nodes, Found.node?]
  | _ => cases h

private theorem Elsewhere.node_eq_put {r after : Registry} {n first : NodeId} {name : String}
    {x : Found}
    (h : r.Elsewhere n first name x (.ok (), after)) (inside : n.index < r.nodes.size) :
    after.node n = (r.node n).put name x := by
  cases h with
  | entered free lines => exact (node_enter lines n).trans (if_pos ⟨rfl, inside⟩)

/-- In every run, whatever has a first holder can be registered elsewhere without a trace on it and
on the first holder. It keeps what it is called as well, except that a node loses the names of
ancestors that the new entry lets die. A parameter keeps its owner for good. A node loses its live
parent by no step but one after which the parent is dead and one by which the parent takes it out. -/
theorem first_holder_of_run (log : Log) (now : Instant) (commands : List Command) :
    let state := (start log now).runTo commands
    (∀ k command n name x first, commands[k]? = some command →
      (state k).member? command = some (n, name, x) → (state k).firstHolder? x = some first →
      n ≠ first →
        (state k).Elsewhere n first name x ((command.act (state k)).1, state (k + 1)) ∧
        KeepsFirst n first x (state k) (state (k + 1)) ∧
        ((command.act (state k)).1 = .ok () →
          (state (k + 1)).node n = ((state k).node n).put name x)) ∧
    (∀ p owner k l, k ≤ l → ((state k).param p).owner = some owner →
      ((state l).param p).owner = some owner) ∧
    (∀ c parent k command, commands[k]? = some command → (state k).HasParent c parent →
      ((state (k + 1)).HasParent c parent ↔ (state (k + 1)).isAlive parent = true ∧
        ¬ (state k).TakesOut parent c command)) ∧
    ∀ c parent k l, k ≤ l → (state k).HasParent c parent →
      (∀ j, k ≤ j → j < l → (state (j + 1)).isAlive parent = true ∧
        ∀ command, commands[j]? = some command → ¬ (state j).TakesOut parent c command) →
      (state l).HasParent c parent := by
  intro state
  have inRange (k : Nat) : (state k).InRange := inRange_run log now _
  refine ⟨?elsewhere, ?owner, ?parent, ?parents⟩
  case elsewhere =>
    intro k command n name x first hk registers holder other
    obtain ⟨taken, registers, alive⟩ := member?_eq_some registers
    obtain ⟨hn, hx⟩ := mem_nodes_of_member registers
    have outcome := Command.elsewhere registers holder other
    have after : state (k + 1) = (command.act (state k)).2 := (runTo_succ hk).trans taken
    rw [after]
    refine ⟨outcome, outcome.keepsFirst holder fun c hc => alive c (hx c hc), fun done => ?_⟩
    have entered : (state k).Elsewhere n first name x (.ok (), (command.act (state k)).2) := by
      rw [← done]
      exact outcome
    exact entered.node_eq_put ((inRange k).isAlive (alive n hn))
  case owner =>
    intro p owner k l later owned
    refine runTo_onwards (P := fun r => (r.param p).owner = some owner) later owned ?_
    intro j command _ _ _ owned
    exact step_ownersStay (inRange j) command p owner owned
  case parent =>
    intro c parent k command hk link
    have after : state (k + 1) = (state k).step command := runTo_succ hk
    rw [after]
    exact step_parent_iff link command
  case parents =>
    intro c parent k l later link stays
    refine runTo_onwards (P := fun r => r.HasParent c parent) later link ?_
    intro j command hj hl hcommand link
    obtain ⟨alive, kept⟩ := stays j hj hl
    have after : state (j + 1) = (state j).step command := runTo_succ hcommand
    rw [after] at alive
    exact (step_parent_iff link command).mpr ⟨alive, kept command hcommand⟩

/-- Node 0 holds node 1 under the name by which it registers node 3 below, and nothing else holds
node 1. So node 1 dies, which was the parent of node 2, the parent of node 3. -/
theorem replaced_ancestor_shortens_name :
    let r := (start {} default).run [
      .createNode "b" (some "b") {}, .createNode "d" (some "d") {}, .createNode "a" (some "a") {},
      .createNode "c" (some "c") {}, .addChild ⟨0⟩ "x" ⟨1⟩, .addChild ⟨1⟩ "y" ⟨2⟩,
      .addChild ⟨2⟩ "z" ⟨3⟩, .drop "d"]
    let command : Command := .addChild ⟨0⟩ "x" ⟨3⟩
    let after := r.step command
    (command.act r).1 = .ok () ∧ r.parent? ⟨3⟩ = some ⟨2⟩ ∧ after.parent? ⟨3⟩ = some ⟨2⟩ ∧
      after.isAlive ⟨2⟩ = true ∧ r.parent? ⟨2⟩ = some ⟨1⟩ ∧ after.parent? ⟨2⟩ = none ∧
      r.path? ⟨3⟩ = some ["b", "x", "y", "z"] ∧ after.path? ⟨3⟩ = some ["y", "z"] := by
  decide +kernel

end Registry
end LabRegistry

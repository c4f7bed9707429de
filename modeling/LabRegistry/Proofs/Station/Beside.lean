import LabRegistry.Proofs.Station.Linked
import LabRegistry.Station

/-!
# What is built beside a sequence

An instrument is made of new nodes with new parameters to which nothing listens, and the station puts
the instrument and the sequence below its root. Whatever was there before stays: of a node at most the
name and the parent change, and of a parameter at most whether it logs its changes.
-/
namespace LabRegistry

open Registry

private theorem Act.Upholds.ofExcept {ε α : Type} {I : Registry → Prop} (result : Except ε α) :
    (Act.ofExcept result).Upholds I fun _ => True := by
  cases result with
  | ok x => exact pure trivial
  | error cause => exact fail cause

/-! ## The frame -/

/-- A set goes nowhere but to the cache and to a device. -/
def SetSource.IsRemote : SetSource → Prop
  | .cache | .nowhere | .command (.writeRegister _ _) => True
  | _ => False

/-- Nothing listens to the parameter, and a set of it reaches at most a device. -/
structure Parameter.Remote (param : Parameter) : Prop where
  unheard : param.listeners = []
  target : param.setSource.IsRemote
  parser : param.setParser = none ∨ param.setParser = some .millivoltsOfVolts

namespace Registry

/-- What was there before is as it was, but for the members of the root, names, parents, and whether
parameters log their changes; old nodes hang where they hung or below the root. New nodes have new
parameters and submodules, and nothing listens to new parameters. -/
structure Beside (base : Registry) (root : NodeId) (r : Registry) : Prop where
  nodes : base.nodes.size ≤ r.nodes.size
  node : ∀ n : NodeId, n.index < base.nodes.size → n ≠ root →
    (r.node n).unplaced = (base.node n).unplaced
  parent : ∀ n : NodeId, n.index < base.nodes.size →
    (r.node n).parent = (base.node n).parent ∨ n ≠ root ∧ (r.node n).parent = some root
  params : base.params.size ≤ r.params.size
  param : ∀ p : ParamId, p.index < base.params.size → (r.param p).muted = (base.param p).muted
  sequences : r.sequences = base.sequences
  parameters : ∀ n : NodeId, base.nodes.size ≤ n.index →
    ∀ p ∈ (r.node n).parameters.values, base.params.size ≤ p.index
  submodules : ∀ n : NodeId, base.nodes.size ≤ n.index →
    ∀ m ∈ (r.node n).submodules.values, base.nodes.size ≤ m.index
  remote : ∀ p : ParamId, base.params.size ≤ p.index → (r.param p).Remote

variable {base r after : Registry} {root n child : NodeId} {p : ParamId}

namespace Beside

theorem refl (base : Registry) (root : NodeId) : base.Beside root base where
  nodes := le_rfl
  node _ _ _ := rfl
  parent _ _ := .inl rfl
  params := le_rfl
  param _ _ := rfl
  sequences := rfl
  parameters n outside := by
    rw [node_of_size_le outside]
    exact nofun
  submodules n outside := by
    rw [node_of_size_le outside]
    exact nofun
  remote p outside := by
    have default : base.param p = default := by
      have out : ¬ p.index < base.params.cells.size := not_lt.mpr outside
      simp [Registry.param, Arena.get, Array.getD, out]
    rw [default]
    exact ⟨rfl, trivial, .inl rfl⟩

variable (h : base.Beside root r)

include h

theorem elsewhere (nodes : after.nodes = r.nodes) (params : after.params = r.params)
    (sequences : after.sequences = r.sequences) : base.Beside root after := by
  have node (n : NodeId) : after.node n = r.node n := congrArg (·.get n.index) nodes
  have param (p : ParamId) : after.param p = r.param p := congrArg (·.get p.index) params
  exact {
    nodes := nodes ▸ h.nodes
    node := fun n hn other => by rw [node, h.node n hn other]
    parent := fun n hn => by
      rw [node]
      exact h.parent n hn
    params := params ▸ h.params
    param := fun p hp => by rw [param, h.param p hp]
    sequences := sequences.trans h.sequences
    parameters := fun n hn => by
      rw [node]
      exact h.parameters n hn
    submodules := fun n hn => by
      rw [node]
      exact h.submodules n hn
    remote := fun p hp => by
      rw [param]
      exact h.remote p hp }

private theorem changeNode {f : Node → Node}
    (old : n.index < base.nodes.size → n ≠ root → ∀ node, (f node).unplaced = node.unplaced)
    (parent : n.index < base.nodes.size →
      ∀ node, (f node).parent = node.parent ∨ n ≠ root ∧ (f node).parent = some root)
    (parameters : base.nodes.size ≤ n.index → ∀ node, ∀ p ∈ (f node).parameters.values,
      p ∈ node.parameters.values ∨ base.params.size ≤ p.index)
    (submodules : base.nodes.size ≤ n.index → ∀ node, ∀ m ∈ (f node).submodules.values,
      m ∈ node.submodules.values ∨ base.nodes.size ≤ m.index) :
    base.Beside root { r with nodes := r.nodes.change n.index f } := by
  have changed (m : NodeId) := node_change r n m f
  exact {
    nodes := h.nodes.trans (Arena.size_change _ _ _).ge
    node := fun m hm other => by
      rw [changed]
      split
      case isTrue both =>
        obtain ⟨rfl, -⟩ := both
        rw [old hm other, h.node m hm other]
      case isFalse => exact h.node m hm other
    parent := fun m hm => by
      rw [changed]
      split
      case isTrue both =>
        obtain ⟨rfl, -⟩ := both
        rcases parent hm (r.node m) with same | below
        · rw [same]
          exact h.parent m hm
        · exact .inr below
      case isFalse => exact h.parent m hm
    params := h.params
    param := h.param
    sequences := h.sequences
    parameters := fun m hm p mem => by
      rw [changed] at mem
      split at mem
      case isTrue both =>
        obtain ⟨rfl, -⟩ := both
        exact (parameters hm _ p mem).elim (h.parameters m hm p) id
      case isFalse => exact h.parameters m hm p mem
    submodules := fun m hm k mem => by
      rw [changed] at mem
      split at mem
      case isTrue both =>
        obtain ⟨rfl, -⟩ := both
        exact (submodules hm _ k mem).elim (h.submodules m hm k) id
      case isFalse => exact h.submodules m hm k mem
    remote := h.remote }

private theorem changeParam {f : Parameter → Parameter}
    (old : p.index < base.params.size → ∀ param, (f param).muted = param.muted)
    (remote : base.params.size ≤ p.index → ∀ param, param.Remote → (f param).Remote) :
    base.Beside root { r with params := r.params.change p.index f } := by
  have changed (q : ParamId) := param_change r p q f
  exact {
    nodes := h.nodes
    node := h.node
    parent := h.parent
    params := h.params.trans (Arena.size_change _ _ _).ge
    param := fun q hq => by
      rw [changed]
      split
      case isTrue both =>
        obtain ⟨rfl, -⟩ := both
        rw [old hq, h.param q hq]
      case isFalse => exact h.param q hq
    sequences := h.sequences
    parameters := h.parameters
    submodules := h.submodules
    remote := fun q hq => by
      rw [changed]
      split
      case isTrue both =>
        obtain ⟨rfl, -⟩ := both
        exact remote hq _ (h.remote q hq)
      case isFalse => exact h.remote q hq }

private theorem pushNode (name : Option String) (config : NodeConfig) :
    base.Beside root { r with nodes := r.nodes.push { name, config } } := by
  have pushed (m : NodeId) := node_push r { name, config } m
  have old {m : NodeId} (hm : m.index < base.nodes.size) : m.index ≠ r.nodes.size :=
    (hm.trans_le h.nodes).ne
  exact {
    nodes := h.nodes.trans (Arena.size_push _ _ ▸ Nat.le_succ _)
    node := fun m hm other => by rw [pushed, if_neg (old hm), h.node m hm other]
    parent := fun m hm => by
      rw [pushed, if_neg (old hm)]
      exact h.parent m hm
    params := h.params
    param := h.param
    sequences := h.sequences
    parameters := fun m hm p mem => by
      rw [pushed] at mem
      split at mem
      case isTrue => cases mem
      case isFalse => exact h.parameters m hm p mem
    submodules := fun m hm k mem => by
      rw [pushed] at mem
      split at mem
      case isTrue => cases mem
      case isFalse => exact h.submodules m hm k mem
    remote := h.remote }

private theorem pushParam {param : Parameter} (remote : param.Remote) (now : Instant) :
    base.Beside root { r with params := r.params.push param, now } := by
  have pushed (q : ParamId) : Registry.param { r with params := r.params.push param, now } q =
      if q.index = r.params.size then param else r.param q := Arena.get_push _ _ _
  exact {
    nodes := h.nodes
    node := h.node
    parent := h.parent
    params := h.params.trans (Arena.size_push _ _ ▸ Nat.le_succ _)
    param := fun q hq => by rw [pushed, if_neg (hq.trans_le h.params).ne, h.param q hq]
    sequences := h.sequences
    parameters := h.parameters
    submodules := h.submodules
    remote := fun q hq => by
      rw [pushed]
      split
      case isTrue => exact remote
      case isFalse => exact h.remote q hq }

end Beside

/-- The node may take new members: it is new, or it is the root. -/
def Open (base : Registry) (root n : NodeId) : Prop := base.nodes.size ≤ n.index ∨ n = root

end Registry

/-! ## Operations -/

section Operations

variable {ε α : Type} {base : Registry} {root n child : NodeId} {p : ParamId} {act : Act ε α}
  {post : α → Prop}

private theorem Act.Upholds.holding (h : act.Upholds (base.Beside root) post) :
    (Act.holding n act).Upholds (base.Beside root) post := by
  intro r x after beside run
  obtain ⟨last, inner, rfl⟩ := holding_eq_ok.mp run
  obtain ⟨beside', holds⟩ := h { r with inUse := n :: r.inUse } x last
    (beside.elsewhere rfl rfl rfl) inner
  exact ⟨beside'.elsewhere rfl rfl rfl, holds⟩

private theorem Act.readClock_beside :
    (Act.readClock : Act ε Instant).Upholds (base.Beside root) fun _ => True :=
  .followed (.skim .registry) fun _ =>
    .followed (.change fun _ beside => beside.elsewhere rfl rfl rfl) fun _ => .pure trivial

private theorem Act.Upholds.logged {level : LogLevel} {text : Act ε String} (h : text.Keeps Eq) :
    (Act.writeLog level text).Upholds (base.Beside root) fun _ => True :=
  .writeLog h fun _ _ beside => beside.elsewhere rfl rfl rfl

private theorem nodeText_reads (n : NodeId) (before after : String) :
    (do return before ++ (← n.displayName) ++ after : Act ε String).Keeps Eq :=
  .bind (.orEndless _) fun _ => .pure _

private theorem paramText_reads (p : ParamId) (before after : String) :
    (do return before ++ (← p.fullName) ++ after : Act ε String).Keeps Eq :=
  .bind (.orEndless _) fun _ => .pure _

private theorem NodeId.create_beside (name : Option String) (config : NodeConfig) :
    (NodeId.create name config : Act ε NodeId).Upholds (base.Beside root) fun n =>
      base.nodes.size ≤ n.index := by
  intro r n after beside run
  cases run
  exact ⟨beside.pushNode name config, beside.nodes⟩

private theorem ParameterPlan.create_beside {plan : ParameterPlan}
    (remote : ∀ now, (plan.toParameter now).Remote) :
    plan.create.Upholds (base.Beside root) fun p => base.params.size ≤ p.index := by
  intro r p after beside run
  cases accepted : plan.validator.validate plan.initial with
  | error reason =>
    rw [create, accepted] at run
    cases run
  | ok _ =>
    obtain ⟨now, now', created⟩ := plan.create_run accepted r
    rw [created] at run
    cases run
    exact ⟨beside.pushParam (remote now) now', beside.params⟩

private theorem ParamId.joinNode_beside (new : base.params.size ≤ p.index) (n : NodeId)
    (name : String) :
    (p.joinNode n name : Act ε Unit).Upholds (base.Beside root) fun _ => True := by
  refine .followed (.skim (.read fun _ => rfl)) fun param => ?_
  dsimp only
  split
  · exact .logged (paramText_reads p _ _)
  · refine .followed (.skim (.read fun _ => rfl)) fun node =>
      .followed (.change fun r beside => ?_) fun _ => ?_
    · exact beside.changeParam (fun old => absurd old (not_lt.mpr new)) fun _ _ remote =>
        ⟨remote.unheard, remote.target, remote.parser⟩
    · split
      · exact .logged (paramText_reads p _ _)
      · exact .pure trivial

namespace NodeId

private theorem addPlanned_beside (isOpen : base.Open root n) {plan : ParameterPlan}
    (remote : ∀ now, (plan.toParameter now).Remote) :
    (n.addPlanned plan).Upholds (base.Beside root) fun _ => True := by
  refine .bind (ParameterPlan.create_beside remote) fun p new => .followed ?_ fun _ => .pure trivial
  refine .followed (.skim (.read fun _ => rfl)) fun param =>
    .followed (.skim (.read (n.requireFree_read _ .parameter))) fun _ =>
    .followed (ParamId.joinNode_beside new n _) fun _ => .change fun r beside => ?_
  refine beside.changeNode (fun old other => ?_) (fun _ _ => .inl rfl) (fun _ node q mem => ?_)
    fun _ _ _ mem => .inl mem
  · rcases isOpen with outside | same
    · exact absurd old (not_lt.mpr outside)
    · exact absurd same other
  · rcases OrderedMap.mem_of_mem_values_insert mem with rfl | old
    · exact .inr new
    · exact .inl old

private theorem joinParent_beside (joins : base.nodes.size ≤ child.index ∨ n = root ∧ child ≠ root)
    (name : String) :
    (child.joinParent n name : Act ε Unit).Upholds (base.Beside root) fun _ => True := by
  have named (first : Bool) :
      (child.takeName n name first : Act ε Unit).Upholds (base.Beside root) fun _ => True := by
    refine .followed (.skim (.read fun _ => rfl)) fun node => ?_
    split
    · exact .logged (nodeText_reads child _ _)
    · refine .followed (.change fun r beside => beside.changeNode (fun _ _ _ => rfl)
        (fun _ _ => .inl rfl) (fun _ _ _ => .inl) fun _ _ _ => .inl) fun _ => ?_
      split
      · exact .logged (.bind (.bind (.orEndless _) fun _ => .pure _) fun _ => .pure _)
      · exact .pure trivial
  refine .followed (.skim (.read fun _ => rfl)) fun above => ?_
  dsimp only
  split
  · refine .followed (.change fun r beside => beside.changeNode (fun _ _ _ => rfl) (fun old _ => ?_)
      (fun _ _ _ => .inl) fun _ _ _ => .inl) fun _ => named _
    rcases joins with outside | ⟨rfl, other⟩
    · exact absurd old (not_lt.mpr outside)
    · exact .inr ⟨other, rfl⟩
  · exact named _

private theorem attach_beside (isOpen : base.Open root n)
    (joins : base.nodes.size ≤ child.index ∨ n = root ∧ child ≠ root) (kind : MemberKind)
    (name : String) {put : Node → Node}
    (parent : ∀ node, (put node).parent = node.parent)
    (parameters : ∀ node, (put node).parameters = node.parameters)
    (submodules : base.nodes.size ≤ n.index → ∀ node, ∀ m ∈ (put node).submodules.values,
      m ∈ node.submodules.values ∨ base.nodes.size ≤ m.index) :
    (n.attach kind name child put).Upholds (base.Beside root) fun _ => True := by
  refine .followed (.skim (.read (n.requireFree_read name kind))) fun _ =>
    .followed (.skim ?_) fun _ => .followed (joinParent_beside joins name) fun _ =>
    .change fun r beside => ?_
  · refine .bind (.read fun _ => rfl) fun enclosed => ?_
    split
    · exact .bind (.orEndless _) fun _ => .fail _
    · exact .pure _
  · refine beside.changeNode (fun old other => ?_) (fun _ node => .inl (parent node))
      (fun _ node q mem => .inl (parameters node ▸ mem)) submodules
    rcases isOpen with outside | same
    · exact absurd old (not_lt.mpr outside)
    · exact absurd same other

private theorem addChild_beside (isOpen : base.Open root n)
    (joins : base.nodes.size ≤ child.index ∨ n = root ∧ child ≠ root) (name : String) :
    (n.addChild name child).Upholds (base.Beside root) fun _ => True :=
  attach_beside isOpen joins _ name (fun _ => rfl) (fun _ => rfl) fun _ _ _ => .inl

private theorem addSubmodule_beside (isOpen : base.Open root n)
    (new : base.nodes.size ≤ child.index)
    (name : String) : (n.addSubmodule name child).Upholds (base.Beside root) fun _ => True :=
  attach_beside isOpen (.inl new) _ name (fun _ => rfl) (fun _ => rfl) fun _ node m mem => by
    rcases OrderedMap.mem_of_mem_values_insert mem with rfl | old
    · exact .inr new
    · exact .inl old

private theorem addFunction_beside (isOpen : base.Open root n) (name : String)
    (function : Callable) :
    (n.addFunction name function).Upholds (base.Beside root) fun _ => True := by
  refine .followed (.skim (.read (n.requireFree_read name .function))) fun _ =>
    .change fun r beside => ?_
  refine beside.changeNode (fun old other => ?_) (fun _ _ => .inl rfl) (fun _ _ _ => .inl)
    fun _ _ _ => .inl
  rcases isOpen with outside | same
  · exact absurd old (not_lt.mpr outside)
  · exact absurd same other

private theorem find_beside {β : Type} {map : Node → OrderedMap β} {post : β → Prop}
    (h : ∀ r, base.Beside root r → ∀ x ∈ (map (r.node n)).values, post x) (name : String) :
    (n.find map name).Upholds (base.Beside root) post := by
  have members : (n.state : Act RegistryError Node).Upholds (base.Beside root) fun node =>
      ∀ x ∈ (map node).values, post x := by
    refine .read (.read fun _ => rfl) fun r node beside result => ?_
    cases result
    exact h r beside
  refine .bind members fun node among => ?_
  cases found : (map node).get? name with
  | none => exact .followed (.skim (.orEndless _)) fun _ => .fail _
  | some x => exact .pure (among x (List.mem_map.mpr ⟨_, Entries.mem_of_get? found, rfl⟩))

private theorem logAll_beside (n : NodeId) : n.logAll.Upholds (base.Beside root) fun _ => True := by
  have within (depth : Nat) (n : NodeId) :
      (logAllWithin depth n).Upholds (base.Beside root) fun _ => True := by
    induction depth generalizing n with
    | zero => exact .throw _
    | succ depth ih =>
      refine .followed (.skim (.read fun _ => rfl)) fun node =>
        .followed (.forM (fun p => .change fun r beside => ?_) _) fun _ => .forM ih _
      exact beside.changeParam (fun _ _ => rfl) fun _ _ remote =>
        ⟨remote.unheard, remote.target, remote.parser⟩
  exact .followed (.skim .registry) fun r => within _ n

end NodeId

/-! ## Instruments -/

private theorem DeviceId.write_beside (d : DeviceId) (address : String) (v : Value) :
    (d.write address v).Upholds (base.Beside root) fun _ => True := by
  refine .followed (.skim (.read fun _ => rfl)) fun device => ?_
  split
  · exact .change fun r beside => beside.elsewhere rfl rfl rfl
  · exact .fail _

namespace ParamId

variable (new : base.params.size ≤ p.index)

include new

private theorem record_beside (raw v : Value) :
    (p.record raw v).Upholds (base.Beside root) fun _ => True := by
  refine .followed (.skim (.read fun _ => rfl)) fun param => ?_
  have written : (do
      let now ← Act.readClock
      p.change ({ · with raw, value := v, stamp := some now }) :
        Act RegistryError Unit).Upholds (base.Beside root) fun _ => True :=
    .followed Act.readClock_beside fun now =>
      .change fun r beside => beside.changeParam (fun old => absurd old (not_lt.mpr new))
        fun _ _ remote => ⟨remote.unheard, remote.target, remote.parser⟩
  dsimp only
  split
  · exact .followed (.logged (.bind (.orEndless _) fun _ => .pure _)) fun _ => written
  · exact written

private theorem state_beside :
    (p.state : Act RegistryError Parameter).Upholds (base.Beside root) Parameter.Remote := by
  refine .read (.read fun _ => rfl) fun r param beside result => ?_
  cases result
  exact beside.remote p new

private theorem rawOf_beside (fuel : Nat) (v : Value) :
    (p.rawOf (engine fuel) v).Upholds (base.Beside root) fun _ => True := by
  refine .bind (state_beside new) fun param remote => ?_
  cases param.validator.validate v with
  | error reason =>
    exact .followed (.skim (.orEndless _)) fun name => .bind (.fail _) fun _ => False.elim
  | ok _ =>
    rcases remote.parser with given | given
    all_goals rw [given]
    · exact .pure trivial
    · cases fuel with
      | zero => exact .throw _
      | succ fuel => exact .ofExcept _

private theorem set_beside (v : Value) : (p.set v).Upholds (base.Beside root) fun _ => True := by
  have written (fuel : Nat) :
      (p.write (engine fuel) v).Upholds (base.Beside root) fun _ => True := by
    refine .bind (state_beside new) fun param remote => ?_
    have target := remote.target
    have reached {device : DeviceId} {address : String} (raw : Value) :
        (engine fuel (.call (.writeRegister device address) (.withValue raw))).Upholds
          (base.Beside root) fun _ => True := by
      cases fuel with
      | zero => exact .throw _
      | succ fuel => exact .followed (device.write_beside address raw) fun _ => .pure trivial
    split
    case h_1 => exact .followed (.skim (.orEndless _)) fun _ => .fail _
    case h_2 => exact .followed (rawOf_beside new fuel v) fun raw => record_beside new raw v
    case h_3 command source =>
      rw [source] at target
      cases command with
      | writeRegister =>
        exact .followed (rawOf_beside new fuel v) fun raw =>
          .followed (reached raw) fun _ => record_beside new raw v
      | _ => exact target.elim
    case h_4 source =>
      rw [source] at target
      exact target.elim
  have told (fuel : Nat) : (p.announce (engine fuel)).Upholds (base.Beside root) fun _ => True := by
    refine .bind (state_beside new) fun param remote => ?_
    rw [remote.unheard]
    exact .pure trivial
  intro r x after beside run
  obtain ⟨fuel, -, set⟩ := p.set_run v r
  rw [set] at run
  exact Act.Upholds.followed (written fuel) (fun _ => told fuel) r x after beside run

end ParamId

namespace Instrument

private theorem createChannel_beside (device : DeviceId) (index : Nat) :
    (createChannel device index).Upholds (base.Beside root) fun n => base.nodes.size ≤ n.index := by
  refine .bind (NodeId.create_beside _ _) fun n new => .followed (.holding ?_) fun _ => .pure new
  refine .followed (.followed (device.write_beside _ _) fun _ => device.write_beside _ _) fun _ =>
    .followed (NodeId.addPlanned_beside (.inl new) ?_) fun _ =>
    .followed (NodeId.addPlanned_beside (.inl new) ?_) fun _ => .pure trivial
  · exact fun _ => ⟨rfl, trivial, .inr rfl⟩
  · exact fun _ => ⟨rfl, trivial, .inl rfl⟩

variable (new : base.nodes.size ≤ n.index)

include new

private theorem addSettings_beside : (addSettings n).Upholds (base.Beside root) fun _ => True := by
  refine .bind (NodeId.create_beside _ _) fun settings new' => .holding
    (.followed (NodeId.addChild_beside (.inl new) (.inl new') _) fun _ =>
      .followed (NodeId.addPlanned_beside (.inl new') ?_) fun _ =>
      .followed (NodeId.addPlanned_beside (.inl new') ?_) fun _ => .pure trivial)
  all_goals exact fun _ => ⟨rfl, trivial, .inl rfl⟩

private theorem equip_beside (channels : Nat) (device : DeviceId) :
    (equip n channels device).Upholds (base.Beside root) fun _ => True := by
  have channel (index : Nat) : (addChannel n device index).Upholds (base.Beside root) fun _ => True :=
    .bind (createChannel_beside device index) fun channel new' =>
      .holding (NodeId.addSubmodule_beside (.inl new) new' _)
  refine .followed (NodeId.addPlanned_beside (.inl new) ?_) fun _ => .followed (.forM channel _) fun _ =>
    .followed (NodeId.addFunction_beside (.inl new) _ _) fun _ => addSettings_beside new
  exact fun _ => ⟨rfl, trivial, .inl rfl⟩

end Instrument

namespace Station

theorem createInstrument_beside (device : DeviceId) :
    (createInstrument device).Upholds (base.Beside root) fun n => base.nodes.size ≤ n.index := by
  refine .bind ?_ fun n new => .followed (.holding ?_) fun _ => .pure new
  · exact .bind (NodeId.create_beside _ _) fun n new =>
      .followed (.holding (.mapError (Instrument.equip_beside new _ _))) fun _ =>
      .followed (.logged (.pure _)) fun _ => .pure new
  · exact .bind (.mapError (NodeId.find_beside (fun r beside => beside.submodules n new) _))
      fun channel new' => .mapError (.bind
        (NodeId.find_beside (fun r beside => beside.parameters channel new') _) fun p fresh =>
          ParamId.set_beside fresh _)

theorem assemble_beside (config : AppConfig) {station : Station}
    (new : base.nodes.size ≤ station.instrument.index)
    (other : (base.sequence station.sequence).node ≠ station.root) :
    (assemble config station).Upholds (base.Beside station.root) fun _ => True := by
  have owner : (station.sequence.node : Act RegistryError NodeId).Upholds
      (base.Beside station.root) fun n => n = (base.sequence station.sequence).node := by
    refine .read (.read fun _ => rfl) fun r n beside result => ?_
    cases result
    exact congrArg (fun sequences => (sequences.get station.sequence.index).node) beside.sequences
  refine .bind owner fun n same => .followed (NodeId.addChild_beside (.inr rfl) (.inr ⟨rfl, ?_⟩) _)
    fun _ => .followed (.holding (NodeId.addChild_beside (.inr rfl) (.inl new) _)) fun _ => ?_
  · rwa [same]
  · have announced : (Act.debug do
        return "built demo station '" ++ (← station.root.displayName) ++ "'" :
          Act RegistryError Unit).Upholds (base.Beside station.root) fun _ => True :=
      .logged (.bind (.orEndless _) fun _ => .pure _)
    dsimp only
    split
    · exact .followed (NodeId.logAll_beside _) fun _ => announced
    · exact announced

end Station
end Operations
end LabRegistry

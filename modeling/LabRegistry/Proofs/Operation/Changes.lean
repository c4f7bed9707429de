import LabRegistry.Proofs.Binding.Command
import LabRegistry.Proofs.Engine.Visit
import LabRegistry.Proofs.Fitting.Planned
import LabRegistry.Proofs.Validation.Accepted
import LabRegistry.Sequence.Selection
import LabRegistry.Station

/-!
# Operations change the registry in few ways

Whatever is bound, named, set, refreshed, shown or copied, an operation is made up of the changes that
`Change` lists, also if it fails. So what each of these keeps is kept by every operation, and there is
one traversal of the operations for all of it.
-/
namespace LabRegistry

open Registry

/-! ## Changes -/

/-- One change that an operation makes. -/
inductive Change (r : Registry) : Registry → Prop
  /-- A parameter is got, set or updated, or a callable is called. -/
  | request (asked : Request) : Change r (asked.perform r).2
  | effect {after : Registry} (effect : Effect r after) (values : r.SameValues after) : Change r after
  /-- Neither nodes nor parameters change, but handles, sequences, devices or the clock. -/
  | elsewhere {after : Registry} (nodes : after.nodes = r.nodes) (params : after.params = r.params) :
    Change r after
  | makeParameter {param : Parameter} (sound : param.Sound) (now : Instant) :
    Change r { r with params := r.params.push param, now }
  | changeParameter (p : ParamId) {f : Parameter → Parameter}
    (same : ∀ param : Parameter, param.SameChecks (f param)) :
    Change r { r with params := r.params.change p.index f }
  | makeNode (name : Option String) (config : NodeConfig) :
    Change r { r with nodes := r.nodes.push { name, config } }
  /-- A node changes in other ways than by holding something new. -/
  | changeNode (n : NodeId) {f : Node → Node} (held : ∀ node, ∀ m ∈ (f node).held, m ∈ node.held) :
    Change r { r with nodes := r.nodes.change n.index f }
  /-- A node is entered below one that it does not contain. -/
  | enter (n child : NodeId) {put : Node → Node} (free : ¬ r.Encloses child n)
    (held : ∀ node, ∀ m ∈ (put node).held, m = child ∨ m ∈ node.held) :
    Change r { r with nodes := r.nodes.change n.index put }

/-- Any number of changes, one after the other. -/
abbrev Changes : Registry → Registry → Prop := Relation.ReflTransGen Change

namespace Changes

def discipline : Discipline where
  Obeys act := act.Keeps Changes
  obeys_read := .read
  obeys_bind := .bind
  obeys_change h := .change fun r => .single (.effect (h r).1 (h r).2)

theorem perform (request : Request) : request.perform.Keeps Changes :=
  fun _ => .single (.request request)

private theorem get (p : ParamId) : p.get.Keeps Changes := perform _

private theorem set (p : ParamId) (v : Value) : (p.set v).Keeps Changes :=
  .bind (perform _) fun _ => .pure _

end Changes

/-! ## New parameters -/

namespace ParameterPlan

/-- A parameter that is got from its cache is not set by its owner. -/
def Direct (plan : ParameterPlan) : Prop := plan.getSource = .cache → plan.setSource ≠ some .owner

private theorem Direct.sound {plan : ParameterPlan} (h : plan.Direct)
    (accepted : plan.validator.validate plan.initial = .ok ()) (now : Instant) :
    (plan.toParameter now).Sound where
  direct cache := by
    have source : plan.getSource = .cache := cache
    change plan.setSource.getD (defaultSetSource plan.getSource) ≠ .owner
    rw [source]
    cases given : plan.setSource with
    | none => exact nofun
    | some setSource =>
      rintro rfl
      exact h source given
  accepted _ := accepted

end ParameterPlan

/-! ## Soundness -/

private theorem Validator.validate_null (validator : Validator) :
    validator.validate .null = .ok () := by
  cases validator <;> simp only [validate]

theorem Parameter.sound_default : (default : Parameter).Sound where
  direct _ := nofun
  accepted _ := Validator.validate_null _

private theorem Registry.StaysSound.of_push {r : Registry} {param : Parameter} (h : param.Sound)
    (now : Instant) :
    r.StaysSound { r with params := r.params.push param, now } := by
  intro sound p
  rw [Registry.param, Arena.get_push]
  split
  · exact h
  · exact sound p

private theorem Change.staysSound {r after : Registry} (h : Change r after) :
    r.StaysSound after := by
  cases h with
  | request asked => exact Act.Keeps.staysSound (Lasting.perform asked) r
  | effect effect values => exact effect.sameSetups.staysSound values
  | elsewhere nodes params => exact .of_params params
  | makeParameter sound now => exact .of_push sound now
  | changeParameter p same => exact .of_change fun sound => sound.of_same (same _)
  | makeNode name config => exact .of_params rfl
  | changeNode n held => exact .of_params rfl
  | enter n child free held => exact .of_params rfl

theorem Changes.staysSound {r after : Registry} (h : Changes r after) : r.StaysSound after := by
  induction h with
  | refl => exact id
  | tail _ change ih => exact change.staysSound ∘ ih

/-! ## Steps -/

section Steps

variable {ε α : Type}

namespace Act.Keeps

theorem changeElsewhere {f : Registry → Registry} (nodes : ∀ r, (f r).nodes = r.nodes)
    (params : ∀ r, (f r).params = r.params) : (Act.change f : Act ε Unit).Keeps Changes :=
  .change fun r => .single (.elsewhere (nodes r) (params r))

private theorem logChanges {level : LogLevel} {text : Act ε String} (h : text.Keeps Changes) :
    (Act.writeLog level text).Keeps Changes :=
  .writeLog h fun _ _ => .single (.elsewhere rfl rfl)

private theorem holdChanges {act : Act ε α} (n : NodeId) (h : act.Keeps Changes) :
    (Act.holding n act).Keeps Changes := by
  intro r
  have held : Changes r { r with inUse := n :: r.inUse } := .single (.elsewhere rfl rfl)
  exact (held.trans (h _)).tail (.elsewhere rfl rfl)

end Act.Keeps

theorem NodeId.change_changes (n : NodeId) {f : Node → Node}
    (held : ∀ node, ∀ m ∈ (f node).held, m ∈ node.held) :
    (n.change f : Act ε Unit).Keeps Changes :=
  .change fun _ => .single (.changeNode n held)

private theorem NodeId.displayName_changes (n : NodeId) :
    (n.displayName : Act ε String).Keeps Changes :=
  .orEndless _

private theorem ParamId.fullName_changes (p : ParamId) :
    (p.fullName : Act ε String).Keeps Changes :=
  .orEndless _

private theorem nodeText_changes (n : NodeId) (before after : String) :
    (do return before ++ (← n.displayName) ++ after : Act ε String).Keeps Changes :=
  .bind n.displayName_changes fun _ => .pure _

private theorem paramText_changes (p : ParamId) (before after : String) :
    (do return before ++ (← p.fullName) ++ after : Act ε String).Keeps Changes :=
  .bind p.fullName_changes fun _ => .pure _

/-! ## Making and binding -/

theorem ParameterPlan.create_changes {plan : ParameterPlan} (h : plan.Direct) :
    plan.create.Keeps Changes := by
  intro r
  cases accepted : plan.validator.validate plan.initial with
  | error reason =>
    rw [create, accepted]
    exact .refl
  | ok _ =>
    obtain ⟨now, now', run⟩ := plan.create_run accepted r
    rw [run]
    exact .single (.makeParameter (h.sound accepted now) now')

theorem ParamId.withValue_changes (name : String) (value : Value) :
    (ParamId.withValue name value : Act ε ParamId).Keeps Changes := by
  intro r
  have sound (now : Instant) : Parameter.Sound
      { ParameterPlan.toParameter { name, initial := value } now with stamp := some now } := {
    direct := fun _ => nofun
    accepted := fun _ => by cases value <;> rfl }
  obtain ⟨now, now', run⟩ : ∃ now now', (ParamId.withValue name value : Act ε ParamId) r =
      (.ok ⟨r.params.size⟩, { r with
        params := r.params.push
          { ParameterPlan.toParameter { name, initial := value } now with stamp := some now }
        now := now' }) :=
    ⟨_, _, rfl⟩
  rw [run]
  exact .single (.makeParameter (sound now) now')

theorem NodeId.create_changes (name : Option String) (config : NodeConfig) :
    (NodeId.create name config : Act ε NodeId).Keeps Changes := by
  intro r
  have run : (NodeId.create name config : Act ε NodeId) r =
      (.ok ⟨r.nodes.size⟩, { r with nodes := r.nodes.push { name, config } }) := rfl
  rw [run]
  exact .single (.makeNode name config)

private theorem ParamId.joinNode_changes (p : ParamId) (n : NodeId) (name : String) :
    (p.joinNode n name : Act ε Unit).Keeps Changes := by
  refine .bind (.read fun _ => rfl) fun param => ?_
  dsimp only
  split
  · exact .logChanges (paramText_changes p _ _)
  · refine .bind (.read fun _ => rfl) fun node => .bind ?_ fun _ => ?_
    · exact .change fun r => .single (.changeParameter p fun _ => ⟨rfl, rfl, rfl, rfl⟩)
    · split
      · exact .logChanges (paramText_changes p _ _)
      · exact .pure _

namespace NodeId

private theorem joinParent_changes (child parent : NodeId) (name : String) :
    (child.joinParent parent name : Act ε Unit).Keeps Changes := by
  have named (first : Bool) : (child.takeName parent name first : Act ε Unit).Keeps Changes := by
    refine .bind (.read fun _ => rfl) fun node => ?_
    split
    · exact .logChanges (nodeText_changes child _ _)
    · refine .bind (change_changes child fun _ _ => id) fun _ => ?_
      split
      · exact .logChanges (.bind (.bind (.orEndless _) fun _ => .pure _) fun _ => .pure _)
      · exact .pure _
  refine .bind (.read fun _ => rfl) fun above => ?_
  dsimp only
  split
  · exact .bind (change_changes child fun _ _ => id) fun _ => named _
  · exact named _

private theorem addParameterAs_changes (n : NodeId) (name : String) (p : ParamId) :
    (n.addParameterAs name p).Keeps Changes :=
  .bind (.read (n.requireFree_read name .parameter)) fun _ =>
    .bind (p.joinNode_changes n name) fun _ => change_changes n fun _ _ => id

theorem addParameter_changes (n : NodeId) (p : ParamId) : (n.addParameter p).Keeps Changes :=
  .bind (.read fun _ => rfl) fun _ => addParameterAs_changes n _ p

private theorem attach_changes (n : NodeId) (kind : MemberKind) (name : String) (child : NodeId)
    {put : Node → Node} (held : ∀ node, ∀ m ∈ (put node).held, m = child ∨ m ∈ node.held) :
    (n.attach kind name child put).Keeps Changes := by
  intro r
  by_cases admits : (r.node n).Admits kind name
  case neg =>
    obtain ⟨existing, -, refused⟩ := attach_taken child put admits
    rw [refused]
  by_cases enclosed : r.Encloses child n
  · rw [attach_cyclic admits enclosed]
  have changes := (child.joinParent_changes n name : Act.Keeps Changes (ε := RegistryError) _) r
  have joined := (joinParent_outcome child n name r).joined
  rw [attach, Act.bind_run, requireFree_of_admits admits]
  dsimp only
  rw [Act.bind_run, requireNoCycle_of_not_encloses enclosed]
  dsimp only
  rw [Act.bind_run]
  rcases run : (child.joinParent n name : Act RegistryError Unit) r with ⟨halt | _, mid⟩
  all_goals rw [run] at changes joined
  · exact changes
  · refine changes.tail (.enter n child (fun path => enclosed ?_) held)
    have same : mid.Holds = r.Holds := by
      funext a m
      rw [Holds, Holds, held_of_members (joined.members a)]
    rwa [Encloses, same] at path

theorem addChild_changes (n : NodeId) (name : String) (child : NodeId) :
    (n.addChild name child).Keeps Changes := by
  refine attach_changes n _ name child fun node m mem => ?_
  rcases List.mem_append.mp mem with mem | mem
  · exact (OrderedMap.mem_of_mem_values_insert mem).imp id (List.mem_append_left _)
  · exact .inr (List.mem_append_right _ mem)

theorem addSubmodule_changes (n : NodeId) (name : String) (child : NodeId) :
    (n.addSubmodule name child).Keeps Changes := by
  refine attach_changes n _ name child fun node m mem => ?_
  rcases List.mem_append.mp mem with mem | mem
  · exact .inr (List.mem_append_left _ mem)
  · exact (OrderedMap.mem_of_mem_values_insert mem).imp id (List.mem_append_right _)

theorem addFunction_changes (n : NodeId) (name : String) (function : Callable) :
    (n.addFunction name function).Keeps Changes :=
  .bind (.read (n.requireFree_read name .function)) fun _ => change_changes n fun _ _ => id

private theorem failMissing_changes {β : Type} (n : NodeId) (name : String) :
    (n.failMissing name : Act RegistryError β).Keeps Changes :=
  .bind (.orEndless _) fun _ => .fail _

private theorem find_changes {β : Type} (n : NodeId) (map : Node → OrderedMap β) (name : String) :
    (n.find map name).Keeps Changes :=
  .read (n.find_read map name)

theorem removeChild_changes (n : NodeId) (name : String) :
    (n.removeChild name).Keeps Changes := by
  refine .bind (.read fun _ => rfl) fun node => ?_
  cases node.children.get? name with
  | none => exact failMissing_changes n name
  | some child =>
    refine .bind (change_changes n fun node m mem => ?_) fun _ => .bind ?_ fun _ =>
      .bind (.logChanges (nodeText_changes n _ _)) fun _ => .pure _
    · rcases List.mem_append.mp mem with mem | mem
      · exact List.mem_append_left _ (OrderedMap.mem_of_mem_values_erase mem)
      · exact List.mem_append_right _ mem
    · refine .bind (.read fun _ => rfl) fun node => ?_
      split
      · exact change_changes child fun _ _ => id
      · exact .pure _

theorem registerGetter_changes (n : NodeId) (name : String) (getter : Callable) :
    (n.registerGetter name getter : Act ε Unit).Keeps Changes :=
  .bind (change_changes n fun _ _ => id) fun _ => .logChanges (nodeText_changes n _ _)

theorem registerSetter_changes (n : NodeId) (name : String) (setter : Callable) :
    (n.registerSetter name setter : Act ε Unit).Keeps Changes :=
  .bind (change_changes n fun _ _ => id) fun _ => .logChanges (nodeText_changes n _ _)

private theorem addPlanned_changes (n : NodeId) {plan : ParameterPlan} (h : plan.Direct) :
    (n.addPlanned plan).Keeps Changes :=
  .bind (ParameterPlan.create_changes h) fun p =>
    .bind (addParameter_changes n p) fun _ => .pure _

end NodeId

end Steps

/-! ## Requests -/

namespace ParamId

private theorem update_changes (p : ParamId) : p.update.Keeps Changes := Changes.perform (.update p)

theorem connect_changes (p target : ParamId) (link : Link) :
    (p.connect target link).Keeps Changes :=
  Changes.discipline.connect Changes.set p target link

variable {ε : Type}

theorem listen_changes (p : ParamId) (listener : Listener) :
    (p.listen listener : Act ε ListenerId).Keeps Changes :=
  Changes.discipline.listen p listener

theorem disconnect_changes (p : ParamId) (id : ListenerId) :
    (p.disconnect id : Act ε Bool).Keeps Changes :=
  Changes.discipline.disconnect p id

end ParamId

namespace NodeId

private theorem parameter_changes (n : NodeId) (name : String) : (n.parameter name).Keeps Changes :=
  find_changes n _ name

private theorem get_changes (n : NodeId) (name : String) : (n.get name).Keeps Changes :=
  .bind (parameter_changes n name) Changes.get

theorem set_changes (n : NodeId) (name : String) (v : Value) : (n.set name v).Keeps Changes :=
  .bind (parameter_changes n name) fun p => Changes.set p v

private theorem assign_changes (n : NodeId) (name : String) (v : Value) :
    (n.assign name v).Keeps Changes := by
  refine .bind (.read fun _ => rfl) fun node => ?_
  split
  · exact set_changes n name v
  · exact change_changes n fun _ _ => id
  · exact change_changes n fun _ _ => id
  · exact .bind (.orEndless _) fun _ => .fail _

theorem bind_changes (n : NodeId) (name : String) (attr : Attribute) :
    (n.bind name attr).Keeps Changes := by
  cases attr with
  | parameter p => exact addParameterAs_changes n name p
  | node child => exact addChild_changes n name child
  | value v => exact assign_changes n name v
  | field v => exact assign_changes n name v

theorem snapshot_changes (n : NodeId) (options : SnapshotOptions) :
    (n.snapshot options).Keeps Changes :=
  Changes.discipline.snapshot Changes.get options n

theorem table_changes (n : NodeId) (update : Bool) (width : Nat) :
    (n.table update width).Keeps Changes :=
  Changes.discipline.table Changes.get update width n

private theorem contents_changes (n : NodeId) : n.contents.Keeps Changes :=
  .bind (.attempt (snapshot_changes n _)) fun _ => .pure _

theorem sameContents_changes (n other : NodeId) : (n.sameContents other).Keeps Changes := by
  refine .bind (contents_changes n) fun left => .bind (contents_changes other) fun right => ?_
  cases left <;> cases right <;> exact .pure _

end NodeId

/-! ## Pulses -/

namespace Pulse

private theorem equip_changes (n : NodeId) : (equip n).Keeps Changes := by
  refine .bind (n.addPlanned_changes fun _ => nofun) fun _ =>
    .bind (n.addPlanned_changes fun _ => nofun) fun start =>
    .bind (n.addPlanned_changes fun _ => nofun) fun duration =>
    .bind (n.addPlanned_changes nofun) fun stop =>
    .bind (n.addPlanned_changes fun _ => nofun) fun _ =>
    .bind (n.registerGetter_changes _ _) fun _ =>
    .bind (n.registerSetter_changes _ _) fun _ => ?_
  exact .bind (start.listen_changes _) fun _ => .bind (duration.listen_changes _) fun _ => .pure _

private theorem create_changes (name : Option String) : (create name).Keeps Changes := by
  have announced (n : NodeId) : (Act.debug do
      return "created pulse '" ++ (← n.displayName) ++ "'" : Act DomainError Unit).Keeps Changes :=
    .logChanges (.bind n.displayName_changes fun _ => .pure _)
  exact .bind (NodeId.create_changes name config) fun n =>
    .bind (.holdChanges n (.bind (.mapError (equip_changes n)) fun _ => announced n)) fun _ => .pure _

theorem createWith_changes (plan : PulsePlan) : (createWith plan).Keeps Changes := by
  have given (n : NodeId) (name : String) (v : Option Value) :
      (setGiven n name v).Keeps Changes := by
    cases v with
    | none => exact .pure _
    | some v => exact n.set_changes name v
  have made : (do
      let n ← create plan.name
      Act.holding n do
        setGiven n "t_start" plan.start
        setGiven n "duration" plan.duration
        setGiven n "t_stop" plan.stop
        setGiven n "amplitude" plan.amplitude
        setGiven n "enabled" (plan.enabled.map .bool)
      return n : Act DomainError NodeId).Keeps Changes :=
    .bind (create_changes plan.name) fun n => .bind (.holdChanges n
      (.bind (.mapError (given n _ _)) fun _ => .bind (.mapError (given n _ _)) fun _ =>
        .bind (.mapError (given n _ _)) fun _ => .bind (.mapError (given n _ _)) fun _ =>
        .mapError (given n _ _))) fun _ => .pure _
  rw [createWith]
  split
  · exact .bind (.fail _) fun _ => made
  · exact made

theorem copy_changes (n : NodeId) : (copy n).Keeps Changes := by
  have value (copy : NodeId) (name : String) : (copyValue n copy name).Keeps Changes := by
    refine .bind (n.parameter_changes name) fun p => .bind (.read fun _ => rfl) fun v => ?_
    split
    · exact copy.set_changes name v
    · exact .pure _
  exact .bind (.read fun _ => rfl) fun node => .bind (create_changes _) fun copy =>
    .bind (.holdChanges copy (.mapError (.forM (value copy) _))) fun _ => .pure _

private theorem interval?_changes (n : NodeId) : (interval? n).Keeps Changes := by
  have number (name : String) : (number? n name).Keeps Changes :=
    .bind (.mapError (n.get_changes name)) fun _ => .pure _
  exact .bind (number _) fun _ => .bind (number _) fun _ => .pure _

theorem overlaps_changes (n other : NodeId) : (overlaps n other).Keeps Changes :=
  .bind (interval?_changes n) fun _ => .bind (interval?_changes other) fun _ => .pure _

end Pulse

/-! ## Sequences -/

namespace SequenceId

private theorem change_changes {ε : Type} (s : SequenceId) (f : Sequence → Sequence) :
    (s.change f : Act ε Unit).Keeps Changes :=
  .changeElsewhere (fun _ => rfl) fun _ => rfl

theorem create_changes (name : Option String) : (create name).Keeps Changes := by
  have equipped (s : SequenceId) (n : NodeId) : (equip s n).Keeps Changes :=
    .bind (n.addPlanned_changes fun _ => nofun) fun _ =>
      .bind (n.addPlanned_changes fun _ => nofun) fun _ =>
      .bind (n.addPlanned_changes nofun) fun _ =>
      .bind (n.addPlanned_changes nofun) fun _ =>
      .bind (n.addPlanned_changes nofun) fun _ =>
      .bind (n.registerGetter_changes _ _) fun _ =>
      .bind (n.registerSetter_changes _ _) fun _ =>
      .bind (n.registerGetter_changes _ _) fun _ => n.registerGetter_changes _ _
  exact .bind (NodeId.create_changes name config) fun n => .bind .registry fun r =>
    .bind (.changeElsewhere (fun _ => rfl) fun _ => rfl) fun _ =>
      .bind (.holdChanges n (.mapError (equipped _ n))) fun _ => .pure _

private theorem freeDuration_changes (s : SequenceId) : s.freeDuration.Keeps Changes :=
  .bind (change_changes s _) fun _ => .bind (.read fun _ => rfl) fun n =>
    .bind (n.parameter_changes _) fun p => .bind p.update_changes fun _ => .pure _

private theorem refuseOverlap_changes (pulse : NodeId) (name : String) (others : List NodeId) :
    (refuseOverlap pulse name others).Keeps Changes := by
  induction others with
  | nil => exact .pure _
  | cons other rest ih =>
    refine .bind (.read other.isEnabled_read) fun enabled => ?_
    split
    · refine .bind (Pulse.overlaps_changes pulse other) fun meet => ?_
      split
      · exact .bind (.read fun _ => rfl) fun _ => .bind (.fail _) fun _ => ih
      · exact ih
    · exact ih

theorem addPulse_changes (s : SequenceId) (pulse : NodeId) :
    (s.addPulse pulse).Keeps Changes := by
  have entered (n : NodeId) (name : String) : (do
      n.addChild name pulse
      let duration ← n.parameter "duration"
      let link ← (← pulse.parameter "t_stop").listen (.callback (.refreshOwned duration))
      s.change fun seq => { seq with stopLinks := seq.stopLinks.insert name link }
      s.freeDuration
      Act.debug do
        return "added pulse '" ++ name ++ "' to sequence '" ++ (← n.displayName) ++ "'" :
          Act DomainError Unit).Keeps Changes :=
    .bind (.mapError (n.addChild_changes name pulse)) fun _ =>
      .bind (.mapError (n.parameter_changes _)) fun duration =>
      .bind (.mapError (pulse.parameter_changes _)) fun stop =>
      .bind (stop.listen_changes _) fun link => .bind (change_changes s _) fun _ =>
      .bind (.mapError s.freeDuration_changes) fun _ =>
      .logChanges (.bind n.displayName_changes fun _ => .pure _)
  refine .bind (.read fun _ => rfl) fun n => .bind (.read fun _ => rfl) fun node => ?_
  split
  case h_2 => exact .fail _
  case h_1 name _ =>
    refine .bind (.attempt (.read (n.find_read _ name))) fun taken => ?_
    dsimp only
    split
    case' isTrue => refine .bind (.fail _) fun _ => ?_
    all_goals
      refine .bind (.mapError (n.get_changes _)) fun allowed => ?_
      split
      · exact .bind (.read fun _ => rfl) fun others =>
          .bind (refuseOverlap_changes pulse name others) fun _ => entered n name
      · exact entered n name

theorem removePulse_changes (s : SequenceId) (name : String) :
    (s.removePulse name).Keeps Changes := by
  have found : (s.pulse name).Keeps Changes := by
    refine .bind (.read fun _ => rfl) fun n => .bind (.mapError (n.find_changes _ name)) fun child =>
      .bind .registry fun r => ?_
    split
    · exact .pure _
    · exact .fail _
  have unlinked (pulse : NodeId) : (s.unlink pulse name).Keeps Changes := by
    refine .bind (.read fun _ => rfl) fun seq => .bind (change_changes s _) fun _ => ?_
    split
    · exact .bind (pulse.parameter_changes _) fun p => .bind (p.disconnect_changes _) fun _ => .pure _
    · exact .pure _
  exact .bind (.read fun _ => rfl) fun n => .bind found fun pulse => .bind (.holdChanges pulse
    (.bind (.mapError (unlinked pulse)) fun _ => .bind (.mapError (n.removeChild_changes name)) fun _ =>
      .bind (.mapError s.freeDuration_changes) fun _ =>
      .logChanges (.bind n.displayName_changes fun _ => .pure _))) fun _ => .pure _

theorem clear_changes (s : SequenceId) : s.clear.Keeps Changes := by
  refine .bind .registry fun r => .bind (.read fun _ => rfl) fun n => ?_
  dsimp only
  refine .forM (fun entry => ?_) _
  exact .bind (s.removePulse_changes entry.1) fun _ => .pure _

theorem copySetting_changes (n copy : NodeId) (name : String) :
    (copySetting n copy name).Keeps Changes :=
  .bind (n.parameter_changes name) fun _ => .bind (.read fun _ => rfl) fun v =>
    copy.set_changes name v

theorem addCopy_changes (copy : SequenceId) (pulse : NodeId) : (copy.addCopy pulse).Keeps Changes :=
  .bind (Pulse.copy_changes pulse) fun pulse => .holdChanges pulse (copy.addPulse_changes pulse)

theorem copy_changes (s : SequenceId) : s.copy.Keeps Changes := by
  refine .bind (.read fun _ => rfl) fun n => .bind (.read fun _ => rfl) fun node =>
    .bind (create_changes _) fun copy => .bind (.read fun _ => rfl) fun copyNode =>
    .bind (.holdChanges copyNode ?_) fun _ => .pure _
  exact .bind (.mapError (copySetting_changes n copyNode _)) fun _ =>
    .bind (.read fun _ => rfl) fun pulses => .bind (.forM copy.addCopy_changes _) fun _ =>
    .bind (.mapError (copySetting_changes n copyNode _)) fun _ =>
    .bind (.read fun _ => rfl) fun seq => .bind (change_changes copy _) fun _ =>
    .bind (.mapError (copyNode.parameter_changes _)) fun p =>
    .bind (.mapError p.update_changes) fun _ => .pure _

end SequenceId

/-! ## Instruments and stations -/

namespace Instrument

private theorem writeDevice_changes (d : DeviceId) (address : String) (v : Value) :
    (d.write address v).Keeps Changes :=
  Changes.discipline.writeDevice d address v

theorem create_changes (name : String) (channels : Nat) (device : DeviceId) :
    (create name channels device).Keeps Changes := by
  have channel (index : Nat) : (createChannel device index).Keeps Changes :=
    .bind (NodeId.create_changes _ _) fun channel => .bind (.holdChanges channel
      (.bind (.bind (writeDevice_changes device _ _) fun _ => writeDevice_changes device _ _) fun _ =>
        .bind (channel.addPlanned_changes nofun) fun _ =>
        .bind (channel.addPlanned_changes nofun) fun _ => .pure _)) fun _ => .pure _
  have settings (n : NodeId) : (addSettings n).Keeps Changes :=
    .bind (NodeId.create_changes _ _) fun settings => .holdChanges settings
      (.bind (n.addChild_changes _ settings) fun _ =>
        .bind (settings.addPlanned_changes fun _ => nofun) fun _ =>
        .bind (settings.addPlanned_changes fun _ => nofun) fun _ => .pure _)
  have equipped (n : NodeId) : (equip n channels device).Keeps Changes :=
    .bind (n.addPlanned_changes nofun) fun _ =>
      .bind (.forM (fun index => .bind (channel index) fun channel =>
        .holdChanges channel (n.addSubmodule_changes _ channel)) _) fun _ =>
      .bind (n.addFunction_changes _ _) fun _ => settings n
  exact .bind (NodeId.create_changes _ _) fun n => .bind (.holdChanges n (.mapError (equipped n))) fun _ =>
    .bind (.logChanges (.pure _)) fun _ => .pure _

end Instrument

namespace Station

private theorem logAll_changes (n : NodeId) : n.logAll.Keeps Changes := by
  have within (depth : Nat) (n : NodeId) : (NodeId.logAllWithin depth n).Keeps Changes := by
    induction depth generalizing n with
    | zero => exact .throw _
    | succ depth ih =>
      refine .bind (.read fun _ => rfl) fun node => .bind (.forM (fun p => ?_) _) fun _ => .forM ih _
      exact .change fun r => .single (.changeParameter p fun _ => ⟨rfl, rfl, rfl, rfl⟩)
  exact .bind .registry fun _ => within _ n

theorem create_changes (config : AppConfig) : (create config).Keeps Changes := by
  have time (root : NodeId) : (addCreationTime root).Keeps Changes :=
    .bind Changes.discipline.readClock fun _ =>
      .bind (root.addPlanned_changes fun _ => nofun) fun _ => .pure _
  have pulse (s : SequenceId) (plan : PulsePlan) : (addPulse s plan).Keeps Changes :=
    .bind (Pulse.createWith_changes plan) fun pulse =>
      .bind (.holdChanges pulse (s.addPulse_changes pulse)) fun _ => .pure _
  have pulses (s : SequenceId) : (addPulses s).Keeps Changes :=
    .bind (.mapError (pulse s _)) fun plunge => .bind (.mapError (pulse s _)) fun read =>
      .bind (.mapError (plunge.parameter_changes _)) fun stop =>
      .bind (.mapError (read.parameter_changes _)) fun start =>
      .mapError (stop.connect_changes start _)
  have device : (DeviceId.create identification : Act AppError DeviceId).Keeps Changes :=
    .bind .registry fun _ => .bind (.changeElsewhere (fun _ => rfl) fun _ => rfl) fun _ => .pure _
  have instrument (device : DeviceId) : (createInstrument device).Keeps Changes :=
    .bind (Instrument.create_changes _ _ device) fun n => .bind (.holdChanges n
      (.bind (.mapError (n.find_changes _ _)) fun channel =>
        .mapError (channel.set_changes _ _))) fun _ => .pure _
  have assembled (station : Station) : (assemble config station).Keeps Changes := by
    refine .bind (.read fun _ => rfl) fun sequence =>
      .bind (station.root.addChild_changes _ sequence) fun _ =>
      .bind (.holdChanges _ (station.root.addChild_changes _ _)) fun _ => ?_
    have announced : (Act.debug do
        return "built demo station '" ++ (← station.root.displayName) ++ "'" :
          Act RegistryError Unit).Keeps Changes :=
      .logChanges (.bind station.root.displayName_changes fun _ => .pure _)
    dsimp only
    split
    · exact .bind (logAll_changes station.root) fun _ => announced
    · exact announced
  exact .bind (NodeId.create_changes _ _) fun root => .holdChanges root
    (.bind (.mapError (time root)) fun _ =>
      .bind (.mapError (SequenceId.create_changes none)) fun sequence =>
      .bind (.read fun _ => rfl) fun node => .holdChanges node
      (.bind (pulses sequence) fun _ => .bind device fun device =>
        .bind (.mapError (instrument device)) fun instrument =>
        .bind (.mapError (assembled _)) fun _ => .pure _))

end Station

end LabRegistry

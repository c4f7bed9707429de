import LabRegistry.Proofs.Binding.Command
import LabRegistry.Proofs.Sequence.Commands
import LabRegistry.Proofs.Sequence.Intact

/-!
# Operations leave pulses and sequences intact

Whatever is done to a registry and whether it succeeds or not, pulses and sequences stay intact, as
long as parameters and delegates are bound on other nodes only and no node is bound below a pulse.
-/
namespace LabRegistry

open Registry

variable {ε α : Type} {r after : Registry} {n : NodeId} {s : SequenceId} {count : Nat}
  {hosts plain : Set NodeId}

namespace Act.Keeps

private theorem respects {act : Act ε α} (h : ∀ r, Respects r plain (act r).2) :
    act.Keeps (StaysIntact count hosts plain) :=
  fun r intact => intact.respects (h r)

theorem effectsIntact {act : Act ε α} (h : act.Keeps Effects) :
    act.Keeps (StaysIntact count hosts plain) :=
  .respects fun r => (h r).respects

theorem changeIntact {f : Registry → Registry}
    (h : ∀ r, (f r).nodes = r.nodes ∧ (f r).params = r.params ∧ (f r).sequences = r.sequences) :
    (Act.change f : Act ε Unit).Keeps (StaysIntact count hosts plain) :=
  .respects fun r => .of_eq (h r).1 (h r).2.1 (h r).2.2

private theorem logIntact {level : LogLevel} {text : Act ε String}
    (h : text.Keeps (StaysIntact count hosts plain)) :
    (Act.writeLog level text).Keeps (StaysIntact count hosts plain) :=
  .writeLog h fun _ _ intact => intact.respects (.of_eq rfl rfl rfl)

private theorem noteIntact {level : LogLevel} (n : NodeId) (before after : String) :
    (Act.writeLog level (do return before ++ (← n.displayName) ++ after) : Act ε Unit).Keeps
      (StaysIntact count hosts plain) :=
  .logIntact (.bind (.orEndless _) fun _ => .pure _)

private theorem holdIntact {act : Act ε α} (n : NodeId)
    (h : act.Keeps (StaysIntact count hosts plain)) :
    (Act.holding n act).Keeps (StaysIntact count hosts plain) := by
  intro r intact
  have began : IntactBeside { r with inUse := n :: r.inUse } count hosts plain :=
    intact.respects (.of_eq rfl rfl rfl)
  exact (h _ began).respects (.of_eq rfl rfl rfl)

end Act.Keeps

/-! ## Nodes -/

namespace Node

private theorem held_eraseChild {node : Node} (leaf : node.held = []) (name : String) :
    { node with children := node.children.erase name }.held = [] := by
  obtain ⟨children, submodules⟩ := List.append_eq_nil_iff.mp leaf
  have none : node.children.entries = [] := List.map_eq_nil_iff.mp children
  refine List.append_eq_nil_iff.mpr ⟨?_, submodules⟩
  simp [OrderedMap.values, OrderedMap.erase, none]

end Node

namespace NodeId

theorem change_staysIntact (n : NodeId) {f : Node → Node}
    (fittings : ∀ node, (f node).fittings = node.fittings)
    (leaf : ∀ node, node.held = [] → (f node).held = []) :
    (n.change f : Act ε Unit).Keeps (StaysIntact count hosts plain) :=
  .respects fun _ => .of_node (fun node => congrArg (·.config.classTag) (fittings node))
    (fun _ => fittings) fun _ => leaf

private theorem changeHost_staysIntact (mem : n ∈ hosts) {f : Node → Node}
    (fittings : ∀ node, (f node).fittings = node.fittings) :
    (n.change f : Act ε Unit).Keeps (StaysIntact count hosts plain) := by
  intro r intact
  refine intact.respects (.of_node (fun node => congrArg (·.config.classTag) (fittings node))
    (fun _ => fittings) fun pulse => ?_)
  rw [(intact.host n mem).2] at pulse
  cases pulse

theorem changePlain_staysIntact (mem : n ∈ plain) {f : Node → Node}
    (tag : ∀ node, (f node).config.classTag = node.config.classTag)
    (leaf : ∀ node, node.held = [] → (f node).held = []) :
    (n.change f : Act ε Unit).Keeps (StaysIntact count hosts plain) :=
  .respects fun _ => .of_node tag (fun free => absurd mem free) fun _ => leaf

private theorem joinParent_staysIntact (child parent : NodeId) (name : String) :
    (child.joinParent parent name : Act ε Unit).Keeps (StaysIntact count hosts plain) := by
  have named (first : Bool) :
      (child.takeName parent name first : Act ε Unit).Keeps (StaysIntact count hosts plain) := by
    refine .bind (.read fun _ => rfl) fun node => ?_
    split
    · exact .noteIntact child _ _
    · refine .bind (child.change_staysIntact (fun _ => rfl) fun _ => id) fun _ => ?_
      split
      · exact .logIntact (.bind (.bind (.orEndless _) fun _ => .pure _) fun _ => .pure _)
      · exact .pure _
  refine .bind (.read fun _ => rfl) fun above => ?_
  dsimp only
  split
  · exact .bind (child.change_staysIntact (fun _ => rfl) fun _ => id) fun _ => named _
  · exact named _

private theorem attach_staysIntact (mem : n ∈ hosts) (kind : MemberKind) (name : String)
    (child : NodeId)
    {put : Node → Node} (fittings : ∀ node, (put node).fittings = node.fittings) :
    (n.attach kind name child put).Keeps (StaysIntact count hosts plain) := by
  refine .bind (.read (n.requireFree_read name kind)) fun _ => .bind ?_ fun _ =>
    .bind (child.joinParent_staysIntact n name) fun _ => changeHost_staysIntact mem fittings
  refine .bind (.read fun _ => rfl) fun enclosed => ?_
  split
  · exact .bind (.orEndless _) fun _ => .fail _
  · exact .pure _

theorem addChild_staysIntact (mem : n ∈ hosts) (name : String) (child : NodeId) :
    (n.addChild name child).Keeps (StaysIntact count hosts plain) :=
  attach_staysIntact mem _ name child fun _ => rfl

theorem addSubmodule_staysIntact (mem : n ∈ hosts) (name : String) (child : NodeId) :
    (n.addSubmodule name child).Keeps (StaysIntact count hosts plain) :=
  attach_staysIntact mem _ name child fun _ => rfl

theorem addFunction_staysIntact (n : NodeId) (name : String) (function : Callable) :
    (n.addFunction name function).Keeps (StaysIntact count hosts plain) :=
  .bind (.read (n.requireFree_read name .function)) fun _ =>
    n.change_staysIntact (fun _ => rfl) fun _ => id

theorem removeChild_staysIntact (n : NodeId) (name : String) :
    (n.removeChild name).Keeps (StaysIntact count hosts plain) := by
  refine .bind (.read fun _ => rfl) fun node => ?_
  split
  · exact .bind (.orEndless _) fun _ => .fail _
  case h_2 child _ =>
    refine .bind (n.change_staysIntact (fun _ => rfl) fun _ leaf => Node.held_eraseChild leaf name)
      fun _ => .bind ?_ fun _ => .bind (.noteIntact n _ _) fun _ => .pure _
    refine .bind (.read fun _ => rfl) fun node => ?_
    split
    · exact child.change_staysIntact (fun _ => rfl) fun _ => id
    · exact .pure _

theorem addParameterAs_staysIntact (mem : n ∈ plain) (name : String) (p : ParamId) :
    (n.addParameterAs name p).Keeps (StaysIntact count hosts plain) := by
  have noted {level : LogLevel} (before after : String) : (Act.writeLog level (do
      return before ++ (← p.fullName) ++ after) : Act RegistryError Unit).Keeps
        (StaysIntact count hosts plain) :=
    .logIntact (.bind (.orEndless _) fun _ => .pure _)
  refine .bind (.read (n.requireFree_read name .parameter)) fun _ => .bind ?_ fun _ =>
    changePlain_staysIntact mem (fun _ => rfl) fun _ => id
  -- Only a parameter that belongs to no node or to this one takes the name.
  intro r intact
  have state : (p.state : Act RegistryError Parameter) r = (.ok (r.param p), r) := rfl
  rw [ParamId.joinNode, Act.bind_run, state]
  dsimp only
  by_cases own : (r.param p).owner.getD n = n
  · have joins (first : Bool) : (if first then Act.debug do
        return "attached parameter '" ++ (← p.fullName) ++ "'" else pure () :
          Act RegistryError Unit).Keeps (StaysIntact count hosts plain) := by
      split
      · exact noted _ _
      · exact .pure _
    rw [if_neg (not_not.mpr own), Act.bind_run, state_run]
    dsimp only
    rw [Act.bind_run, ParamId.change_run]
    refine joins _ _ (intact.respects (.of_param fun m owner free => ?_))
    rw [owner, Option.getD_some] at own
    exact absurd (own ▸ mem) free
  · rw [if_pos own]
    exact noted _ _ r intact

theorem addParameter_staysIntact (mem : n ∈ plain) (p : ParamId) :
    (n.addParameter p).Keeps (StaysIntact count hosts plain) :=
  .bind (.read fun _ => rfl) fun _ => addParameterAs_staysIntact mem _ p

theorem registerGetter_staysIntact (mem : n ∈ plain) (name : String) (getter : Callable) :
    (n.registerGetter name getter : Act ε Unit).Keeps (StaysIntact count hosts plain) :=
  .bind (changePlain_staysIntact mem (fun _ => rfl) fun _ => id) fun _ => .noteIntact n _ _

theorem registerSetter_staysIntact (mem : n ∈ plain) (name : String) (setter : Callable) :
    (n.registerSetter name setter : Act ε Unit).Keeps (StaysIntact count hosts plain) :=
  .bind (changePlain_staysIntact mem (fun _ => rfl) fun _ => id) fun _ => .noteIntact n _ _

theorem set_staysIntact (n : NodeId) (name : String) (v : Value) :
    (n.set name v).Keeps (StaysIntact count hosts plain) :=
  .effectsIntact (.bind (Effects.parameter n name) fun p => Effects.set p v)

theorem assign_staysIntact (n : NodeId) (name : String) (v : Value) :
    (n.assign name v).Keeps (StaysIntact count hosts plain) := by
  have kept : (n.change fun node => { node with fields := node.fields.insert name v } :
      Act RegistryError Unit).Keeps (StaysIntact count hosts plain) :=
    n.change_staysIntact (fun _ => rfl) fun _ => id
  refine .bind (.read fun _ => rfl) fun node => ?_
  split
  · exact n.set_staysIntact name v
  · exact kept
  · exact kept
  · exact .bind (.orEndless _) fun _ => .fail _

theorem create_staysIntact (name : Option String) {config : NodeConfig}
    (other : config.classTag ≠ pulseClass) :
    (NodeId.create name config : Act ε NodeId).Keeps (StaysIntact count hosts plain) := by
  intro r intact
  have run : (NodeId.create name config : Act ε NodeId) r =
      (.ok ⟨r.nodes.size⟩, { r with nodes := r.nodes.push { name, config } }) := rfl
  rw [run]
  refine intact.extended (.of_push _) (fun n new pulse => ?_) fun s outside inside =>
    absurd inside (not_lt.mpr outside)
  rw [isPulse, node_push] at pulse
  split at pulse
  · exact absurd (of_decide_eq_true pulse) other
  · rw [node_of_size_le new] at pulse
    exact absurd pulse (by decide)

end NodeId

theorem ParameterPlan.create_staysIntact (plan : ParameterPlan) :
    plan.create.Keeps (StaysIntact count hosts plain) := by
  intro r intact
  cases accepted : plan.validator.validate plan.initial with
  | error reason =>
    rw [create, accepted]
    exact intact
  | ok _ =>
    obtain ⟨now, now', run⟩ := plan.create_run accepted r
    rw [run]
    exact intact.respects (.of_push _ _)

/-! ## Pulses -/

namespace Pulse

private theorem create_staysIntact (name : Option String) :
    (create name).Keeps (StaysIntact count hosts plain) := by
  intro r intact
  obtain ⟨made, run, equipped⟩ := create_run name r
  have node := node_push r { name, config } ⟨r.nodes.size⟩
  rw [if_pos rfl] at node
  have size : made.nodes.size = r.nodes.size + 1 := by
    rw [equipped.size, Arena.size_push]
  rw [run]
  refine intact.extended equipped.extendsPulse (fun n new pulse => ?_) fun s outside inside => ?_
  · by_cases inside : n.index < made.nodes.size
    · obtain rfl : n = ⟨r.nodes.size⟩ := by
        rw [NodeId.mk.injEq]
        omega
      have first : made.firstParam ⟨r.nodes.size⟩ = r.params.size := equipped.fitted.firstParam
      exact {
        inside := inside
        quiet := first ▸ equipped.quiet
        config := (congrArg (·.config) equipped.node).trans (congrArg (·.config) node)
        fitted := first ▸ equipped.fitted
        delegates := equipped.delegates
        leaf := by
          rw [held, equipped.node]
          exact congrArg Node.held node }
    · rw [isPulse, node_of_size_le (not_lt.mp inside)] at pulse
      exact absurd pulse (by decide)
  · rw [congrArg Arena.size equipped.sequences] at inside
    exact absurd inside (not_lt.mpr outside)

theorem createWith_staysIntact (plan : PulsePlan) :
    (createWith plan).Keeps (StaysIntact count hosts plain) := by
  have made : (do
      let n ← create plan.name
      Act.holding n (give n plan)
      return n : Act DomainError NodeId).Keeps (StaysIntact count hosts plain) :=
    .bind (create_staysIntact plan.name) fun n =>
      .bind (.holdIntact n (.effectsIntact (give_effects n plan))) fun _ => .pure _
  rw [createWith]
  split
  · exact .bind (.fail _) fun _ => made
  · exact made

theorem copy_staysIntact (n : NodeId) : (copy n).Keeps (StaysIntact count hosts plain) := by
  have value (copy : NodeId) (name : String) : (copyValue n copy name).Keeps Effects := by
    refine .bind (Effects.parameter n name) fun p => .bind (.read fun _ => rfl) fun v => ?_
    split
    · exact .bind (Effects.parameter copy name) fun p => Effects.set p v
    · exact .pure _
  exact .bind (.read fun _ => rfl) fun node => .bind (create_staysIntact _) fun copy =>
    .bind (.holdIntact copy (.effectsIntact (.lift (.forM (value copy) _)))) fun _ => .pure _

end Pulse

/-! ## Sequences -/

namespace SequenceId

private theorem change_staysIntact (s : SequenceId) {f : Sequence → Sequence}
    (owner : ∀ sequence, (f sequence).node = sequence.node) :
    (s.change f : Act ε Unit).Keeps (StaysIntact count hosts plain) :=
  .respects fun _ => .of_sequence owner

theorem create_staysIntact (name : Option String) :
    (create name).Keeps (StaysIntact count hosts plain) := by
  intro r intact
  obtain ⟨made, run, fitting, delegates, lists⟩ := create_run name r
  have node : (r.withSequence name).node ⟨r.nodes.size⟩ = { name, config } := Arena.get_push_size _ _
  have nodes : made.nodes.size = r.nodes.size + 1 := by
    rw [fitting.size, withSequence, Arena.size_push]
  have sequences : made.sequences.size = r.sequences.size + 1 := by
    rw [fitting.sequences, withSequence, Arena.size_push]
  have owner : made.nodeOf ⟨r.sequences.size⟩ = ⟨r.nodes.size⟩ := by
    rw [nodeOf, Registry.sequence, fitting.sequences]
    exact congrArg Sequence.node (Arena.get_push_size _ _)
  have config : (made.node ⟨r.nodes.size⟩).config = SequenceId.config := by
    rw [fitting.node, node]
  have quiet : ∀ plan ∈ plans, plan.logsChanges = false := by
    simp [plans, ParameterPlan.delegated]
  have fitted := fitting.fitted quiet
  have first : made.firstParam ⟨r.nodes.size⟩ = r.params.size := fitted.firstParam
  rw [run]
  refine intact.extended fitting.extendsSequence (fun n new pulse => ?_) fun s outside inside => ?_
  · by_cases inside : n.index < made.nodes.size
    · obtain rfl : n = ⟨r.nodes.size⟩ := by
        rw [NodeId.mk.injEq]
        omega
      rw [isPulse, config] at pulse
      exact absurd pulse (by decide)
    · rw [isPulse, node_of_size_le (not_lt.mp inside)] at pulse
      exact absurd pulse (by decide)
  · obtain rfl : s = ⟨r.sequences.size⟩ := by
      change s.index < made.sequences.size at inside
      rw [SequenceId.mk.injEq]
      omega
    refine ⟨⟨⟨?_, fun i hi => ?_⟩, ?_, ?_, ?_, ?_⟩, ?_⟩
    all_goals rw [owner]
    · exact nodes ▸ Nat.lt_succ_self _
    · have planned := List.getElem?_eq_getElem (show i < plans.length from hi)
      have logs := congrArg (·.logsChanges) (fitting.fresh i _ planned).uncached
      rw [first]
      exact logs.trans (quiet _ (List.mem_of_getElem? planned))
    · exact config
    · exact first ▸ fitted
    · exact delegates
    · exact lists

private theorem enter_staysIntact (s : SequenceId) (mem : n ∈ hosts) (pulse : NodeId)
    (name : String) :
    (s.enter n pulse name).Keeps (StaysIntact count hosts plain) :=
  .bind (.lift (NodeId.addChild_staysIntact mem name pulse)) fun _ =>
    .bind (.lift (.effectsIntact (Effects.parameter n _))) fun _ =>
      .bind (.lift (.effectsIntact (Effects.parameter pulse _))) fun p =>
        .bind (.effectsIntact (Effects.listen p _)) fun _ =>
          .bind (s.change_staysIntact fun _ => rfl) fun _ =>
            .bind (.lift (.effectsIntact s.freeDuration_effects)) fun _ => .noteIntact _ _ _

theorem addPulse_staysIntact (known : s.index < count) (pulse : NodeId) :
    (s.addPulse pulse).Keeps (StaysIntact count hosts plain) := by
  intro r intact
  have sequence := intact.sequence s (known.trans_le intact.many)
  -- The node of the sequence may hold the pulse.
  let wider : Set NodeId := insert (r.nodeOf s) hosts
  have host : r.IntactBeside count wider plain :=
    { intact with
      host := Set.forall_mem_insert.mpr ⟨⟨sequence.inside, sequence.isPulse_eq_false⟩, intact.host⟩
      among := intact.among.trans (Set.subset_insert _ _) }
  have enters (name : String) : (do
      if (← (r.nodeOf s).get "allow_pulse_overlap") == .bool false then
        refuseOverlap pulse name (← s.pulses)
      s.enter (r.nodeOf s) pulse name : Act DomainError Unit).Keeps
        (StaysIntact count wider plain) := by
    have entered : (s.enter (r.nodeOf s) pulse name).Keeps (StaysIntact count wider plain) :=
      s.enter_staysIntact (Set.mem_insert _ hosts) pulse name
    refine .bind (.lift (.effectsIntact (.bind (Effects.parameter _ _) Effects.get))) fun allowed => ?_
    dsimp only
    split
    · exact .bind (.read fun _ => rfl) fun others =>
        .bind (.effectsIntact (refuseOverlap_effects pulse name others)) fun _ => entered
    · exact entered
  rw [addPulse_steps]
  split
  · exact intact
  case h_2 name _ =>
    split_ifs
    · exact intact
    · exact intact
    · have done := enters name r host
      exact { done with
        host := fun n mem => done.host n (.inr mem)
        among := intact.among }

private theorem unlink_staysIntact (s : SequenceId) (pulse : NodeId) (name : String) :
    (s.unlink pulse name).Keeps (StaysIntact count hosts plain) := by
  refine .bind (.read fun _ => rfl) fun sequence => .bind (s.change_staysIntact fun _ => rfl) fun _ => ?_
  split
  · exact .effectsIntact (.bind (Effects.parameter pulse _) fun p => .bind (Effects.disconnect p _)
      fun _ => .pure _)
  · exact .pure _

private theorem leave_staysIntact (s : SequenceId) (n pulse : NodeId) (name : String) :
    (s.leave n pulse name).Keeps (StaysIntact count hosts plain) :=
  .bind (.lift (s.unlink_staysIntact pulse name)) fun _ =>
    .bind (.lift (n.removeChild_staysIntact name)) fun _ =>
      .bind (.lift (.effectsIntact s.freeDuration_effects)) fun _ => .noteIntact _ _ _

theorem removePulse_staysIntact (s : SequenceId) (name : String) :
    (s.removePulse name).Keeps (StaysIntact count hosts plain) :=
  .bind (.read fun _ => rfl) fun n => .bind (.effectsIntact (s.pulse_effects name)) fun pulse =>
    .bind (.holdIntact pulse (s.leave_staysIntact n pulse name)) fun _ => .pure _

theorem clear_staysIntact (s : SequenceId) : s.clear.Keeps (StaysIntact count hosts plain) := by
  refine .bind .registry fun r => .bind (.read fun _ => rfl) fun n => .forM (fun entry => ?_) _
  exact .bind (s.removePulse_staysIntact entry.1) fun _ => .pure _

theorem copy_staysIntact (s : SequenceId) : s.copy.Keeps (StaysIntact count hosts plain) := by
  intro r intact
  obtain ⟨made, run, fitting, -⟩ := create_run (r.node (r.nodeOf s)).name r
  let copy : SequenceId := ⟨r.sequences.size⟩
  have fresh := create_staysIntact (r.node (r.nodeOf s)).name r intact
  rw [run] at fresh
  have known : copy.index < made.sequences.size := by
    rw [fitting.sequences, withSequence, Arena.size_push]
    exact Nat.lt_succ_self _
  have setting (n m : NodeId) (name : String) : (copySetting n m name).Keeps Effects :=
    .bind (Effects.parameter n name) fun _ => .bind (.read fun _ => rfl) fun v =>
      .bind (Effects.parameter m name) fun p => Effects.set p v
  have filled (n m : NodeId) : (do
      copySetting n m "final_delay"
      (← s.pulses).forM copy.addCopy
      copySetting n m "allow_pulse_overlap"
      let fixed := (← s.state).fixedDuration
      copy.change ({ · with fixedDuration := fixed })
      let _ ← (← m.parameter "duration").update : Act DomainError Unit).Keeps
        (StaysIntact made.sequences.size hosts plain) := by
    refine .bind (.lift (.effectsIntact (setting n m _))) fun _ => .bind (.read fun _ => rfl) fun pulses =>
      .bind (.forM (fun pulse => ?_) pulses) fun _ => .bind (.lift (.effectsIntact (setting n m _)))
        fun _ => .bind (.read fun _ => rfl) fun _ => .bind (copy.change_staysIntact fun _ => rfl)
          fun _ => .bind (.lift (.effectsIntact (Effects.parameter m _))) fun p =>
            .bind (.lift (.effectsIntact (Effects.perform (.update p)))) fun _ => .pure _
    exact .bind (Pulse.copy_staysIntact pulse) fun pulse =>
      .holdIntact pulse (addPulse_staysIntact known pulse)
  have copied : s.copy r = (do
      let m ← copy.node
      Act.holding m (do
        copySetting (r.nodeOf s) m "final_delay"
        (← s.pulses).forM copy.addCopy
        copySetting (r.nodeOf s) m "allow_pulse_overlap"
        let fixed := (← s.state).fixedDuration
        copy.change ({ · with fixedDuration := fixed })
        let _ ← (← m.parameter "duration").update)
      return copy : Act DomainError SequenceId) made := by
    have owner : (s.node : Act DomainError NodeId) r = (.ok (r.nodeOf s), r) := rfl
    rw [SequenceId.copy, Act.bind_run, owner]
    dsimp only
    rw [Act.bind_run, NodeId.state_run]
    dsimp only
    rw [Act.bind_run, run]
  have reads : (copy.node : Act DomainError NodeId).Keeps
      (StaysIntact made.sequences.size hosts plain) := .read fun _ => rfl
  have done := Act.Keeps.bind reads
    (fun m => .bind (.holdIntact m (filled (r.nodeOf s) m)) fun _ => .pure copy) made
    { fresh with many := le_rfl }
  rw [copied]
  exact { done with many := fresh.many.trans done.many }

end SequenceId
end LabRegistry

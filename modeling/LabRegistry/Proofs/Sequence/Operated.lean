import LabRegistry.Proofs.Sequence.Upkeep

/-!
# Pulses and sequences along a run

A user makes, copies and binds objects, gets and sets parameters and listens to them, in any order
and with whatever listeners and callables. Pulses and sequences are intact in every state that is
reached, also after requests that failed halfway.
-/
namespace LabRegistry

open Registry

/-- What a user does with parameters, nodes, pulses and sequences. -/
inductive Activity where
  | interact (interaction : Interaction)
  | command (c : Command)
  | sequence (c : SequenceCommand)
  | copyPulse (handle : String) (n : NodeId)
  | copySequence (handle : String) (s : SequenceId)

def Activity.run (r : Registry) : Activity → Registry
  | interact interaction => (interaction.act r).2
  | command c => (c.act r).2
  | sequence c => (c.act r).2
  | copyPulse handle n =>
    ((do Act.store handle (.pulse (← Pulse.copy n)) : Act DomainError Unit) r).2
  | copySequence handle s =>
    ((do Act.store handle (.sequence (← s.copy)) : Act DomainError Unit) r).2

/-- The command makes no pulse, binds nodes below some nodes only, and binds parameters and delegates
on some of these only. -/
def Command.Fits (hosts plain : Set NodeId) : Command → Prop
  | createNode _ _ config => config.classTag ≠ pulseClass
  | addChild n _ _ | addSubmodule n _ _ | bind n _ (.node _) => n ∈ hosts
  | addParameter n _ | bind n _ (.parameter _) | registerGetter n _ _ | registerSetter n _ _
  | setForwards n _ | setShortSnapshots n _ => n ∈ plain
  | _ => True

namespace Registry

/-- The nodes that others may be bound below. -/
def hosts (r : Registry) : Set NodeId := {n | n.index < r.nodes.size ∧ r.isPulse n = false}

/-- The nodes that are neither those of pulses nor those of sequences. -/
def plainNodes (r : Registry) : Set NodeId :=
  {n ∈ r.hosts | ∀ s : SequenceId, s.index < r.sequences.size → r.nodeOf s ≠ n}

/-- Pulses come from their own constructor, hold no nodes and get no further parameters and no other
delegates or configuration, and neither do sequences. -/
def Fits (r : Registry) : Activity → Prop
  | .command c => c.Fits r.hosts r.plainNodes
  | .sequence c => ∀ s ∈ c.sequence?, s.index < r.sequences.size
  | _ => True

/-- What is reached from a registry in which nothing was made yet. -/
inductive Operated (log : Log) (now : Instant) : Registry → Prop
  | start : Operated log now (.start log now)
  | step {r : Registry} (activity : Activity) (operated : Operated log now r)
      (fits : r.Fits activity) : Operated log now (activity.run r)

end Registry

variable {ε : Type} {r : Registry} {count : Nat} {hosts plain : Set NodeId} {log : Log} {now : Instant}

private theorem Act.store_staysIntact (handle : String) (object : Object) :
    (Act.store handle object : Act ε Unit).Keeps (StaysIntact count hosts plain) :=
  .changeIntact fun _ => ⟨rfl, rfl, rfl⟩

private theorem Interaction.staysIntact (interaction : Interaction) :
    interaction.act.Keeps (StaysIntact count hosts plain) := by
  cases interaction with
  | get n name =>
    exact .bind (.effectsIntact (.bind (Effects.parameter n name) Effects.get)) fun _ => .pure _
  | set n name v => exact n.set_staysIntact name v
  | update n name =>
    exact .bind (.effectsIntact (Effects.parameter n name)) fun p =>
      .bind (.effectsIntact (Effects.perform (.update p))) fun _ => .pure _
  | snapshot n options =>
    exact .bind (.effectsIntact (Effects.discipline.snapshot Effects.get options n)) fun _ => .pure _
  | request asked => exact .bind (.effectsIntact (Effects.perform asked)) fun _ => .pure _
  | createParameter plan => exact .bind plan.create_staysIntact fun _ => .pure _
  | hold handle p =>
    refine .bind (.read fun _ => rfl) fun bench => ?_
    split
    · exact Act.store_staysIntact handle _
    · exact .pure _
  | connect p target link => exact .effectsIntact (Effects.discipline.connect Effects.set p target link)
  | listen p callback => exact .bind (.effectsIntact (Effects.listen p _)) fun _ => .pure _
  | disconnect p id => exact .bind (.effectsIntact (Effects.disconnect p id)) fun _ => .pure _
  | disconnectAll p => exact .effectsIntact (Effects.disconnectAll p)
  | nameListener name id => exact .changeIntact fun _ => ⟨rfl, rfl, rfl⟩

private theorem Command.staysIntact {c : Command} (fits : c.Fits hosts plain) :
    c.act.Keeps (StaysIntact count hosts plain) := by
  cases c with
  | createNode handle name config =>
    exact .bind (NodeId.create_staysIntact name fits) fun n => Act.store_staysIntact handle _
  | createParameter handle plan =>
    exact .bind plan.create_staysIntact fun p => Act.store_staysIntact handle _
  | keep handle n => exact Act.store_staysIntact handle _
  | drop handle =>
    exact .bind (.bind (.read fun _ => rfl) fun _ =>
      .bind (.changeIntact fun _ => ⟨rfl, rfl, rfl⟩) fun _ => .pure _) fun _ => .pure _
  | bind n name attr =>
    cases attr with
    | parameter p => exact NodeId.addParameterAs_staysIntact fits name p
    | node child => exact NodeId.addChild_staysIntact fits name child
    | value v => exact n.assign_staysIntact name v
    | field v => exact n.assign_staysIntact name v
  | addParameter n p => exact NodeId.addParameter_staysIntact fits p
  | addChild n name child => exact NodeId.addChild_staysIntact fits name child
  | addSubmodule n name child => exact NodeId.addSubmodule_staysIntact fits name child
  | addFunction n name function => exact n.addFunction_staysIntact name function
  | removeChild n name => exact .bind (n.removeChild_staysIntact name) fun _ => .pure _
  | rename n name => exact n.change_staysIntact (fun _ => rfl) fun _ => id
  | setForwards n on => exact NodeId.changePlain_staysIntact fits (fun _ => rfl) fun _ => id
  | setShortSnapshots n on => exact NodeId.changePlain_staysIntact fits (fun _ => rfl) fun _ => id
  | registerGetter n name getter => exact NodeId.registerGetter_staysIntact fits name getter
  | registerSetter n name setter => exact NodeId.registerSetter_staysIntact fits name setter
  | request asked => exact (Interaction.request asked).staysIntact
  | connect p target link => exact (Interaction.connect p target link).staysIntact
  | listen p callback => exact (Interaction.listen p callback).staysIntact
  | disconnect p id => exact (Interaction.disconnect p id).staysIntact
  | disconnectAll p => exact (Interaction.disconnectAll p).staysIntact

private theorem SequenceCommand.staysIntact {c : SequenceCommand}
    (known : ∀ s ∈ c.sequence?, s.index < count) :
    c.act.Keeps (StaysIntact count hosts plain) := by
  cases c with
  | createPulse handle plan =>
    exact .bind (Pulse.createWith_staysIntact plan) fun n => Act.store_staysIntact handle _
  | createSequence handle name =>
    exact .bind (SequenceId.create_staysIntact name) fun s => Act.store_staysIntact handle _
  | addPulse s n => exact s.addPulse_staysIntact (known s rfl) n
  | removePulse s name => exact .bind (s.removePulse_staysIntact name) fun _ => .pure _
  | clear s => exact s.clear_staysIntact
  | setSequence s setting v =>
    exact .bind (.read fun _ => rfl) fun n => .lift (n.set_staysIntact setting.name v)
  | setPulse n setting v => exact .lift (n.set_staysIntact setting.name v)

namespace Registry

private theorem Intact.step (h : r.Intact) (activity : Activity) (fits : r.Fits activity) :
    (activity.run r).Intact := by
  have beside : r.IntactBeside r.sequences.size r.hosts r.plainNodes :=
    { h with
      many := le_rfl
      host := fun _ => id
      among := fun _ mem => mem.1
      unused := fun _ mem => mem.2 }
  cases activity with
  | interact interaction => exact (interaction.staysIntact r beside).toIntact
  | command c => exact (Command.staysIntact fits r beside).toIntact
  | sequence c => exact (SequenceCommand.staysIntact fits r beside).toIntact
  | copyPulse handle n =>
    have kept : (do Act.store handle (.pulse (← Pulse.copy n)) : Act DomainError Unit).Keeps
        (StaysIntact r.sequences.size r.hosts r.plainNodes) :=
      .bind (Pulse.copy_staysIntact n) fun _ => Act.store_staysIntact handle _
    exact (kept r beside).toIntact
  | copySequence handle s =>
    have kept : (do Act.store handle (.sequence (← s.copy)) : Act DomainError Unit).Keeps
        (StaysIntact r.sequences.size r.hosts r.plainNodes) :=
      .bind s.copy_staysIntact fun _ => Act.store_staysIntact handle _
    exact (kept r beside).toIntact

private theorem intact_start (log : Log) (now : Instant) : (start log now).Intact where
  pulse n pulse := by
    have outside : (start log now).node n = default := node_of_size_le (Nat.zero_le _)
    rw [isPulse, outside] at pulse
    exact absurd pulse (by decide)
  sequence _ inside := absurd inside (Nat.not_lt_zero _)

/-- Whatever a user did, pulses and sequences are intact. -/
theorem Operated.intact (h : Operated log now r) : r.Intact := by
  induction h with
  | start => exact intact_start log now
  | step activity _ fits ih => exact ih.step activity fits

end Registry
end LabRegistry

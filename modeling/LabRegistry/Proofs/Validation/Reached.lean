import LabRegistry.Proofs.Operation.Changes

/-!
# Cached values are accepted in every reachable state

A user makes parameters choice by choice or with a value, and does whatever else the library offers.
In every state that is reached so, a parameter that is got from its cache holds a value that its
validator accepts.
-/
namespace LabRegistry

open Registry

/-! ## Choices -/

/-- One choice about a parameter that is to be made. -/
inductive ParameterChoice where
  | label (label : String)
  | unit (unit : String)
  | initial (v : Value)
  | getCommand (command : Callable)
  | setCommand (command : Callable)
  | delegated
  | readOnly
  | validator (validator : Validator)
  | getParser (parser : Callable)
  | setParser (parser : Callable)
  | inSnapshot (shown : Bool)
  | logsChanges (on : Bool)

def ParameterChoice.apply (plan : ParameterPlan) : ParameterChoice → ParameterPlan
  | .label text => { plan with label := some text }
  | .unit text => { plan with unit := some text }
  | .initial v => { plan with initial := v }
  | .getCommand command => plan.withGetCommand command
  | .setCommand command => plan.withSetCommand command
  | .delegated => plan.delegated
  | .readOnly => plan.readOnly
  | .validator accepts => { plan with validator := accepts }
  | .getParser parser => { plan with getParser := some parser }
  | .setParser parser => { plan with setParser := some parser }
  | .inSnapshot shown => { plan with inSnapshot := shown }
  | .logsChanges on => { plan with logsChanges := on }

namespace ParameterPlan

def chosen (name : String) (choices : List ParameterChoice) : ParameterPlan :=
  choices.foldl ParameterChoice.apply { name }

variable {plan : ParameterPlan}

private theorem Direct.apply (h : plan.Direct) (choice : ParameterChoice) :
    (choice.apply plan).Direct := by
  intro cache
  cases choice with
  | getCommand command => cases cache
  | setCommand command => exact nofun
  | delegated => cases cache
  | readOnly => exact nofun
  | _ => exact h cache

private theorem chosen_direct (name : String) (choices : List ParameterChoice) :
    (chosen name choices).Direct := by
  have along (plan : ParameterPlan) (h : plan.Direct) :
      (choices.foldl ParameterChoice.apply plan).Direct := by
    induction choices generalizing plan with
    | nil => exact h
    | cons choice choices ih => exact ih _ (h.apply choice)
  exact along _ fun _ => nofun

end ParameterPlan

/-! ## Runs -/

/-- Parameters are made choice by choice. -/
def Command.Chosen (command : Command) : Prop :=
  ∀ handle plan, command = .createParameter handle plan →
    ∃ name choices, plan = .chosen name choices

theorem Command.Chosen.changes {command : Command} (h : command.Chosen) : command.act.Keeps Changes := by
  have stored (handle : String) (object : Object) :
      (Act.store handle object : Act RegistryError Unit).Keeps Changes :=
    .changeElsewhere (fun _ => rfl) fun _ => rfl
  cases command with
  | createNode handle name config =>
    exact .bind (NodeId.create_changes name config) fun n => stored handle _
  | createParameter handle plan =>
    obtain ⟨name, choices, rfl⟩ := h handle plan rfl
    exact .bind (ParameterPlan.create_changes (ParameterPlan.chosen_direct name choices))
      fun p => stored handle _
  | keep handle n => exact stored handle _
  | drop handle => exact .bind (.bind (.read fun _ => rfl) fun _ =>
      .bind (.changeElsewhere (fun _ => rfl) fun _ => rfl) fun _ => .pure _) fun _ => .pure _
  | bind n name attr => exact n.bind_changes name attr
  | addParameter n p => exact n.addParameter_changes p
  | addChild n name child => exact n.addChild_changes name child
  | addSubmodule n name child => exact n.addSubmodule_changes name child
  | addFunction n name function => exact n.addFunction_changes name function
  | removeChild n name => exact .bind (n.removeChild_changes name) fun _ => .pure _
  | rename n name => exact n.change_changes fun _ _ => id
  | setForwards n on => exact n.change_changes fun _ _ => id
  | setShortSnapshots n on => exact n.change_changes fun _ _ => id
  | registerGetter n name getter => exact n.registerGetter_changes name getter
  | registerSetter n name setter => exact n.registerSetter_changes name setter
  | request asked => exact .bind (Changes.perform asked) fun _ => .pure _
  | connect p target link => exact p.connect_changes target link
  | listen p callback => exact .bind (p.listen_changes _) fun _ => .pure _
  | disconnect p id => exact .bind (p.disconnect_changes id) fun _ => .pure _
  | disconnectAll p => exact Changes.discipline.disconnectAll p

/-- What a user can do with a registry. -/
inductive Offered : {ε α : Type} → Act ε α → Prop
  | command (c : Command) (h : c.Chosen) : Offered c.act
  | build (name : String) (choices : List ParameterChoice) :
      Offered (ParameterPlan.chosen name choices).create
  | withValue (name : String) (value : Value) :
      Offered (ParamId.withValue name value : Act RegistryError ParamId)
  | describe (p : ParamId) (label unit : Option String) :
      Offered (p.change ({ · with label, unit }) : Act RegistryError Unit)
  | setLogsChanges (p : ParamId) (on : Bool) :
      Offered (p.change ({ · with logsChanges := on }) : Act RegistryError Unit)
  | snapshot (n : NodeId) (options : SnapshotOptions) : Offered (n.snapshot options)
  | table (n : NodeId) (update : Bool) (width : Nat) : Offered (n.table update width)
  | compare (n other : NodeId) : Offered (n.sameContents other)
  | createPulse (plan : PulsePlan) : Offered (Pulse.createWith plan)
  | copyPulse (n : NodeId) : Offered (Pulse.copy n)
  | overlaps (n other : NodeId) : Offered (Pulse.overlaps n other)
  | createSequence (name : Option String) : Offered (SequenceId.create name)
  | addPulse (s : SequenceId) (pulse : NodeId) : Offered (s.addPulse pulse)
  | removePulse (s : SequenceId) (name : String) : Offered (s.removePulse name)
  | clear (s : SequenceId) : Offered s.clear
  | copySequence (s : SequenceId) : Offered s.copy
  | createInstrument (name : String) (channels : Nat) (device : DeviceId) :
      Offered (Instrument.create name channels device)
  | createStation (config : AppConfig) : Offered (Station.create config)
  /-- Whatever touches no parameter: the workbench, devices, the log. -/
  | elsewhere (f : Registry → Registry) (h : ∀ r, (f r).params = r.params) :
      Offered (Act.change f : Act RegistryError Unit)

private theorem Offered.changes {ε α : Type} {act : Act ε α} (h : Offered act) :
    act.Keeps Changes ∨ ∀ r, (act r).2.params = r.params := by
  cases h with
  | elsewhere f h => exact .inr h
  | command c h => exact .inl h.changes
  | build name choices =>
    exact .inl (ParameterPlan.create_changes (ParameterPlan.chosen_direct name choices))
  | withValue name value => exact .inl (ParamId.withValue_changes name value)
  | describe p label unit =>
    exact .inl (.change fun r => .single (.changeParameter p fun _ => ⟨rfl, rfl, rfl, rfl⟩))
  | setLogsChanges p on =>
    exact .inl (.change fun r => .single (.changeParameter p fun _ => ⟨rfl, rfl, rfl, rfl⟩))
  | snapshot n options => exact .inl (n.snapshot_changes options)
  | table n update width => exact .inl (n.table_changes update width)
  | compare n other => exact .inl (n.sameContents_changes other)
  | createPulse plan => exact .inl (Pulse.createWith_changes plan)
  | copyPulse n => exact .inl (Pulse.copy_changes n)
  | overlaps n other => exact .inl (Pulse.overlaps_changes n other)
  | createSequence name => exact .inl (SequenceId.create_changes name)
  | addPulse s pulse => exact .inl (s.addPulse_changes pulse)
  | removePulse s name => exact .inl (s.removePulse_changes name)
  | clear s => exact .inl s.clear_changes
  | copySequence s => exact .inl s.copy_changes
  | createInstrument name channels device => exact .inl (Instrument.create_changes name channels device)
  | createStation config => exact .inl (Station.create_changes config)

private theorem Offered.staysSound {ε α : Type} {act : Act ε α} (h : Offered act) :
    act.Keeps StaysSound := by
  rcases h.changes with changes | params
  · exact changes.mono fun _ _ => Changes.staysSound
  · exact fun r => .of_params (params r)

namespace Registry

/-- The states that a user can reach from an empty registry, by operations that succeed or fail. -/
inductive Reached : Registry → Prop
  | start (log : Log) (now : Instant) : Reached (.start log now)
  | step {ε α : Type} {act : Act ε α} {r : Registry} (h : Reached r) (offered : Offered act) :
      Reached (act r).2

private theorem Reached.sound {r : Registry} (h : r.Reached) : r.Sound := by
  induction h with
  | start log now => exact fun p => Parameter.sound_default
  | step h offered ih => exact offered.staysSound _ ih

/-- Whatever was done, a parameter that is got from its cache holds a value that its validator
accepts. -/
theorem accepted_of_reached {r : Registry} (h : r.Reached) (p : ParamId)
    (cache : (r.param p).getSource = .cache) :
    (r.param p).validator.validate (r.param p).value = .ok () :=
  (h.sound p).accepted cache

/-- Nine is refused between one and five, and three stays. -/
theorem accepted_of_refused_set :
    let choices : List ParameterChoice :=
      [.validator (.ints (some 1) (some 5)), .initial (.ofInteger { val := 3 })]
    let built := ((ParameterPlan.chosen "averages" choices).create (.start {} default)).2
    let after := ((Command.request (.set ⟨0⟩ (.ofInteger { val := 9 }))).act built).2
    (after.param ⟨0⟩).getSource = .cache ∧ (after.param ⟨0⟩).value.toInt64? = some 3 ∧
      (after.param ⟨0⟩).validator.validate (after.param ⟨0⟩).value = .ok () := by
  intro choices built after
  have reached : after.Reached :=
    .step (.step (.start {} default) (.build "averages" choices)) (.command _ fun _ _ => nofun)
  have cache : (after.param ⟨0⟩).getSource = .cache := rfl
  exact ⟨cache, rfl, accepted_of_reached reached ⟨0⟩ cache⟩

end Registry
end LabRegistry

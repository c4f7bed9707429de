import LabRegistry.Proofs.Sequence.Membership

/-!
# What operations leave of handles

Setting values, adding pulses and removing them change no handle, so whatever the user holds stays
alive.
-/
namespace LabRegistry

open Registry

variable {ε α β : Type}

def Registry.SameHandles (r after : Registry) : Prop := after.bench.handles = r.bench.handles

instance : IsPreorder Registry SameHandles where
  refl _ := rfl
  trans _ _ _ h h' := Eq.trans h' h

private theorem Effect.sameHandles {r after : Registry} (h : Effect r after) :
    r.SameHandles after := by
  cases h <;> rfl

private theorem Effects.sameHandles {r after : Registry} (h : Effects r after) :
    r.SameHandles after := by
  induction h with
  | refl => exact refl r
  | tail _ effect ih => exact IsTrans.trans _ _ _ ih effect.sameHandles

namespace Act.Keeps

theorem sameHandles {act : Act ε α} (h : act.Keeps Effects) : act.Keeps SameHandles :=
  h.mono fun _ _ => Effects.sameHandles

theorem lift {R : Registry → Registry → Prop} {act : Act RegistryError α} (h : act.Keeps R) :
    (liftM act : Act DomainError α).Keeps R := by
  intro r
  rw [Act.lift_state]
  exact h r

private theorem holding {n : NodeId} {act : Act ε α} (h : act.Keeps SameHandles) :
    (Act.holding n act).Keeps SameHandles :=
  fun r => h { r with inUse := n :: r.inUse }

private theorem noted {level : LogLevel} (n : NodeId) (before after : String) :
    (Act.writeLog level (do return before ++ (← n.displayName) ++ after) : Act ε Unit).Keeps
      SameHandles :=
  .writeLog (.bind (.orEndless _) fun _ => .pure _) fun _ _ => rfl

end Act.Keeps

namespace NodeId

private theorem get_sameHandles (n : NodeId) (name : String) : (n.get name).Keeps SameHandles :=
  .bind (Effects.parameter n name).sameHandles fun p => (Effects.get p).sameHandles

theorem set_sameHandles (n : NodeId) (name : String) (v : Value) :
    (n.set name v).Keeps SameHandles :=
  .bind (Effects.parameter n name).sameHandles fun p => (Effects.set p v).sameHandles

private theorem addChild_sameHandles (n : NodeId) (name : String) (child : NodeId) :
    (n.addChild name child).Keeps SameHandles := by
  intro r
  obtain ⟨mid, rehung, ⟨halt, run⟩ | ⟨-, run⟩⟩ := addChild_run n child name r
  all_goals
    rw [run]
    exact congrArg (·.handles) rehung.bench

private theorem removeChild_sameHandles (n : NodeId) (name : String) :
    (n.removeChild name).Keeps SameHandles := by
  refine .bind (.read fun _ => rfl) fun node => ?_
  split
  · exact .bind (.orEndless _) fun _ => .fail _
  case h_2 child _ =>
    have left : (child.leaveParent n : Act RegistryError Unit).Keeps SameHandles := fun r =>
      congrArg Workbench.handles (leaveParent_rehung child n name r).bench
    exact .bind (.change fun _ => rfl) fun _ => .bind left fun _ => .bind (.noted _ _ _) fun _ =>
      .pure _

end NodeId

namespace SequenceId

def enter (s : SequenceId) (n pulse : NodeId) (name : String) : Act DomainError Unit := do
  n.addChild name pulse
  let duration ← n.parameter "duration"
  let link ← (← pulse.parameter "t_stop").listen (.callback (.refreshOwned duration))
  s.change fun seq => { seq with stopLinks := seq.stopLinks.insert name link }
  s.freeDuration
  Act.debug do
    return "added pulse '" ++ name ++ "' to sequence '" ++ (← n.displayName) ++ "'"

def leave (s : SequenceId) (n pulse : NodeId) (name : String) : Act DomainError Unit := do
  s.unlink pulse name
  let _ ← n.removeChild name
  s.freeDuration
  Act.debug do
    return "removed pulse '" ++ name ++ "' from sequence '" ++ (← n.displayName) ++ "'"

theorem freeDuration_effects (s : SequenceId) : s.freeDuration.Keeps Effects :=
  .bind (.change fun r => .single (.duration r s none)) fun _ => .bind (.read fun _ => rfl) fun n =>
    .bind (Effects.parameter n _) fun p => .bind (Effects.perform (.update p)) fun _ => .pure _

private theorem freeDuration_sameHandles (s : SequenceId) : s.freeDuration.Keeps SameHandles :=
  s.freeDuration_effects.sameHandles

theorem refuseOverlap_effects (pulse : NodeId) (name : String) (others : List NodeId) :
    (refuseOverlap pulse name others).Keeps Effects := by
  have number (n : NodeId) (name : String) : (Pulse.number? n name).Keeps Effects :=
    .bind (.lift (.bind (Effects.parameter n name) Effects.get)) fun _ => .pure _
  have interval (n : NodeId) : (Pulse.interval? n).Keeps Effects :=
    .bind (number n _) fun _ => .bind (number n _) fun _ => .pure _
  induction others with
  | nil => exact .pure _
  | cons other rest ih =>
    refine .bind (.read other.isEnabled_read) fun enabled => ?_
    dsimp only
    split
    · refine .bind (.bind (interval pulse) fun _ => .bind (interval other) fun _ => .pure _)
        fun meets => ?_
      split
      · exact .bind (.read fun _ => rfl) fun _ => .bind (.fail _) fun _ => ih
      · exact ih
    · exact ih

private theorem refuseOverlap_sameHandles (pulse : NodeId) (name : String) (others : List NodeId) :
    (refuseOverlap pulse name others).Keeps SameHandles :=
  (refuseOverlap_effects pulse name others).sameHandles

private theorem enter_sameHandles (s : SequenceId) (n pulse : NodeId) (name : String) :
    (s.enter n pulse name).Keeps SameHandles :=
  .bind (.lift (n.addChild_sameHandles name pulse)) fun _ =>
    .bind (.lift (Effects.parameter n _).sameHandles) fun _ =>
      .bind (.lift (Effects.parameter pulse _).sameHandles) fun p =>
        .bind (Effects.listen p _).sameHandles fun _ => .bind (.change fun _ => rfl) fun _ =>
          .bind (.lift s.freeDuration_sameHandles) fun _ => .noted _ _ _

theorem addPulse_sameHandles (s : SequenceId) (pulse : NodeId) :
    (s.addPulse pulse).Keeps SameHandles := by
  refine .bind (.read fun _ => rfl) fun n => .bind (.read fun _ => rfl) fun node => ?_
  split
  case h_2 => exact .fail _
  case h_1 name _ =>
    have unguarded : (do
        if (← n.get "allow_pulse_overlap") == .bool false then
          refuseOverlap pulse name (← s.pulses)
        s.enter n pulse name : Act DomainError Unit).Keeps SameHandles := by
      refine .bind (.lift (n.get_sameHandles _)) fun overlap => ?_
      dsimp only
      split
      · exact .bind (.read fun _ => rfl) fun others =>
          .bind (refuseOverlap_sameHandles pulse name others) fun _ => s.enter_sameHandles n pulse name
      · exact s.enter_sameHandles n pulse name
    refine .bind (.attempt (.read (n.find_read _ name))) fun taken => ?_
    dsimp only
    split
    · exact .bind (.fail _) fun _ => unguarded
    · exact unguarded

private theorem unlink_sameHandles (s : SequenceId) (pulse : NodeId) (name : String) :
    (s.unlink pulse name).Keeps SameHandles := by
  refine .bind (.read fun _ => rfl) fun sequence => .bind (.change fun _ => rfl) fun _ => ?_
  split
  · exact .bind (Effects.parameter pulse _).sameHandles fun p =>
      .bind (Effects.disconnect p _).sameHandles fun _ => .pure _
  · exact .pure _

theorem leave_sameHandles (s : SequenceId) (n pulse : NodeId) (name : String) :
    (s.leave n pulse name).Keeps SameHandles :=
  .bind (.lift (s.unlink_sameHandles pulse name)) fun _ =>
    .bind (.lift (n.removeChild_sameHandles name)) fun _ =>
      .bind (.lift s.freeDuration_sameHandles) fun _ => .noted _ _ _

theorem pulse_effects (s : SequenceId) (name : String) : (s.pulse name).Keeps Effects := by
  refine .bind (.read fun _ => rfl) fun n => .bind (.lift (.read (n.find_read _ name))) fun child =>
    .bind .registry fun r => ?_
  split
  · exact .pure _
  · exact .fail _

theorem removePulse_sameHandles (s : SequenceId) (name : String) :
    (s.removePulse name).Keeps SameHandles :=
  .bind (.read fun _ => rfl) fun n => .bind (s.pulse_effects name).sameHandles fun pulse =>
    .bind (.holding (s.leave_sameHandles n pulse name)) fun _ => .pure _

theorem clear_sameHandles (s : SequenceId) : s.clear.Keeps SameHandles := by
  refine .bind .registry fun r => .bind (.read fun _ => rfl) fun n => .forM (fun entry => ?_) _
  exact .bind (s.removePulse_sameHandles entry.1) fun _ => .pure _

end SequenceId
end LabRegistry

import LabRegistry.Proofs.Pulse.Times
import LabRegistry.Proofs.Sequence.Operated

/-!
# A sequence that refuses a pulse stays as it was

All checks of a pulse come before it is entered, so a pulse that is refused leaves everything as it
was. Only then the duration is refreshed, which runs the listeners of the duration. If one of these
fails, adding fails too, and the pulse is in.
-/
namespace LabRegistry

open Registry

namespace SequenceId

def seat (s : SequenceId) (n pulse : NodeId) (name : String) : Act DomainError Unit := do
  n.addChild name pulse
  let duration ← n.parameter "duration"
  let link ← (← pulse.parameter "t_stop").listen (.callback (.refreshOwned duration))
  s.change fun seq => { seq with stopLinks := seq.stopLinks.insert name link }

/-- Adds a pulse and gives its name, and leaves the duration as it is. -/
def accept (s : SequenceId) (pulse : NodeId) : Act DomainError String := do
  let n ← s.node
  let some name := (← pulse.state).name | Act.fail .unnamedPulse
  if (← (n.child name).attempt).isSome then Act.fail (.pulseNameTaken name)
  if (← n.get "allow_pulse_overlap") == .bool false then refuseOverlap pulse name (← s.pulses)
  s.seat n pulse name
  return name

def settle (s : SequenceId) (n : NodeId) (name : String) : Act DomainError Unit := do
  s.freeDuration
  Act.debug do
    return "added pulse '" ++ name ++ "' to sequence '" ++ (← n.displayName) ++ "'"

end SequenceId

variable {r mid after : Registry} {s : SequenceId} {n m pulse : NodeId} {name : String}
  {cause : DomainError} {log : Log} {now : Instant}

namespace SequenceId

private theorem enter_eq (s : SequenceId) (n pulse : NodeId) (name : String) :
    s.enter n pulse name = s.seat n pulse name >>= fun _ => s.settle n name := by
  simp only [enter, seat, settle, bind_assoc]

private theorem accept_steps (s : SequenceId) (pulse : NodeId) (r : Registry) :
    s.accept pulse r = match (r.node pulse).name with
      | none => (.error (.failed .unnamedPulse), r)
      | some name =>
        if (r.node (r.nodeOf s)).children.contains name then
          (.error (.failed (.pulseNameTaken name)), r)
        else if r.displayName? (r.nodeOf s) = none then (.error .endless, r)
        else (do
          if (← (r.nodeOf s).get "allow_pulse_overlap") == .bool false then
            refuseOverlap pulse name (← s.pulses)
          s.seat (r.nodeOf s) pulse name
          return name : Act DomainError String) r := by
  have owner : (s.node : Act DomainError NodeId) r = (.ok (r.nodeOf s), r) := rfl
  rw [accept, Act.bind_run, owner]
  dsimp only
  rw [Act.bind_run, NodeId.state_run]
  dsimp only
  cases (r.node pulse).name with
  | none => rfl
  | some name =>
    dsimp only
    rw [Act.bind_run, NodeId.child, NodeId.find_attempt, OrderedMap.contains]
    cases (r.node (r.nodeOf s)).children.get? name with
    | some _ => rfl
    | none => cases r.displayName? (r.nodeOf s) <;> rfl

private theorem addPulse_eq_accept (s : SequenceId) (pulse : NodeId) (r : Registry) :
    s.addPulse pulse r = (s.accept pulse >>= s.settle (r.nodeOf s)) r := by
  rw [addPulse_steps, Act.bind_run, accept_steps]
  cases (r.node pulse).name with
  | none => rfl
  | some name =>
    dsimp only
    split_ifs
    · rfl
    · rfl
    · rw [← Act.bind_run, bind_assoc]
      refine congrFun (congrArg _ (funext fun allowed => ?_)) r
      split <;> simp only [enter_eq, bind_assoc, pure_bind]

end SequenceId

namespace Registry

/-- The members of a sequence, the listeners that it keeps and its fixed duration, and the name and the
parent of a pulse and the listeners of its stop, are as before. -/
structure AsBefore (r : Registry) (s : SequenceId) (n : NodeId) (after : Registry) : Prop where
  children : (after.node (r.nodeOf s)).children = (r.node (r.nodeOf s)).children
  stopLinks : (after.sequence s).stopLinks = (r.sequence s).stopLinks
  fixedDuration : (after.sequence s).fixedDuration = (r.sequence s).fixedDuration
  name : (after.node n).name = (r.node n).name
  parent : (after.node n).parent = (r.node n).parent
  listeners : (after.param (r.stopOf n)).listeners = (r.param (r.stopOf n)).listeners

private theorem SameWiring.asBefore (h : r.SameWiring after) : r.AsBefore s n after where
  children := by rw [h.nodes.node]
  stopLinks := by rw [h.sequence]
  fixedDuration := by rw [h.sequence]
  name := by rw [h.nodes.node]
  parent := by rw [h.nodes.node]
  listeners := h.listeners _

end Registry

namespace SequenceId

private theorem refuseOverlap_outcome (wired : r.PulseWired n (r.firstParam n)) (name : String)
    (others : List NodeId) (all : ∀ m ∈ others, r.PulseWired m (r.firstParam m)) :
    ∃ after, r.Reread after ∧ (refuseOverlap n name others r = (.ok (), after) ∨
      ∃ cause, refuseOverlap n name others r = (.error (.failed cause), after)) := by
  induction others generalizing r with
  | nil => exact ⟨r, refl r, .inl rfl⟩
  | cons m rest ih =>
    have later {mid : Registry} (same : r.Reread mid) : ∃ after, r.Reread after ∧
        (refuseOverlap n name rest mid = (.ok (), after) ∨
          ∃ cause, refuseOverlap n name rest mid = (.error (.failed cause), after)) := by
      obtain ⟨after, same', outcome⟩ := ih (same.wiring.pulseWired wired)
        fun m mem => same.wiring.pulseWired (all m (List.mem_cons_of_mem _ mem))
      exact ⟨after, IsTrans.trans _ _ _ same same', outcome⟩
    rw [refuseOverlap, Act.bind_run, (all m List.mem_cons_self).isEnabled_run]
    dsimp only
    cases r.isEnabled m with
    | false => exact later (refl r)
    | true =>
      obtain ⟨mid, run, same⟩ := wired.overlaps_rereads (all m List.mem_cons_self)
      rw [if_pos rfl, Act.bind_run, run]
      dsimp only
      cases Pulse.intervalsMeet (r.times n) (r.times m) with
      | false => exact later same
      | true => exact ⟨mid, same, .inr ⟨_, rfl⟩⟩

end SequenceId

private theorem NodeId.addChild_refused {cause : RegistryError}
    (run : n.addChild name m r = (.error (.failed cause), after)) : after = r := by
  by_cases admits : (r.node n).Admits .parameterNode name
  · by_cases enclosed : r.Encloses m n
    · rw [addChild, attach_cyclic admits enclosed] at run
      exact (congrArg Prod.snd run).symm
    · obtain ⟨mid, -, ⟨stopped, -⟩ | entered⟩ := attach_open
        (fun node => { node with children := node.children.insert name m }) admits enclosed
      · rw [addChild, stopped] at run
        cases run
      · rw [addChild, entered] at run
        cases run
  · obtain ⟨_, -, taken⟩ := attach_taken m
      (fun node => { node with children := node.children.insert name m }) admits
    rw [addChild, taken] at run
    exact (congrArg Prod.snd run).symm

namespace SequenceId

private theorem seat_outcome (fitted : r.Fitted n (r.firstParam n) plans)
    (fitted' : r.Fitted pulse (r.firstParam pulse) Pulse.plans) (inside : n.index < r.nodes.size)
    (other : n ≠ pulse) (named : (r.node pulse).name = some name) :
    (∃ after, s.seat n pulse name r = (.ok (), after) ∧
      (after.node n).children = (r.node n).children.insert name pulse) ∨
    ∃ halt after, s.seat n pulse name r = (.error halt, after) ∧
      ∀ cause, halt = .failed cause → after = r := by
  obtain ⟨mid, rehung, ⟨halt, run⟩ | ⟨-, run⟩⟩ := NodeId.addChild_run n pulse name r
  · refine .inr ⟨halt.map .registry, mid, ?_, fun cause failed => ?_⟩
    · rw [seat, Act.bind_run, Act.lift_error run]
    · cases halt with
      | failed cause => exact NodeId.addChild_refused run
      | _ => cases failed
  · let entered : Registry := { mid with nodes := mid.nodes.change n.index fun node =>
      { node with children := node.children.insert name pulse } }
    have owner : entered.node n = { r.node n with children := (r.node n).children.insert name pulse } := by
      have changed := mid.node_change n n fun node =>
        { node with children := node.children.insert name pulse }
      rwa [if_pos ⟨rfl, rehung.size ▸ inside⟩, rehung.others n other] at changed
    have duration : (entered.node n).parameters.get? "duration" = some ⟨r.firstParam n + 2⟩ := by
      rw [owner]
      exact fitted.get? (i := 2) rfl
    have stop : (entered.node pulse).parameters.get? "t_stop" = some ⟨r.firstParam pulse + 3⟩ := by
      have same : entered.node pulse = mid.node pulse :=
        (mid.node_change n pulse _).trans (if_neg fun both => other both.1.symm)
      have parameters : (mid.node pulse).parameters = (r.node pulse).parameters :=
        congrArg (·.parameters) (rehung.self named)
      rw [same, parameters]
      exact fitted'.get? (i := 3) rfl
    have steps : s.seat n pulse name r = (do
        let link ← ParamId.listen ⟨r.firstParam pulse + 3⟩
          (.callback (.refreshOwned ⟨r.firstParam n + 2⟩))
        s.change fun seq => { seq with stopLinks := seq.stopLinks.insert name link } :
          Act DomainError Unit) entered := by
      rw [seat, Act.bind_run, Act.lift_ok run]
      dsimp only
      rw [Act.bind_run, Act.lift_ok (NodeId.parameter_run duration)]
      dsimp only
      rw [Act.bind_run, Act.lift_ok (NodeId.parameter_run stop)]
    exact .inl ⟨_, steps.trans rfl, congrArg (·.children) owner⟩

/-- What comes of accepting a pulse: it is a member under a name that was free, or it was refused with
everything as before, or accepting it does not end. -/
inductive Acceptance (r : Registry) (s : SequenceId) (n : NodeId) :
    Except (Halt DomainError) String × Registry → Prop
  | accepted {name : String} {after : Registry}
      (fresh : (r.node (r.nodeOf s)).children.contains name = false)
      (member : (after.node (r.nodeOf s)).children.get? name = some n) :
      Acceptance r s n (.ok name, after)
  | refused {cause : DomainError} {after : Registry} (same : r.AsBefore s n after) :
      Acceptance r s n (.error (.failed cause), after)
  | stopped {halt : Halt DomainError} {after : Registry} (noError : ∀ cause, halt ≠ .failed cause) :
      Acceptance r s n (.error halt, after)

/-- After the checks, which only read, a pulse is entered or refused. -/
theorem seat_acceptance (h : r.Intact) (hs : s.index < r.sequences.size)
    (wired : r.PulseWired n (r.firstParam n)) (named : (r.node n).name = some name)
    (fresh : (r.node (r.nodeOf s)).children.contains name = false) (same : r.Reread mid) :
    Acceptance r s n ((do
      s.seat (r.nodeOf s) n name
      return name : Act DomainError String) mid) := by
  have intact := h.sequence s hs
  have wiring := same.wiring
  have other : r.nodeOf s ≠ n := by
    rintro rfl
    have pulse := isPulse_of_config wired.config
    rw [intact.isPulse_eq_false] at pulse
    cases pulse
  have fitted : mid.Fitted (r.nodeOf s) (mid.firstParam (r.nodeOf s)) plans := by
    rw [wiring.firstParam]
    exact intact.fitted.of_same wiring.nodes wiring.setups
  have named' : (mid.node n).name = some name := by rw [wiring.nodes.node, named]
  obtain ⟨after, run, children⟩ | ⟨halt, after, run, stays⟩ := seat_outcome (s := s) fitted
    (same.wiring.pulseWired wired).fitted (wiring.nodes.nodes ▸ intact.inside) other named'
  all_goals rw [Act.bind_run, run]
  · refine .accepted fresh ?_
    rw [children, OrderedMap.get?_insert, if_pos rfl]
  · cases halt with
    | failed cause =>
      obtain rfl := stays cause rfl
      exact .refused wiring.asBefore
    | _ => exact .stopped nofun

private theorem accept_outcome (h : r.Intact) (hs : s.index < r.sequences.size)
    (alive : r.isAlive (r.nodeOf s) = true) (wired : r.PulseWired n (r.firstParam n)) :
    Acceptance r s n (s.accept n r) := by
  rw [accept_steps]
  split
  case h_1 => exact .refused (SameWiring.asBefore (refl r))
  case h_2 name named =>
    split_ifs with taken nameless
    · exact .refused (SameWiring.asBefore (refl r))
    · exact .stopped nofun
    · have fresh := Bool.eq_false_of_not_eq_true taken
      have asked : ((r.nodeOf s).get "allow_pulse_overlap").Reads r _ False :=
        .of_getWith 1 (by decide) ((h.sequence s hs).fitted.getWith_reads (i := 0) rfl rfl _)
      obtain ⟨mid, got, same⟩ := asked.rereads.lift
      rw [Act.bind_run, got]
      dsimp only
      split
      case isFalse => exact seat_acceptance h hs wired named fresh same
      case isTrue =>
        have members : (s.pulses : Act DomainError (List NodeId)) mid =
            (.ok (r.pulses (r.nodeOf s)), mid) := by
          rw [← same.wiring.nodes.pulses, ← same.wiring.nodeOf]
          rfl
        obtain ⟨after, same', outcome⟩ := refuseOverlap_outcome (same.wiring.pulseWired wired) name
          (r.pulses (r.nodeOf s)) fun m mem =>
            same.wiring.pulseWired (h.wired_of_mem_pulses alive mem)
        have both : r.Reread after := IsTrans.trans _ _ _ same same'
        rw [Act.bind_run, members]
        dsimp only
        rw [Act.bind_run]
        obtain run | ⟨cause, run⟩ := outcome
        all_goals rw [run]
        · exact seat_acceptance h hs wired named fresh both
        · exact .refused both.wiring.asBefore

private theorem settle_effects (s : SequenceId) (n : NodeId) (name : String) :
    (s.settle n name).Keeps Effects :=
  .bind (.lift s.freeDuration_effects) fun _ =>
    .writeLog (.bind (.orEndless _) fun _ => .pure _) fun r _ => .single (.log r _)

/-- If adding a pulse gives an error, whatever listeners there are, everything is as before if and only if
the pulse was not accepted. If it was, then refreshing the duration gave the error, and the pulse is a
member. -/
theorem addPulse_error_asBefore_iff (operated : Operated log now r) (hs : s.index < r.sequences.size)
    (alive : r.isAlive (r.nodeOf s) = true) (pulse : r.isPulse n = true) (alive' : r.isAlive n = true)
    (failed : s.addPulse n r = (.error (.failed cause), after)) :
    (r.AsBefore s n after ↔ (s.accept n r).1.toOption = none) ∧
      ∀ name, (s.accept n r).1 = .ok name → (after.node (r.nodeOf s)).children.get? name = some n := by
  have intact := operated.intact
  have outcome := accept_outcome intact hs alive ((intact.pulse n pulse).wired alive')
  rw [addPulse_eq_accept, Act.bind_run] at failed
  rcases run : s.accept n r with ⟨halt | name, mid⟩
  all_goals rw [run] at outcome failed
  · cases outcome with
    | refused same =>
      cases failed
      exact ⟨iff_of_true same rfl, nofun⟩
    | stopped noError =>
      cases failed
      exact absurd rfl (noError cause)
  · cases outcome with
    | accepted fresh member =>
      dsimp only at failed
      have settled := (settle_effects s (r.nodeOf s) name mid).sameNodes
      rw [failed] at settled
      rw [← settled.node] at member
      refine ⟨iff_of_false (fun same => ?_) nofun, ?_⟩
      · rw [same.children] at member
        rw [OrderedMap.contains, member] at fresh
        cases fresh
      · rintro _ ⟨⟩
        exact member

/-- A pulse that is in already is refused, and everything is as before. -/
theorem addPulse_again_asBefore :
    let sequence : Activity := .sequence (.createSequence "s" none)
    let pulse : Activity := .sequence (.createPulse "p" { name := some "p" })
    let made := pulse.run (sequence.run (start {} default))
    let r := (Activity.sequence (.addPulse ⟨0⟩ ⟨1⟩)).run made
    ∃ after, addPulse ⟨0⟩ ⟨1⟩ r = (.error (.failed (.pulseNameTaken "p")), after) ∧
      r.AsBefore ⟨0⟩ ⟨1⟩ after := by
  intro sequence pulse made r
  have known : ∀ s ∈ (SequenceCommand.addPulse ⟨0⟩ ⟨1⟩).sequence?, s.index < made.sequences.size := by
    rintro _ ⟨⟩
    decide +kernel
  have operated : Operated {} default r := .step _ (.step pulse (.step sequence .start nofun) nofun) known
  have named : (r.node ⟨1⟩).name = some "p" := by decide +kernel
  have taken : (r.node (r.nodeOf ⟨0⟩)).children.contains "p" = true := by decide +kernel
  have failed : addPulse ⟨0⟩ ⟨1⟩ r = (.error (.failed (.pulseNameTaken "p")), r) := by
    rw [addPulse_steps, named]
    exact if_pos taken
  exact ⟨r, failed, (addPulse_error_asBefore_iff operated (by decide +kernel) (by decide +kernel)
    (by decide +kernel) (by decide +kernel) failed).1.mpr (by decide +kernel)⟩

def isError {α : Type} : Except (Halt DomainError) α → Bool
  | .error (.failed _) => true
  | _ => false

private theorem exists_error {α : Type} {outcome : Except (Halt DomainError) α × Registry}
    (h : isError outcome.1 = true) : ∃ cause, outcome = (.error (.failed cause), outcome.2) := by
  rcases outcome with ⟨⟨cause | _ | _⟩ | _, after⟩
  case error.failed => exact ⟨cause, rfl⟩
  all_goals cases h

/-- A listener of the duration fails, so adding a pulse fails, and the pulse is in the sequence. -/
theorem addPulse_error_enters :
    let sequence : Activity := .sequence (.createSequence "s" none)
    let listen : Activity := .interact (.listen ⟨2⟩ (.script (.mk [.fail "no"] none)))
    let pulse : Activity := .sequence (.createPulse "p" {
      name := some "p"
      start := some (.ofInteger { val := 1 })
      duration := some (.ofInteger { val := 2 }) })
    let r := pulse.run (listen.run (sequence.run (start {} default)))
    Operated {} default r ∧ ∃ cause after, addPulse ⟨0⟩ ⟨1⟩ r = (.error (.failed cause), after) ∧
      ¬ r.AsBefore ⟨0⟩ ⟨1⟩ after := by
  intro sequence listen pulse r
  have fails : isError (addPulse ⟨0⟩ ⟨1⟩ r).1 = true := by decide +kernel
  have joined : ((addPulse ⟨0⟩ ⟨1⟩ r).2.node (r.nodeOf ⟨0⟩)).children.contains "p" = true := by
    decide +kernel
  have fresh : (r.node (r.nodeOf ⟨0⟩)).children.contains "p" = false := by decide +kernel
  obtain ⟨cause, failed⟩ := exists_error fails
  refine ⟨.step pulse (.step listen (.step sequence .start nofun) trivial) nofun, cause, _, failed,
    fun same => ?_⟩
  rw [same.children, fresh] at joined
  cases joined

end SequenceId
end LabRegistry

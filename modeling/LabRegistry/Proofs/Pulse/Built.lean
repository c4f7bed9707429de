import LabRegistry.Proofs.Pulse.Given
import LabRegistry.Proofs.Sequence.Commands
import LabRegistry.Proofs.Validation.Bounds

/-!
# What becomes of a plan

Nobody hears of a new pulse but the pulse itself, so its plan alone decides whether it can be made and
which values it has then. The order in which the plan was put together does not matter, and a stop comes
to the same as the duration that is left after the start.
-/
namespace LabRegistry

open Registry

variable {ε : Type} {r r' after : Registry} {n : NodeId} {i : Nat} {name : Option String}
  {plan : ParameterPlan} {v : Value} {values : String → Value}

/-! ## Values by name -/

namespace Pulse

def settle (values : String → Value) : String → Value :=
  Function.update values "t_stop" (((values "t_start").add? (values "duration")).getD .null)

private theorem settle_stop : settle values "t_stop" =
    ((values "t_start").add? (values "duration")).getD .null :=
  Function.update_self ..

private theorem settle_of_ne {parameter : String} (ne : parameter ≠ "t_stop") :
    settle values parameter = values parameter :=
  Function.update_of_ne ne ..

/-- Whether a parameter of a pulse of this name, which is in no sequence, accepts the value. -/
def check (name : Option String) (plan : ParameterPlan) (v : Value) : Except RegistryError Unit :=
  (plan.validator.validate v).mapError
    (.invalidValue (nameSeparator.intercalate (name.toList ++ [plan.name])))

def assign (name : Option String) (plan : ParameterPlan) (v : Value) (values : String → Value) :
    Except RegistryError (String → Value) :=
  (check name plan v).map fun _ => settle (Function.update values plan.name v)

def assignStop (name : Option String) (v : Value) (values : String → Value) :
    Except RegistryError (String → Value) := do
  check name plans[3] v
  let duration ← v.requireSub (values "t_start")
  assign name plans[2] duration values

def initialValues (name : String) : Value :=
  ((plans.find? (·.name = name)).map (·.initial)).getD .null

private theorem initialValues_name : ∀ plan ∈ plans, plan.initial = initialValues plan.name := by
  simp only [plans, List.forall_mem_cons]
  exact ⟨rfl, rfl, rfl, rfl, rfl, List.forall_mem_nil _⟩

def assignGiven (set : Value → (String → Value) → Except RegistryError (String → Value))
    (v : Option Value) (values : String → Value) : Except DomainError (String → Value) :=
  match v with
  | some v => (set v values).mapError .registry
  | none => .ok values

def assignAll (plan : PulsePlan) (values : String → Value) : Except DomainError (String → Value) := do
  let values ← assignGiven (assign plan.name plans[1]) plan.start values
  let values ← assignGiven (assign plan.name plans[2]) plan.duration values
  let values ← assignGiven (assignStop plan.name) plan.stop values
  let values ← assignGiven (assign plan.name plans[4]) plan.amplitude values
  assignGiven (assign plan.name plans[0]) (plan.enabled.map .bool) values

/-- The values of the pulse that is made as planned, or the reason why there is none. -/
def outcome (plan : PulsePlan) : Except DomainError (String → Value) :=
  if plan.duration.isSome && plan.stop.isSome then .error .durationAndStop
  else assignAll plan initialValues

end Pulse

namespace Registry

private theorem Gave.cached_eq (gave : r.Gave n i v after) (wired : r.PulseWired n (r.firstParam n))
    (hi : Pulse.plans[i]? = some plan) (away : i ≠ 3) (current : after.StopCurrent n) :
    after.cached n = Pulse.settle (Function.update (r.cached n) plan.name v) := by
  have fitted := (gave.wiring.pulseWired wired).fitted
  have given {j : Nat} {other : ParameterPlan} (hj : Pulse.plans[j]? = some other) (ne : j ≠ 3) :
      after.cached n other.name = Function.update (r.cached n) plan.name v other.name := by
    by_cases same : other.name = plan.name
    · obtain rfl := fitted.place_inj hi hj same
      rw [same, Function.update_self, gave.cached_self wired hi]
    · have apart : j ≠ i := by
        rintro rfl
        cases hi.symm.trans hj
        exact same rfl
      rw [Function.update_of_ne same, gave.cached wired hj apart ne]
  have stop : after.cached n "t_stop" =
      ((after.cached n "t_start").add? (after.cached n "duration")).getD .null := by
    have start : after.cached n "t_start" = _ := fitted.cached (i := 1) rfl
    have duration : after.cached n "duration" = _ := fitted.cached (i := 2) rfl
    rw [start, duration]
    exact (fitted.cached (i := 3) rfl).trans current
  refine fitted.cached_eq_values (fun j other hj => ?_) fun parameter unknown => ?_
  · rw [← fitted.cached hj]
    by_cases same : j = 3
    · subst same
      cases hj
      have start : after.cached n "t_start" = _ := given (j := 1) rfl (by decide)
      have duration : after.cached n "duration" = _ := given (j := 2) rfl (by decide)
      change after.cached n "t_stop" = Pulse.settle _ "t_stop"
      rw [Pulse.settle_stop, ← start, ← duration, stop]
    · have apart : other.name ≠ "t_stop" := fun stop => same (fitted.place_inj (i := 3) rfl hj stop)
      rw [Pulse.settle_of_ne apart, given hj same]
  · have ne {j : Nat} {other : ParameterPlan} (hj : Pulse.plans[j]? = some other) :
        parameter ≠ other.name := by
      rintro rfl
      exact unknown (List.mem_map_of_mem (List.mem_of_getElem? hj))
    rw [Pulse.settle_of_ne (ne (j := 3) rfl), Function.update_of_ne (ne hi),
      wired.fitted.cached_of_unknown unknown]

/-! ## Pulses that nobody else hears of -/

/-- A pulse that is in no sequence, with a stop that is up to date and that nobody hears of. -/
structure Lone (r : Registry) (n : NodeId) (name : Option String) : Prop extends r.PulseReady n where
  unheard : (r.param (r.stopOf n)).listeners = []
  current : r.StopCurrent n
  top : (r.node n).parent = none
  named : (r.node n).name = name

private theorem SameWiring.lone (h : r.SameWiring after) (lone : r.Lone n name)
    (current : after.StopCurrent n) :
    after.Lone n name where
  toPulseReady := h.pulseReady lone.toPulseReady
  unheard := by rw [h.stopOf, h.listeners, lone.unheard]
  current := current
  top := by rw [h.nodes.node, lone.top]
  named := by rw [h.nodes.node, lone.named]

private theorem Equipped.lone
    (h : Equipped { r with nodes := r.nodes.push { name, config := Pulse.config } }
    after ⟨r.nodes.size⟩) (held : ⟨r.nodes.size⟩ ∈ after.inUse) :
    after.Lone ⟨r.nodes.size⟩ name ∧ after.cached ⟨r.nodes.size⟩ = Pulse.initialValues := by
  have node := node_push r { name, config := Pulse.config } ⟨r.nodes.size⟩
  rw [if_pos rfl] at node
  obtain ⟨ready, current, first⟩ := h.pulseReady (congrArg (·.config) node)
    (congrArg Node.held node) (isAlive_iff.mpr ⟨_, List.mem_append_left _ held, .refl⟩)
  refine ⟨⟨ready, h.unheard, current, ?_, ?_⟩, ?_⟩
  · rw [h.node]
    exact congrArg (·.parent) node
  · rw [h.node]
    exact congrArg (·.name) node
  · refine h.fitted.cached_eq_values (fun i plan hi => (h.cache i plan hi).trans ?_) fun name unknown => ?_
    · exact Pulse.initialValues_name plan (List.mem_of_getElem? hi)
    · rw [Pulse.initialValues, List.find?_eq_none.mpr]
      · rfl
      · intro plan mem same
        exact unknown (List.mem_map.mpr ⟨plan, mem, of_decide_eq_true same⟩)

namespace Lone

variable (lone : r.Lone n name)

include lone

private theorem naming (hi : Pulse.plans[i]? = some plan) (cause : String → RegistryError) :
    r.naming ⟨r.firstParam n + i⟩ cause =
      .failed (cause (nameSeparator.intercalate (name.toList ++ [plan.name]))) := by
  have called : r.paramName? ⟨r.firstParam n + i⟩ =
      some (nameSeparator.intercalate (name.toList ++ [plan.name])) := by
    rw [paramName?, lone.fitted.owner? hi lone.alive]
    dsimp only
    rw [path?_of_top lone.top, lone.named, lone.fitted.name hi]
    rfl
  rw [Registry.naming, called]

end Lone
end Registry

/-- The operation fails with the error, or it leaves the pulse with the values and with nobody else who
hears of it. -/
def Act.Yields (act : Act ε Unit) (r : Registry) (n : NodeId) (name : Option String) :
    Except ε (String → Value) → Prop
  | .error cause => (act r).1 = .error (.failed cause)
  | .ok values => ∃ after, act r = (.ok (), after) ∧ after.Lone n name ∧ after.cached n = values

namespace Act.Yields

variable {outcome : Except RegistryError (String → Value)}

private theorem of_run {act act' : Act ε Unit} {outcome : Except ε (String → Value)}
    (run : act r = act' r')
    (h : act'.Yields r' n name outcome) : act.Yields r n name outcome := by
  cases outcome with
  | error cause => exact (congrArg Prod.fst run).trans h
  | ok values =>
    obtain ⟨after, run', left⟩ := h
    exact ⟨after, run.trans run', left⟩

private theorem lift {act : Act RegistryError Unit} (h : act.Yields r n name outcome) :
    (liftM act : Act DomainError Unit).Yields r n name (outcome.mapError .registry) := by
  cases outcome with
  | error cause => exact congrArg Prod.fst (Act.lift_error (Prod.ext h rfl))
  | ok values =>
    obtain ⟨after, run, left⟩ := h
    exact ⟨after, Act.lift_ok run, left⟩

private theorem bind {outcome : Except ε (String → Value)} {act : Act ε Unit}
    {next : Unit → Act ε Unit}
    {rest : (String → Value) → Except ε (String → Value)} (h : act.Yields r n name outcome)
    (hnext : ∀ after, after.Lone n name →
      (next ()).Yields after n name (rest (after.cached n))) :
    (act >>= next).Yields r n name (outcome >>= rest) := by
  cases outcome with
  | error cause =>
    have failed : (act r).1 = .error (.failed cause) := h
    change ((act >>= next) r).1 = _
    rw [Act.bind_run]
    rcases run : act r with ⟨halt | _, after⟩
    all_goals rw [run] at failed
    · exact failed
    · cases failed
  | ok values =>
    obtain ⟨after, run, lone, rfl⟩ := h
    refine .of_run ?_ (hnext after lone)
    rw [Act.bind_run, run]

end Act.Yields

namespace Registry.Lone

variable (lone : r.Lone n name)

include lone

private theorem set_yields (hi : Pulse.plans[i]? = some plan) (plain : plan.Plain) (away : i ≠ 3)
    (v : Value) :
    (n.set plan.name v).Yields r n name (Pulse.assign name plan v (r.cached n)) := by
  have five : i < 5 := (List.getElem?_eq_some_iff.mp hi).1
  rw [Pulse.assign, Pulse.check]
  cases accepted : plan.validator.validate v with
  | error reason =>
    obtain ⟨fuel, -, set⟩ := lone.fitted.set_run hi v
    change (n.set plan.name v r).1 = _
    rw [set, lone.fitted.setWith_refused hi plain accepted, lone.naming hi]
  | ok _ =>
    obtain ⟨after, set, gave, current⟩ := lone.set_gave (calm_of_unheard lone.unheard) hi plain away
      (lone.onlyFeeds five away) accepted
    have fed : i = 1 ∨ i = 2 → (r.param ⟨r.firstParam n + i⟩).listeners ≠ [] := by
      rw [lone.feeds i five away]
      rintro (rfl | rfl) <;> exact List.cons_ne_nil _ _
    have current := current lone.current fed
    exact ⟨after, set, gave.wiring.lone lone current,
      gave.cached_eq lone.toPulseWired hi away current⟩

private theorem set_stop_yields (v : Value) :
    (n.set "t_stop" v).Yields r n name (Pulse.assignStop name v (r.cached n)) := by
  have wired := lone.toPulseWired
  have stopValidator : (r.param (r.stopOf n)).validator = Pulse.plans[3].validator :=
    lone.fitted.validator (i := 3) rfl
  have durationValidator : (r.param (Pulse.durationAt (r.firstParam n))).validator =
      Pulse.plans[2].validator := lone.fitted.validator (i := 2) rfl
  have start : r.cached n "t_start" = (r.param (Pulse.startAt (r.firstParam n))).value :=
    lone.fitted.cached (i := 1) rfl
  obtain ⟨fuel, enough, set⟩ := lone.fitted.set_run (i := 3) rfl v
  obtain ⟨fuel, rfl⟩ : ∃ k, fuel = k + 2 := ⟨fuel - 2, by omega⟩
  refine .of_run set ?_
  rw [Pulse.assignStop, Pulse.check, start]
  -- The stop checks the value, then the start is taken off, and the duration checks what is left.
  cases valid : Pulse.plans[3].validator.validate v with
  | error reason =>
    have refused := wired.stop_setWith_refused (stopValidator ▸ valid) (engine (fuel + 2))
    exact (congrArg Prod.fst refused).trans (congrArg _ (lone.naming (i := 3) rfl _))
  | ok _ =>
  rw [← stopValidator] at valid
  cases left : v.requireSub (r.param (Pulse.startAt (r.firstParam n))).value with
  | error cause =>
    obtain ⟨s, -, failed⟩ := wired.stop_setWith_failed valid left (show 1 ≤ fuel by omega)
    exact congrArg Prod.fst failed
  | ok duration =>
  change Act.Yields _ r n name (Pulse.assign name Pulse.plans[2] duration (r.cached n))
  rw [Pulse.assign, Pulse.check]
  cases accepted : Pulse.plans[2].validator.validate duration with
  | error reason =>
    rw [← durationValidator] at accepted
    obtain ⟨s, -, failed⟩ := wired.stop_setWith_unfit valid left accepted (show 1 ≤ fuel by omega)
    exact (congrArg Prod.fst failed).trans (congrArg _ (lone.naming (i := 2) rfl _))
  | ok _ =>
    rw [← durationValidator] at accepted
    obtain ⟨after, run, gave, current⟩ := wired.stop_setWith_gave (calm_of_unheard lone.unheard)
      (lone.onlyFeeds (by decide) (by decide)) valid left accepted (show 8 ≤ fuel by omega)
    exact ⟨after, run, gave.wiring.lone lone current,
      gave.cached_eq wired (i := 2) rfl (by decide) current⟩

end Registry.Lone

/-! ## Plans -/

namespace Pulse

variable {plan : PulsePlan}

private theorem setGiven_yields {parameter : String}
    {set : Value → (String → Value) → Except RegistryError (String → Value)} (lone : r.Lone n name)
    (each : ∀ v, (n.set parameter v).Yields r n name (set v (r.cached n))) (v : Option Value) :
    (liftM (setGiven n parameter v) : Act DomainError Unit).Yields r n name
      (assignGiven set v (r.cached n)) := by
  cases v with
  | none => exact ⟨r, rfl, lone, rfl⟩
  | some v => exact (each v).lift

private theorem give_yields (lone : r.Lone n plan.name) :
    (give n plan).Yields r n plan.name (assignAll plan (r.cached n)) := by
  refine .bind (setGiven_yields lone (lone.set_yields (i := 1) rfl ⟨rfl, rfl, rfl⟩ (by decide)) _)
    fun r lone => ?_
  refine .bind (setGiven_yields lone (lone.set_yields (i := 2) rfl ⟨rfl, rfl, rfl⟩ (by decide)) _)
    fun r lone => ?_
  refine .bind (setGiven_yields lone lone.set_stop_yields _) fun r lone => ?_
  refine .bind (setGiven_yields lone (lone.set_yields (i := 4) rfl ⟨rfl, rfl, rfl⟩ (by decide)) _)
    fun r lone => ?_
  exact setGiven_yields lone (lone.set_yields (i := 0) rfl ⟨rfl, rfl, rfl⟩ (by decide)) _

/-- The plan alone decides whether there is a new pulse and which values it has. -/
theorem createWith_outcome (plan : PulsePlan) (r : Registry) :
    match outcome plan with
    | .error cause => (createWith plan r).1 = .error (.failed cause)
    | .ok values => ∃ n after, createWith plan r = (.ok n, after) ∧ after.cached n = values := by
  obtain ⟨made, created, equipped⟩ := create_run plan.name r
  rw [createWith_run created, outcome]
  split_ifs with both
  · rfl
  let inUse : List NodeId := ⟨r.nodes.size⟩ :: made.inUse
  have held : Equipped { r with nodes := r.nodes.push { name := plan.name, config }, inUse }
      { made with inUse } ⟨r.nodes.size⟩ := equipped.withInUse inUse
  obtain ⟨lone, initial⟩ := @Equipped.lone { r with inUse } _ _ held List.mem_cons_self
  have given := give_yields lone
  rw [initial] at given
  cases assigned : assignAll plan initialValues with
  | error cause =>
    rw [assigned] at given
    exact congrArg (Except.map fun _ => _) given
  | ok values =>
    rw [assigned] at given
    obtain ⟨after, run, -, cached⟩ := given
    refine ⟨⟨r.nodes.size⟩, { after with inUse := made.inUse }, ?_, cached⟩
    change (Except.map _ (give _ plan _).1, _) = _
    rw [run]
    rfl

/-- A stop comes to the same as the duration that is left after the start. -/
theorem outcome_of_sub {start stop duration : Value} (left : stop.sub? start = some duration)
    (plan : PulsePlan) :
    outcome { plan with start := some start, duration := none, stop := some stop } =
      outcome { plan with start := some start, duration := some duration, stop := none } := by
  obtain ⟨⟨x, stopped⟩, y, started⟩ := Value.toDouble?_of_integerOrDouble? left
  let values := settle (Function.update initialValues "t_start" start)
  have begun : assign plan.name plans[1] start initialValues = .ok values := by
    have accepted : plans[1].validator.validate start = .ok () := Validator.numbers_unbounded started
    rw [assign, check, accepted]
    rfl
  have given : values "t_start" = start :=
    (settle_of_ne (by decide)).trans (Function.update_self ..)
  have same : assignStop plan.name stop values = assign plan.name plans[2] duration values := by
    have accepted : plans[3].validator.validate stop = .ok () := Validator.numbers_unbounded stopped
    rw [assignStop, check, accepted, given, Value.requireSub, left]
    rfl
  let rest (values : String → Value) : Except DomainError (String → Value) :=
    assignGiven (assign plan.name plans[4]) plan.amplitude values >>=
      assignGiven (assign plan.name plans[0]) (plan.enabled.map .bool)
  calc outcome { plan with start := some start, duration := none, stop := some stop }
    _ = (assign plan.name plans[1] start initialValues).mapError .registry >>= fun values =>
          (assignStop plan.name stop values).mapError .registry >>= rest := rfl
    _ = (assignStop plan.name stop values).mapError .registry >>= rest := by rw [begun]; rfl
    _ = (assign plan.name plans[2] duration values).mapError .registry >>= rest := by rw [same]
    _ = (assign plan.name plans[1] start initialValues).mapError .registry >>= fun values =>
          (assign plan.name plans[2] duration values).mapError .registry >>= rest := by rw [begun]; rfl
    _ = outcome { plan with start := some start, duration := some duration, stop := none } := rfl

end Pulse

/-! ## The order of the calls -/

/-- What an entry gives a value. -/
def PulseEntry.setting : PulseEntry → PulseSetting
  | .start _ => .start
  | .duration _ => .duration
  | .stop _ => .stop
  | .amplitude _ => .amplitude
  | .enabled _ => .enabled

def PulseEntry.others (amplitude : Option Value) (enabled : Option Bool) : List PulseEntry :=
  (amplitude.map .amplitude).toList ++ (enabled.map .enabled).toList

namespace PulsePlan

variable {entries entries' : List PulseEntry}

private theorem enter_comm (plan : PulsePlan) {entry entry' : PulseEntry}
    (apart : entry.setting = entry'.setting → entry = entry') :
    (plan.enter entry).enter entry' = (plan.enter entry').enter entry := by
  cases entry
  all_goals
    cases entry'
    all_goals
      first
        | rfl
        | rw [apart rfl]

private theorem build_perm (perm : entries.Perm entries')
    (distinct : (entries.map (·.setting)).Nodup) :
    build name entries = build name entries' := by
  refine perm.foldl_eq' (fun entry mem entry' mem' plan => ?_) _
  exact plan.enter_comm (List.inj_on_of_nodup_map distinct mem mem')

private theorem build_timed {amplitude : Option Value} {enabled : Option Bool} {start : Value}
    {last : PulseEntry}
    (ends : last.setting = .stop ∨ last.setting = .duration)
    (perm : entries.Perm (.start start :: last :: PulseEntry.others amplitude enabled)) :
    build name entries = enter { name, start := some start, amplitude, enabled } last := by
  cases last with
  | stop | duration =>
    rw [← build_perm perm.symm]
    · cases amplitude <;> cases enabled <;> rfl
    · cases amplitude <;> cases enabled <;> simp [PulseEntry.others, PulseEntry.setting]
  | _ => simp [PulseEntry.setting] at ends

end PulsePlan

/-- A pulse that is built with a stop and one that is built with the duration that is left after the
start fail with the same error, or both come about and have the same values, in whatever registries and
in whatever orders they are built. -/
theorem Pulse.createWith_of_sub {start stop duration : Value} (left : stop.sub? start = some duration)
    (name : Option String) (amplitude : Option Value) (enabled : Option Bool)
    {entries entries' : List PulseEntry}
    (stops : entries.Perm (.start start :: .stop stop :: PulseEntry.others amplitude enabled))
    (lasts : entries'.Perm (.start start :: .duration duration :: PulseEntry.others amplitude enabled))
    (r r' : Registry) :
    (∃ cause, (createWith (.build name entries) r).1 = .error (.failed cause) ∧
      (createWith (.build name entries') r').1 = .error (.failed cause)) ∨
    ∃ n n' after after', createWith (.build name entries) r = (.ok n, after) ∧
      createWith (.build name entries') r' = (.ok n', after') ∧
      ∀ parameter, after.cached n parameter = after'.cached n' parameter := by
  have outcomes : outcome (.build name entries) = outcome (.build name entries') := by
    rw [PulsePlan.build_timed (.inl rfl) stops, PulsePlan.build_timed (.inr rfl) lasts]
    exact outcome_of_sub left { name, amplitude, enabled }
  have built := createWith_outcome (.build name entries) r
  have built' := createWith_outcome (.build name entries') r'
  rw [← outcomes] at built'
  cases decided : outcome (.build name entries) with
  | error cause =>
    rw [decided] at built built'
    exact .inl ⟨cause, built, built'⟩
  | ok values =>
    rw [decided] at built built'
    obtain ⟨n, after, run, cached⟩ := built
    obtain ⟨n', after', run', cached'⟩ := built'
    exact .inr ⟨n, n', after, after', run, run', fun parameter => by rw [cached, cached']⟩

/-- The stop is given before the start, or the duration after it. -/
theorem Pulse.createWith_of_early_stop :
    let begins : PulseEntry := .start (.ofInteger { val := 1 })
    let stops : PulseEntry := .stop (.ofInteger { val := 3 })
    let lasts : PulseEntry := .duration (.ofInteger { val := 2 })
    let plan : PulsePlan := .build (some "p") [stops, .enabled false, begins]
    let plan' : PulsePlan := .build (some "p") [begins, lasts, .enabled false]
    let r := Registry.start {} default
    ∃ n n' after after', createWith plan r = (.ok n, after) ∧ createWith plan' r = (.ok n', after') ∧
      ∀ parameter, after.cached n parameter = after'.cached n' parameter := by
  intro begins stops lasts plan plan' r
  have moved := @List.perm_append_comm _ [stops, .enabled false] [begins]
  refine (createWith_of_sub rfl (some "p") none (some false) moved (.refl _) r r).resolve_left ?_
  rintro ⟨cause, failed, -⟩
  have made : (createWith plan r).1.isOk = true := by decide +kernel
  have refused : (createWith plan r).1 = .error (.failed cause) := failed
  rw [refused] at made
  cases made

end LabRegistry

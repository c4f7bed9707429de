import LabRegistry.Proofs.Pulse.Stop

/-!
# Pulses are consistent between operations

However a pulse is used, as long as the listeners that it was made with stay connected, its cached
stop is its cached start plus its cached duration whenever no operation is running.
-/
namespace LabRegistry

open Registry

/-! ## Using a pulse -/

/-- What is done with the parameters and nodes of a registry besides binding and dropping them. -/
inductive Interaction where
  | get (n : NodeId) (name : String)
  | set (n : NodeId) (name : String) (v : Value)
  | update (n : NodeId) (name : String)
  | snapshot (n : NodeId) (options : SnapshotOptions)
  /-- Gets, sets or updates a parameter or calls a callable. -/
  | request (asked : Request)
  | createParameter (plan : ParameterPlan)
  /-- Keeps a parameter under a handle that is free. -/
  | hold (handle : String) (p : ParamId)
  | connect (p target : ParamId) (link : Link)
  | listen (p : ParamId) (callback : Callable)
  | disconnect (p : ParamId) (id : ListenerId)
  | disconnectAll (p : ParamId)
  /-- Keeps the number of a listener under a name. -/
  | nameListener (name : String) (id : ListenerId)

namespace Interaction

def act : Interaction → Act RegistryError Unit
  | get n name => do
    let _ ← n.get name
  | set n name v => n.set name v
  | update n name => do
    let _ ← (← n.parameter name).update
  | snapshot n options => do
    let _ ← n.snapshot options
  | request asked => do
    let _ ← asked.perform
  | createParameter plan => do
    let _ ← plan.create
  | hold handle p => do
    if !(← Act.bench).handles.contains handle then Act.store handle (.parameter p)
  | connect p target link => p.connect target link
  | listen p callback => do
    let _ ← p.listen (.callback callback)
  | disconnect p id => do
    let _ ← p.disconnect id
  | disconnectAll p => p.disconnectAll
  | nameListener name id => Act.storeListener name id

/-- Listeners and delegates do not go round without end. -/
def ends (interaction : Interaction) (r : Registry) : Bool :=
  match (interaction.act r).1 with
  | .error .endless => false
  | _ => true

end Interaction

/-- The states between operations from some state on, all of which end. -/
inductive Registry.Course (r : Registry) : Registry → Prop
  | start : Course r r
  | step {s : Registry} (interaction : Interaction) (course : Course r s)
      (ends : interaction.ends s = true) : Course r (interaction.act s).2

/-- The listener is the one with which a parameter of a new pulse begins. -/
def Listener.isBuiltIn (stop : ParamId) : ListenerId × Listener → Bool
  | (id, .callback (.refresh p)) => id == ⟨0⟩ && p == stop
  | _ => false

/-- The parameter of a pulse still has the listener by which it refreshes the stop. -/
def Registry.feedsStop (r : Registry) (n : NodeId) (name : String) : Bool :=
  match (r.node n).parameters.get? name, (r.node n).parameters.get? "t_stop" with
  | some p, some stop => (r.param p).listeners.any (Listener.isBuiltIn stop)
  | _, _ => false

/-! ## Keeping the stop up to date -/

variable {r after : Registry} {n : NodeId} {first : Nat}

namespace stopDiscipline

open Discipline

private theorem of_wiring {ε α : Type} {act : Act ε α}
    (h : ∀ r, Registry.SameWiring r (act r).2 ∧
      ∀ p, (Registry.param (act r).2 p).value = (r.param p).value) :
    (stopDiscipline n first).Obeys act :=
  fun r fed settled => ⟨fed.of_wiring (h r).1, .inr (settled.of_wiring (h r).1 (h r).2)⟩

private theorem get (p : ParamId) : (stopDiscipline n first).Obeys p.get := perform _

private theorem set (p : ParamId) (v : Value) : (stopDiscipline n first).Obeys (p.set v) :=
  .bind (perform _) fun _ => .pure _

private theorem setByName (m : NodeId) (name : String) (v : Value) :
    (stopDiscipline n first).Obeys (m.set name v) :=
  .bind (parameter m name) fun p => set p v

private theorem createParameter (plan : ParameterPlan) :
    (stopDiscipline n first).Obeys plan.create := by
  intro r fed settled
  cases accepted : plan.validator.validate plan.initial with
  | error reason =>
    have run : plan.create r = (.error (.failed (.invalidValue plan.name reason)), r) := by
      rw [ParameterPlan.create, accepted]
      rfl
    exact .of_read (by rw [run]) fed settled
  | ok _ =>
    obtain ⟨now, now', run⟩ := plan.create_run accepted r
    have old (p : ParamId) (inside : p.index < r.params.size) :
        Registry.param { r with params := r.params.push (plan.toParameter now), now := now' } p =
          r.param p := Arena.get_push_of_lt inside _
    have same : r.SameNodes { r with
        params := r.params.push (plan.toParameter now), now := now' } :=
      ⟨rfl, roots_of_eq rfl rfl fun _ => rfl⟩
    rw [Act.Settles, run]
    have speaks (i : Nat) (hi : i < 5) : Speaks { r with
        params := r.params.push (plan.toParameter now), now := now' } ⟨first + i⟩ :=
      (fed.fitted.speaks i hi).of_same same
        (congrArg Parameter.setup (old _ ((Nat.add_lt_add_left hi _).trans_le fed.fitted.inside)))
    exact ⟨fed.of_old rfl (by simp) old speaks ((same.isAlive n).trans fed.alive),
      .inr (settled.of_old fed old)⟩

private theorem hold (handle : String) (p : ParamId) : (stopDiscipline n first).Obeys
    (do if !(← Act.bench).handles.contains handle then Act.store handle (.parameter p) :
      Act RegistryError Unit) := by
  apply of_wiring
  intro r
  have run : (do if !(← Act.bench).handles.contains handle then
      Act.store handle (.parameter p) : Act RegistryError Unit) r =
        (.ok (), if r.bench.handles.contains handle then r else r.keep handle (.parameter p)) := by
    rw [Act.bind_run]
    change (if !r.bench.handles.contains handle then _ else _ : Act RegistryError Unit) r = _
    cases r.bench.handles.contains handle <;> rfl
  rw [run]
  dsimp only
  split
  case isTrue => exact ⟨refl r, fun _ => rfl⟩
  case isFalse free =>
    have roots : (r.keep handle (.parameter p)).roots = r.roots := by
      rw [roots_keep (by simpa using free)]
      exact List.append_nil _
    exact ⟨⟨⟨rfl, roots⟩, rfl, rfl, rfl, fun _ => rfl⟩, fun _ => rfl⟩

private theorem interaction (i : Interaction) : (stopDiscipline n first).Obeys i.act := by
  cases i with
  | get m name => exact .bind (.bind (parameter m name) get) fun _ => .pure _
  | set m name v => exact setByName m name v
  | update m name => exact .bind (parameter m name) fun _ => .bind (perform _) fun _ => .pure _
  | snapshot m options => exact .bind (snapshot get options m) fun _ => .pure _
  | request asked => exact .bind (perform asked) fun _ => .pure _
  | createParameter plan => exact .bind (createParameter plan) fun _ => .pure _
  | hold handle p => exact hold handle p
  | connect p target link => exact connect set p target link
  | listen p callback => exact .bind (listen p _) fun _ => .pure _
  | disconnect p id => exact .bind (disconnect p id) fun _ => .pure _
  | disconnectAll p => exact disconnectAll p
  | nameListener name id =>
    exact of_wiring fun r => ⟨⟨⟨rfl, roots_of_eq rfl rfl fun _ => rfl⟩, rfl, rfl, rfl,
      fun _ => rfl⟩, fun _ => rfl⟩

private theorem setGiven (name : String) (v : Option Value) :
    (stopDiscipline n first).Obeys (Pulse.setGiven n name v) := by
  cases v with
  | none => exact .pure _
  | some v => exact setByName n name v

private theorem lift {α : Type} {act : Act RegistryError α}
    (h : (stopDiscipline n first).Obeys act) :
    (stopDiscipline n first).Obeys (act.mapError DomainError.registry) := by
  intro r fed settled
  obtain ⟨fed', settled'⟩ := h r fed settled
  rw [Act.Settles, Act.mapError]
  rcases run : act r with ⟨halt | x, after⟩
  all_goals rw [run] at fed' settled'
  · refine ⟨fed', settled'.imp_left fun endless => ?_⟩
    cases endless
    rfl
  · exact ⟨fed', .inr (settled'.resolve_left (by rintro ⟨⟩))⟩

private theorem give (plan : PulsePlan) : (stopDiscipline n first).Obeys (Pulse.give n plan) :=
  .bind (lift (setGiven _ _)) fun _ => .bind (lift (setGiven _ _)) fun _ =>
    .bind (lift (setGiven _ _)) fun _ => .bind (lift (setGiven _ _)) fun _ => lift (setGiven _ _)

end stopDiscipline

/-! ## New pulses -/

namespace Registry

private theorem Equipped.stopFed {base : Registry} (h : base.Equipped r n)
    (config : (base.node n).config = Pulse.config) (leaf : base.held n = [])
    (alive : r.isAlive n = true) : r.StopFed n base.params.size :=
  { h.pulseWired config leaf alive with
    start := by
      obtain ⟨listeners, next⟩ := h.listeners 1 (by decide)
      exact ⟨by rw [Pulse.startAt, next]; exact Nat.one_pos, fun _ => ⟨[], listeners⟩⟩
    duration := by
      obtain ⟨listeners, next⟩ := h.listeners 2 (by decide)
      exact ⟨by rw [Pulse.durationAt, next]; exact Nat.one_pos, fun _ => ⟨[], listeners⟩⟩ }

private theorem Equipped.stopSettled {base : Registry} (h : base.Equipped r n) :
    r.StopSettled base.params.size := fun _ => h.stop_value

end Registry

theorem Pulse.give_effects (n : NodeId) (plan : PulsePlan) : (give n plan).Keeps Effects := by
  have given (name : String) (v : Option Value) : (setGiven n name v).Keeps Effects := by
    cases v with
    | none => exact .pure _
    | some v => exact .bind (Effects.parameter n name) fun p => Effects.set p v
  exact .bind (.mapError (given _ _)) fun _ => .bind (.mapError (given _ _)) fun _ =>
    .bind (.mapError (given _ _)) fun _ => .bind (.mapError (given _ _)) fun _ =>
    .mapError (given _ _)

private theorem Pulse.made {plan : PulsePlan} {r₀ r₁ : Registry}
    (h : Pulse.create plan.name r₀ = (.ok n, r₁) ∨ Pulse.createWith plan r₀ = (.ok n, r₁)) :
    ∃ s : Registry, s.StopFed n r₀.params.size ∧ s.StopSettled r₀.params.size ∧
      (∀ i < 5, (s.param ⟨r₀.params.size + i⟩).logsChanges = false) ∧
      r₁.nodes = s.nodes ∧ r₁.params = s.params := by
  obtain ⟨made, run, equipped⟩ := create_run plan.name r₀
  let held : Registry := { made with inUse := ⟨r₀.nodes.size⟩ :: made.inUse }
  obtain ⟨fed, settled⟩ : held.StopFed ⟨r₀.nodes.size⟩ r₀.params.size ∧
      held.StopSettled r₀.params.size := by
    have inOrder := equipped.withInUse (⟨r₀.nodes.size⟩ :: made.inUse)
    have node := node_push r₀ { name := plan.name, config } ⟨r₀.nodes.size⟩
    rw [if_pos rfl] at node
    have alive : held.isAlive ⟨r₀.nodes.size⟩ = true :=
      isAlive_iff.mpr ⟨_, List.mem_append_left _ List.mem_cons_self, .refl⟩
    exact ⟨inOrder.stopFed (congrArg (·.config) node) (congrArg (·.held) node) alive,
      inOrder.stopSettled⟩
  rcases h with created | created
  · rw [run] at created
    cases created
    exact ⟨held, fed, settled, equipped.quiet, rfl, rfl⟩
  · rw [createWith_run run] at created
    split at created
    · cases created
    · obtain ⟨fed', settled'⟩ := stopDiscipline.give plan held fed settled
      have setups := (give_effects ⟨r₀.nodes.size⟩ plan held).sameSetups
      rcases given : give ⟨r₀.nodes.size⟩ plan held with ⟨halt | x, s⟩
      all_goals
        rw [given] at fed' settled' setups created
        cases created
      exact ⟨s, fed', settled'.resolve_left (by rintro ⟨⟩), fun i hi =>
        (congrArg (·.logsChanges) (setups.setup _)).trans (equipped.quiet i hi), rfl, rfl⟩

/-! ## In every state between operations -/

namespace Registry

private theorem Course.inOrder {s : Registry} (course : r.Course s) (fed : r.StopFed n first)
    (settled : r.StopSettled first) : s.StopFed n first ∧ s.StopSettled first := by
  induction course with
  | start => exact ⟨fed, settled⟩
  | step interaction _ ends ih =>
    obtain ⟨fed', settled'⟩ := stopDiscipline.interaction interaction _ ih.1 ih.2
    refine ⟨fed', settled'.resolve_left fun endless => ?_⟩
    rw [Interaction.ends, endless] at ends
    cases ends

section

variable {plans : List ParameterPlan} {plan : ParameterPlan} {i : Nat}

private theorem Fitted.shown_run (h : r.Fitted n first plans)
    (shown : ∀ plan ∈ plans, plan.inSnapshot = true) (members : List (String × Value)) :
    ((r.node n).parameters.entries.foldlM
      (fun members entry => NodeId.addShown false members entry.1 entry.2) members :
        Act RegistryError _) r =
      (.ok ((plans.map fun plan => (simplifiedKey plan.name plan.unit, r.cached n plan.name)).foldl
        (fun members entry => Entries.insert entry.1 entry.2 members) members), r) := by
  -- Along the plans that are left, which start where those that are done end.
  have along (rest : List ParameterPlan) : ∀ done, plans = done ++ rest → ∀ members,
      ((ParameterPlan.entries (first + done.length) rest).foldlM
        (fun members entry => NodeId.addShown false members entry.1 entry.2) members :
          Act RegistryError _) r =
        (.ok ((rest.map fun plan => (simplifiedKey plan.name plan.unit, r.cached n plan.name)).foldl
          (fun members entry => Entries.insert entry.1 entry.2 members) members), r) := by
    induction rest with
    | nil =>
      intro done _ members
      rfl
    | cons plan rest ih =>
      intro done parted members
      have hi : plans[done.length]? = some plan := by simp [parted]
      have first_run : NodeId.addShown false members plan.name ⟨first + done.length⟩ r =
          (.ok (Entries.insert (simplifiedKey plan.name plan.unit) (r.cached n plan.name) members),
            r) := by
        rw [NodeId.addShown, Act.bind_run, ParamId.state_run]
        dsimp only
        rw [h.inSnapshot hi, if_pos (shown plan (List.mem_of_getElem? hi)), ← h.unit hi, h.cached hi]
        rfl
      have others := ih (done ++ [plan]) (by simp [parted])
      rw [List.length_append] at others
      rw [ParameterPlan.entries, List.foldlM_cons, Act.bind_run, first_run]
      exact others _
  rw [h.entries]
  exact along plans [] rfl members

end

private theorem PulseWired.snapshot_run (h : r.PulseWired n first) : n.snapshot {} r =
    (.ok [(classKey, .string "Pulse"), ("enabled", r.cached n "enabled"),
      ("t_start (s)", r.cached n "t_start"), ("duration (s)", r.cached n "duration"),
      ("t_stop (s)", r.cached n "t_stop"), ("amplitude (V)", r.cached n "amplitude")], r) := by
  have children : (r.node n).children.entries = [] := by
    have values := (List.append_eq_nil_iff.mp h.leaf).1
    exact List.map_eq_nil_iff.mp values
  have short : (none : Option Bool).getD (r.node n).config.shortSnapshots = true := by
    rw [h.config]
    rfl
  rw [NodeId.snapshot, Act.bind_run, Act.registry_run]
  dsimp only
  rw [NodeId.snapshotWithin, Act.bind_run, NodeId.state_run]
  dsimp only
  rw [if_pos short, Act.bind_run, h.fitted.shown_run (by decide), children]
  simp [Pulse.plans, ParameterPlan.delegated, simplifiedKey, Entries.insert, classKey, h.config,
    Pulse.config, pulseClass]

end Registry

private theorem Registry.StopFed.hasListener {i : Nat} {plan : ParameterPlan}
    (fed : r.StopFed n first)
    (hi : Pulse.plans[i]? = some plan) (feeds : r.feedsStop n plan.name = true) :
    (r.param ⟨first + i⟩).hasListener ⟨0⟩ = true := by
  have stop : (r.node n).parameters.get? "t_stop" = some ⟨first + 3⟩ := fed.fitted.get? (i := 3) rfl
  rw [feedsStop, fed.fitted.get? hi, stop] at feeds
  obtain ⟨entry, mem, builtIn⟩ := List.any_eq_true.mp feeds
  refine List.any_eq_true.mpr ⟨entry, mem, ?_⟩
  unfold Listener.isBuiltIn at builtIn
  split at builtIn
  · exact (Bool.and_eq_true_iff.mp builtIn).1
  · cases builtIn

/-- A get of the stop gives start plus duration. -/
theorem Registry.PulseWired.get_stop_run (h : r.PulseWired n first) :
    ∃ after, n.get "t_stop" r = (.ok (r.stopValue first), after) ∧
      r.Took (Pulse.stopAt first) (r.stopValue first) after := by
  obtain ⟨after, got, took⟩ := ParamId.get_run_of_takes (by decide) h.stop_getWith_takes
  refine ⟨after, ?_, took⟩
  rw [NodeId.get, Act.bind_run, h.parameter_stop]
  exact got

/-- Whatever is done with the parameters of a pulse and whatever listens to them, as long as no
operation goes round without end and the listeners by which start and duration refresh the stop
stay connected, the cached stop is start plus duration between all operations. So a get of the
stop changes no value, and a snapshot without update is up to date. -/
theorem Pulse.stop_of_course {plan : PulsePlan} {r₀ r₁ r : Registry} {handle : String}
    (made : Pulse.create plan.name r₀ = (.ok n, r₁) ∨ Pulse.createWith plan r₀ = (.ok n, r₁))
    (course : (r₁.keep handle (.pulse n)).Course r)
    (start : r.feedsStop n "t_start" = true) (duration : r.feedsStop n "duration" = true) :
    let stop := ((r.cached n "t_start").add? (r.cached n "duration")).getD .null
    r.cached n "t_stop" = stop ∧
      (∃ after, n.get "t_stop" r = (.ok stop, after) ∧
        ∀ p, (after.param p).value = (r.param p).value) ∧
      n.snapshot {} r = (.ok [(classKey, .string "Pulse"), ("enabled", r.cached n "enabled"),
        ("t_start (s)", r.cached n "t_start"), ("duration (s)", r.cached n "duration"),
        ("t_stop (s)", stop), ("amplitude (V)", r.cached n "amplitude")], r) := by
  intro stop
  obtain ⟨s, fed₀, settled₀, quiet, nodes, params⟩ := Pulse.made made
  have param (p : ParamId) : (r₁.keep handle (.pulse n)).param p = s.param p :=
    congrArg (·.get p.index) params
  have begun : (r₁.keep handle (.pulse n)).StopFed n r₀.params.size :=
    fed₀.of_old (congrArg (·.get n.index) nodes) (congrArg Arena.size params).ge
      (fun p _ => param p) (fun i hi => .inl (by rw [param, quiet i hi]))
      (isAlive_keep List.mem_cons_self)
  obtain ⟨fed, settled⟩ := course.inOrder begun (settled₀.of_old fed₀ fun p _ => param p)
  have sum : stop = r.stopValue r₀.params.size := by
    have startCached : r.cached n "t_start" = _ := fed.fitted.cached (i := 1) rfl
    have durationCached : r.cached n "duration" = _ := fed.fitted.cached (i := 2) rfl
    rw [stopValue, Pulse.startAt, Pulse.durationAt, ← startCached, ← durationCached]
  have cached : r.cached n "t_stop" = (r.param (Pulse.stopAt r₀.params.size)).value :=
    fed.fitted.cached (i := 3) rfl
  have value : (r.param (Pulse.stopAt r₀.params.size)).value = r.stopValue r₀.params.size :=
    settled ⟨fed.hasListener (i := 1) rfl start, fed.hasListener (i := 2) rfl duration⟩
  obtain ⟨after, got, took⟩ := fed.get_stop_run
  refine ⟨by rw [cached, value, sum], ⟨after, by rw [got, sum], fun p => ?_⟩, ?_⟩
  · by_cases same : p = Pulse.stopAt r₀.params.size
    · rw [same, took.self, value]
    · exact took.others p same
  · have shown := fed.snapshot_run
    rwa [cached, value, ← sum] at shown

/-- A set of the start that a listener of the stop lets fail leaves the stop up to date. -/
theorem Pulse.stop_of_failed_set :
    let plan : PulsePlan :=
      { start := some (.ofInteger { val := 1 }), duration := some (.ofInteger { val := 2 }) }
    let r := (Pulse.createWith plan {}).2.keep "p" (.pulse ⟨0⟩)
    let listen : Interaction := .listen ⟨3⟩ (.script (.mk [.fail "refused"] none))
    let set : Interaction := .set ⟨0⟩ "t_start" (.ofInteger { val := 5 })
    let heard := (listen.act r).2
    (set.act heard).1.toOption = none ∧
      ((set.act heard).2.cached ⟨0⟩ "t_stop").toInt64? = some 7 := by
  intro plan r listen set heard
  have given : (Pulse.createWith plan {}).1.toOption = some ⟨0⟩ := by decide +kernel
  have made : Pulse.createWith plan {} = (.ok ⟨0⟩, (Pulse.createWith plan {}).2) := by
    rcases run : Pulse.createWith plan {} with ⟨halt | n, s⟩
    all_goals
      rw [run] at given
      cases given
    rfl
  have course : r.Course (set.act heard).2 :=
    .step set (.step listen .start (by decide +kernel)) (by decide +kernel)
  have stop := (Pulse.stop_of_course (.inr made) course (by decide +kernel)
    (by decide +kernel)).1
  refine ⟨by decide +kernel, ?_⟩
  rw [stop]
  decide +kernel

end LabRegistry

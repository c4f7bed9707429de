import LabRegistry.Proofs.Engine.Visit
import LabRegistry.Proofs.Pulse.Wiring
import LabRegistry.Workbench

/-!
# The stop of a pulse follows its start and its duration

Whatever listeners do, the cache of the stop holds start plus duration in every state between
operations: the listeners by which start and duration refresh the stop come before all others.
-/
namespace LabRegistry

/-! ## Listeners that come first -/

namespace Parameter

/-- As long as the first listener that the parameter ever had is connected, it is the first to be
told. -/
structure TellsFirst (param : Parameter) (listener : Listener) : Prop where
  begun : 0 < param.nextListener
  leads : param.hasListener ⟨0⟩ = true → ∃ rest, param.listeners = (⟨0⟩, listener) :: rest

/-- What an effect may do to a parameter, its cache left aside. -/
inductive Rewired (param : Parameter) : Parameter → Prop
  | same {after : Parameter} (h : after.uncached = param.uncached) : Rewired param after
  | listen (listener : Listener) : Rewired param (param.addListener listener)
  | disconnect (id : ListenerId) : Rewired param (param.removeListener id)
  | disconnectAll : Rewired param param.clearListeners

variable {param after : Parameter} {listener : Listener}

private theorem Rewired.hasListener_zero (h : param.Rewired after) (begun : 0 < param.nextListener)
    (connected : after.hasListener ⟨0⟩ = true) : param.hasListener ⟨0⟩ = true := by
  cases h with
  | same h =>
    have listeners : after.listeners = param.listeners := congrArg (·.listeners) h
    rwa [hasListener, ← listeners]
  | listen listener =>
    have later : param.nextListener ≠ 0 := by omega
    simpa [hasListener, addListener, later] using connected
  | disconnect id =>
    simp only [hasListener, removeListener, List.any_filter, List.any_eq_true] at connected ⊢
    obtain ⟨entry, mem, kept⟩ := connected
    exact ⟨entry, mem, (Bool.and_eq_true_iff.mp kept).2⟩
  | disconnectAll => simp [hasListener, clearListeners] at connected

private theorem TellsFirst.rewired (h : param.TellsFirst listener) (step : param.Rewired after) :
    after.TellsFirst listener := by
  have before := step.hasListener_zero h.begun
  cases step with
  | same same =>
    have listeners : after.listeners = param.listeners := congrArg (·.listeners) same
    have next : after.nextListener = param.nextListener := congrArg (·.nextListener) same
    exact ⟨next ▸ h.begun, fun connected => listeners ▸ h.leads (before connected)⟩
  | listen other =>
    refine ⟨Nat.succ_pos _, fun connected => ?_⟩
    obtain ⟨rest, all⟩ := h.leads (before connected)
    exact ⟨rest ++ [(⟨param.nextListener⟩, other)], by rw [addListener, all]; rfl⟩
  | disconnect id =>
    refine ⟨h.begun, fun connected => ?_⟩
    obtain ⟨rest, all⟩ := h.leads (before connected)
    have other : id ≠ ⟨0⟩ := by
      rintro rfl
      simp [hasListener, removeListener] at connected
    refine ⟨rest.filter (·.1 != id), ?_⟩
    rw [removeListener, all, List.filter_cons_of_pos (by simpa using other.symm)]
  | disconnectAll => exact ⟨h.begun, fun connected => by simp [hasListener, clearListeners] at connected⟩

end Parameter

theorem Effect.rewired {r after : Registry} (h : Effect r after) (p : ParamId) :
    (r.param p).Rewired (after.param p) := by
  have change {q : ParamId} {f : Parameter → Parameter}
      (step : ∀ param : Parameter, param.Rewired (f param)) :
      (r.param p).Rewired (Registry.param { r with params := r.params.change q.index f } p) := by
    rw [Registry.param_change]
    split
    · exact step _
    · exact .same rfl
  cases h with
  | cache => exact change fun _ => .same rfl
  | stamp => exact change fun _ => .same rfl
  | listen => exact change fun _ => .listen _
  | disconnect => exact change fun _ => .disconnect _
  | disconnectAll => exact change fun _ => .disconnectAll
  | _ => exact .same rfl

/-! ## The stop is kept up to date -/

open Registry

variable {r after : Registry} {n : NodeId} {first : Nat} {ε α β : Type}

namespace Registry

/-- A pulse whose start and duration tell its stop first. -/
structure StopFed (r : Registry) (n : NodeId) (first : Nat) : Prop extends
    r.PulseWired n first where
  start : (r.param (Pulse.startAt first)).TellsFirst (.callback (.refresh (Pulse.stopAt first)))
  duration :
    (r.param (Pulse.durationAt first)).TellsFirst (.callback (.refresh (Pulse.stopAt first)))

/-- The first listeners of start and duration are connected. -/
structure StopConnected (r : Registry) (first : Nat) : Prop where
  start : (r.param (Pulse.startAt first)).hasListener ⟨0⟩ = true
  duration : (r.param (Pulse.durationAt first)).hasListener ⟨0⟩ = true

/-- As long as they are connected, the cached stop is start plus duration. -/
def StopSettled (r : Registry) (first : Nat) : Prop :=
  r.StopConnected first → (r.param (Pulse.stopAt first)).value = r.stopValue first

private theorem StopFed.effect (h : r.StopFed n first) (effect : Effect r after) :
    after.StopFed n first where
  toPulseWired := h.toPulseWired.of_same effect.sameNodes effect.sameSetups
  start := h.start.rewired (effect.rewired _)
  duration := h.duration.rewired (effect.rewired _)

private theorem StopFed.connected (h : r.StopFed n first) (effect : Effect r after)
    (connected : after.StopConnected first) : r.StopConnected first where
  start := (effect.rewired _).hasListener_zero h.start.begun connected.start
  duration := (effect.rewired _).hasListener_zero h.duration.begun connected.duration

private theorem StopSettled.effect (settled : r.StopSettled first) (h : r.StopFed n first)
    (effect : Effect r after)
    (start : (after.param (Pulse.startAt first)).value = (r.param (Pulse.startAt first)).value)
    (duration :
      (after.param (Pulse.durationAt first)).value = (r.param (Pulse.durationAt first)).value)
    (stop : (after.param (Pulse.stopAt first)).value = (r.param (Pulse.stopAt first)).value) :
    after.StopSettled first := by
  intro connected
  rw [stopValue, start, duration, stop]
  exact settled (h.connected effect connected)

end Registry

namespace Registry

private theorem SameWiring.rewired (h : r.SameWiring after) (p : ParamId) :
    (r.param p).Rewired (after.param p) :=
  .same (h.params p)

theorem StopFed.of_wiring (h : r.StopFed n first) (same : r.SameWiring after) :
    after.StopFed n first where
  toPulseWired := h.toPulseWired.of_wiring same
  start := h.start.rewired (same.rewired _)
  duration := h.duration.rewired (same.rewired _)

theorem StopFed.of_old (h : r.StopFed n first) (node : after.node n = r.node n)
    (size : r.params.size ≤ after.params.size)
    (old : ∀ p : ParamId, p.index < r.params.size → after.param p = r.param p)
    (speaks : ∀ i < 5, after.Speaks ⟨first + i⟩) (alive : after.isAlive n = true) :
    after.StopFed n first where
  toPulseWired := h.toPulseWired.of_old (congrArg Node.unplaced node) size
    (fun p inside => by rw [old p inside]) speaks alive
  start := old (Pulse.startAt first) (h.fitted.lt_size (i := 1) rfl) ▸ h.start
  duration := old (Pulse.durationAt first) (h.fitted.lt_size (i := 2) rfl) ▸ h.duration

theorem StopSettled.of_old (settled : r.StopSettled first) (h : r.StopFed n first)
    (old : ∀ p : ParamId, p.index < r.params.size → after.param p = r.param p) :
    after.StopSettled first := by
  have start := old (Pulse.startAt first) (h.fitted.lt_size (i := 1) rfl)
  have duration := old (Pulse.durationAt first) (h.fitted.lt_size (i := 2) rfl)
  intro connected
  rw [stopValue, start, duration, old (Pulse.stopAt first) h.stop_inside]
  exact settled ⟨start ▸ connected.start, duration ▸ connected.duration⟩

theorem StopSettled.of_wiring (settled : r.StopSettled first) (same : r.SameWiring after)
    (values : ∀ p, (after.param p).value = (r.param p).value) : after.StopSettled first := by
  have listens {p : ParamId} {id : ListenerId} (connected : (after.param p).hasListener id = true) :
      (r.param p).hasListener id = true := by
    rwa [Parameter.hasListener, ← same.listeners]
  intro connected
  rw [stopValue, values, values, values]
  exact settled ⟨listens connected.start, listens connected.duration⟩

private theorem Took.settled (h : r.Took (Pulse.stopAt first) (r.stopValue first) after) :
    after.StopSettled first := by
  intro _
  have ne {i : Nat} (hi : i ≠ 3) : (⟨first + i⟩ : ParamId) ≠ Pulse.stopAt first := by
    rw [Pulse.stopAt, ne_eq, ParamId.mk.injEq]
    omega
  rw [h.self, stopValue, stopValue, h.others (Pulse.startAt first) (ne (by decide)),
    h.others (Pulse.durationAt first) (ne (by decide))]

end Registry

/-- Afterwards the pulse is as it should be, its stop up to date unless the operation is endless. -/
def Act.Settles (act : Act ε α) (n : NodeId) (first : Nat) (r : Registry) : Prop :=
  (act r).2.StopFed n first ∧ ((act r).1 = .error .endless ∨ (act r).2.StopSettled first)

namespace Act.Settles

theorem of_read {act : Act ε α} (read : (act r).2 = r) (fed : r.StopFed n first)
    (settled : r.StopSettled first) : act.Settles n first r := by
  rw [Act.Settles, read]
  exact ⟨fed, .inr settled⟩

private theorem bind {act : Act ε α} {next : α → Act ε β} (h : act.Settles n first r)
    (hnext : ∀ x after, after.StopFed n first → after.StopSettled first →
      (next x).Settles n first after) : (act >>= next).Settles n first r := by
  obtain ⟨fed, settled⟩ := h
  rw [Act.Settles, bind_run]
  rcases run : act r with ⟨halt | x, after⟩
  all_goals rw [run] at fed settled
  · refine ⟨fed, settled.imp_left fun endless => ?_⟩
    cases endless
    rfl
  · exact hnext x after fed (settled.resolve_left (by rintro ⟨⟩))

private theorem of_takes {act : Act RegistryError Value} {short : Prop} (fed : r.StopFed n first)
    (h : act.Takes r (Pulse.stopAt first) (r.stopValue first) short) : act.Settles n first r := by
  rw [Act.Settles]
  obtain ⟨after, run, took⟩ | ⟨after, -, run, same⟩ := h
  · rw [run]
    exact ⟨fed.of_wiring took.wiring, .inr took.settled⟩
  · rw [run]
    exact ⟨fed.of_wiring same.wiring, .inl rfl⟩

end Act.Settles

/-- Operations that keep the stop of a pulse up to date unless they are endless. -/
def stopDiscipline (n : NodeId) (first : Nat) : Discipline where
  Obeys act := ∀ r, r.StopFed n first → r.StopSettled first → act.Settles n first r
  obeys_read read r fed settled := .of_read (read r) fed settled
  obeys_bind h hnext r fed settled := (h r fed settled).bind hnext
  obeys_change := by
    intro ε f h r fed settled
    obtain ⟨effect, values⟩ := h r
    exact ⟨fed.effect effect,
      .inr (settled.effect fed effect (values _).1 (values _).1 (values _).1)⟩

/-- Operations that bring the stop of a pulse up to date unless they are endless. -/
def Act.Restores (act : Act ε α) (n : NodeId) (first : Nat) : Prop :=
  ∀ r, r.StopFed n first → act.Settles n first r

namespace Act.Restores

private theorem obeys {act : Act ε α} (h : act.Restores n first) :
    (stopDiscipline n first).Obeys act :=
  fun r fed _ => h r fed

private theorem bind {act : Act ε α} {next : α → Act ε β} (h : act.Restores n first)
    (hnext : ∀ x, (stopDiscipline n first).Obeys (next x)) : (act >>= next).Restores n first :=
  fun r fed => (h r fed).bind hnext

private theorem endless :
    (throw .endless : Act ε α).Restores n first := fun _ fed => ⟨fed, .inl rfl⟩

private theorem after_state {p : ParamId} {next : Parameter → Act ε β}
    (h : ∀ param, (next param).Restores n first) : (p.state >>= next).Restores n first :=
  fun r fed => h (r.param p) r fed

end Act.Restores

/-! ## Each parameter keeps the stop up to date -/

namespace stopDiscipline

open Pulse

variable {p : ParamId} {fuel : Nat}

def feeds (first : Nat) (p : ParamId) : Prop := p = startAt first ∨ p = durationAt first

private theorem writes (start : p ≠ startAt first) (duration : p ≠ durationAt first)
    (stop : p ≠ stopAt first) : (stopDiscipline n first).Writes p := by
  intro raw value stamp r fed settled
  have untouched {q : ParamId} (ne : p ≠ q) : (Registry.param { r with
      params := r.params.change p.index ({ · with raw, value, stamp }) } q).value =
        (r.param q).value := by
    rw [param_change, if_neg fun both => ne both.1.symm]
  have effect : Effect r { r with
    params := r.params.change p.index ({ · with raw, value, stamp }) } := .cache r p raw value stamp
  exact ⟨fed.effect effect,
    .inr (settled.effect fed effect (untouched start) (untouched duration) (untouched stop))⟩

/-! ### The stop -/

private theorem stop_getWith (fuel : Nat) :
    ((stopAt first).getWith (engine fuel)).Restores n first :=
  fun _ fed => .of_takes fed (fed.stop_getWith_takes fuel)

section Engine

variable (ih : ∀ k ≤ fuel, ∀ request, (stopDiscipline n first).Obeys (engine k request))

include ih

private theorem stop_update {k : Nat} (hk : k ≤ fuel) :
    (engine k (.update (stopAt first))).Restores n first := by
  cases k with
  | zero => exact .endless
  | succ k =>
    have below := ih k (by omega)
    refine .after_state fun param => .bind (stop_getWith k) fun value => ?_
    dsimp only
    split
    · exact .bind (Discipline.announce below _) fun _ => .pure _
    · exact .pure _

private theorem stop_refresh (call : Call) :
    (engine fuel (.call (.refresh (stopAt first)) call)).Restores n first := by
  cases fuel with
  | zero => exact .endless
  | succ fuel => exact .bind (stop_update ih (Nat.le_succ fuel)) fun _ => .pure _

/-- The last thing that a write of the stop does is to read it back. -/
theorem stop_write (v : Value) :
    (stopDiscipline n first).Obeys ((stopAt first).write (engine fuel) v) := by
  have below := ih fuel (Nat.le_refl _)
  have readBack : (engine fuel (.call .pulseStop (.delegate n (stopAt first) .null)) >>=
      (stopAt first).receive (engine fuel)).Restores n first :=
    fun _ fed => .of_takes fed (fed.stop_receive_takes fuel)
  have written : (stopDiscipline n first).Obeys (do
      let raw ← (stopAt first).rawOf (engine fuel) v
      let _ ← engine fuel (.call .setPulseStop (.delegate n (stopAt first) raw))
      let _ ← engine fuel (.call .pulseStop (.delegate n (stopAt first) .null)) >>=
        (stopAt first).receive (engine fuel)
      return ()) :=
    .bind (Discipline.rawOf below _ _) fun _ => .bind (below _) fun _ =>
      .bind readBack.obeys fun _ => .pure _
  intro r fed settled
  have source : (r.param (stopAt first)).setSource = .owner := fed.fitted.setSource (i := 3) rfl
  have run := ParamId.write_run_of_owner source fed.stop_owner fed.stop_delegates (engine fuel) v
  rw [Act.Settles, run]
  exact written r fed settled

/-! ### Start and duration -/

private theorem feed_announce (hp : feeds first p) :
    (p.announce (engine fuel)).Restores n first := by
  have below := ih fuel (Nat.le_refl _)
  intro r fed
  by_cases connected : r.StopConnected first
  case neg => exact Discipline.announce below p r fed fun connects => absurd connects connected
  case pos =>
    obtain ⟨rest, all⟩ : ∃ rest, (r.param p).listeners =
        (⟨0⟩, .callback (.refresh (stopAt first))) :: rest := by
      rcases hp with rfl | rfl
      · exact fed.start.leads connected.start
      · exact fed.duration.leads connected.duration
    have told : ((r.param p).listeners.forM fun entry =>
        ParamId.tell (engine fuel) (r.param p).value entry.2).Restores n first := by
      rw [all]
      exact .bind (.bind (stop_refresh ih _) fun _ => .pure _) fun _ =>
        .forM (fun (entry : ListenerId × Listener) => Discipline.tell below _ entry.2) _
    exact told r fed

private theorem feed_setWith (hp : feeds first p) (v : Value) :
    (stopDiscipline n first).Obeys (p.setWith (engine fuel) v) := by
  intro r fed settled
  obtain ⟨source, plain, speaks⟩ : (r.param p).setSource = .cache ∧ (r.param p).setParser = none ∧
      r.Speaks p := by
    rcases hp with rfl | rfl
    · exact ⟨fed.fitted.setSource (i := 1) rfl, fed.fitted.setParser (i := 1) rfl,
        fed.fitted.speaksAt (i := 1) rfl⟩
    · exact ⟨fed.fitted.setSource (i := 2) rfl, fed.fitted.setParser (i := 2) rfl,
        fed.fitted.speaksAt (i := 2) rfl⟩
  rw [Act.Settles, ParamId.setWith, Act.bind_run, ParamId.write_run_of_cache source plain]
  cases (r.param p).validator.validate v with
  | error reason => exact ⟨fed, .inr settled⟩
  | ok _ =>
    obtain ⟨after, run, recorded⟩ := ParamId.record_spoken speaks v v
    dsimp only
    rw [run]
    exact feed_announce ih hp after (fed.of_wiring recorded.wiring)

end Engine

private theorem feed_getWith (hp : feeds first p) (handler : Handler) :
    (stopDiscipline n first).Obeys (p.getWith handler) := by
  intro r fed settled
  have source : (r.param p).getSource = .cache := by
    rcases hp with rfl | rfl
    · exact fed.start_source
    · exact fed.duration_source
  obtain ⟨after, run, stamped⟩ := ParamId.getWith_run_of_cache source handler
  rw [Act.Settles, run]
  exact ⟨fed.of_wiring stamped.wiring, .inr (settled.of_wiring stamped.wiring stamped.sameState.value)⟩

private theorem engine (fuel : Nat) (request : Request) :
    (stopDiscipline n first).Obeys (LabRegistry.engine fuel request) := by
  refine Discipline.engine (fun fuel ih p => ?_) fuel request
  have below := ih fuel (Nat.le_refl _)
  by_cases feed : feeds first p
  · exact ⟨feed_getWith feed _, feed_setWith ih feed, Discipline.updateWith below (feed_getWith feed _)⟩
  · by_cases stop : p = stopAt first
    · subst stop
      exact ⟨(stop_getWith fuel).obeys, fun v => Discipline.setWith below (stop_write ih v),
        Discipline.updateWith below (stop_getWith fuel).obeys⟩
    · have free : (stopDiscipline n first).Writes p :=
        writes (fun start => feed (.inl start)) (fun duration => feed (.inr duration)) stop
      have get := Discipline.getWith below free
      exact ⟨get, fun v => Discipline.setWith below (Discipline.write below free v),
        Discipline.updateWith below get⟩

theorem perform (request : Request) : (stopDiscipline n first).Obeys request.perform :=
  .bind .registry fun r => engine r.depthLimit request

end stopDiscipline

end LabRegistry

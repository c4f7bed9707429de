import LabRegistry.Proofs.Links.Connecting

/-!
# The listeners that were connected and not disconnected since

A parameter numbers its listeners from zero on as they are connected, and no number is given out twice.
What happens to the listeners is recorded from the time when the parameter is made, the calls that
callbacks make in the course of a push or a set included. At every moment the listeners are those that
the record says were connected and not disconnected since, in the order of their numbers.
-/
namespace LabRegistry

/-! ## Events -/

/-- What happens to the listeners of a parameter. -/
inductive ListenerEvent where
  /-- A listener is connected under a number. -/
  | joined (id : ListenerId) (listener : Listener)
  /-- A number is disconnected; the answer tells whether it was connected. -/
  | left (id : ListenerId) (answer : Bool)
  | cleared

namespace ListenerEvent

def entry? : ListenerEvent → Option (ListenerId × Listener)
  | .joined id listener => some (id, listener)
  | .left _ _ => none
  | .cleared => none

/-- From here on no listener is connected that had the number before. -/
def ends (id : ListenerId) : ListenerEvent → Bool
  | .joined _ _ => false
  | .left other _ => id == other
  | .cleared => true

/-- The listeners that were ever connected, in the order in which they came. -/
def connected (events : List ListenerEvent) : List (ListenerId × Listener) :=
  events.filterMap entry?

/-- The listeners that were connected and not disconnected since, in the order in which they came. -/
def remaining : List ListenerEvent → List (ListenerId × Listener)
  | [] => []
  | .joined id listener :: later =>
    if later.any (ends id) then remaining later else (id, listener) :: remaining later
  | _ :: later => remaining later

private theorem connected_concat (events : List ListenerEvent) (event : ListenerEvent) :
    connected (events ++ [event]) = connected events ++ event.entry?.toList := by
  cases event <;> simp [connected, entry?]

private theorem remaining_concat (events : List ListenerEvent) (event : ListenerEvent) :
    remaining (events ++ [event]) =
      ((remaining events).filter fun entry => !event.ends entry.1) ++ event.entry?.toList := by
  induction events with
  | nil => cases event <;> simp [remaining, entry?]
  | cons first later ih =>
    cases first with
    | joined id listener =>
      simp only [List.cons_append, remaining, List.any_append, List.any_cons, List.any_nil,
        Bool.or_false, ih]
      -- The listener was taken out before, or the further event decides.
      cases gone : later.any (ends id)
      · cases ended : event.ends id <;> simp [ended]
      · simp
    | left id answer => exact ih
    | cleared => exact ih

private theorem remaining_sublist (events : List ListenerEvent) :
    (remaining events).Sublist (connected events) := by
  induction events with
  | nil => exact .slnil
  | cons first later ih =>
    cases first with
    | joined id listener =>
      rw [remaining]
      split
      · exact ih.cons _
      · exact ih.cons_cons _
    | left id answer => exact ih
    | cleared => exact ih

end ListenerEvent

open ListenerEvent

/-! ## What the events tell of a parameter -/

namespace Parameter

/-- Of two listeners the one that comes first has the smaller number. -/
def InOrder (param : Parameter) : Prop :=
  param.listeners.Pairwise fun first second => first.1.number < second.1.number

/-- The events account for the numbers that were given out and for the listeners. -/
structure Recorded (param : Parameter) (events : List ListenerEvent) : Prop where
  numbers : (connected events).map (·.1.number) = List.range param.nextListener
  listeners : param.listeners = remaining events

namespace Recorded

variable {param after : Parameter} {events : List ListenerEvent}

private theorem of_new (silent : param.listeners = []) (first : param.nextListener = 0) :
    param.Recorded [] where
  numbers := by rw [first]; rfl
  listeners := silent

variable (h : param.Recorded events)

include h

private theorem of_same (listeners : after.listeners = param.listeners)
    (next : after.nextListener = param.nextListener) : after.Recorded events where
  numbers := next ▸ h.numbers
  listeners := listeners.trans h.listeners

private theorem addListener (listener : Listener) :
    (param.addListener listener).Recorded (events ++ [.joined ⟨param.nextListener⟩ listener]) where
  numbers := by
    simp [connected_concat, entry?, h.numbers, Parameter.addListener, List.range_succ]
  listeners := by
    simp [remaining_concat, ends, entry?, h.listeners, Parameter.addListener]

private theorem removeListener (id : ListenerId) (answer : Bool) :
    (param.removeListener id).Recorded (events ++ [.left id answer]) where
  numbers := by
    simpa [connected_concat, entry?, Parameter.removeListener] using h.numbers
  listeners := by
    simp [remaining_concat, ends, entry?, h.listeners, Parameter.removeListener, bne]

private theorem clearListeners : param.clearListeners.Recorded (events ++ [.cleared]) where
  numbers := by
    simpa [connected_concat, entry?, Parameter.clearListeners] using h.numbers
  listeners := by
    simp [remaining_concat, ends, entry?, Parameter.clearListeners]

private theorem next : param.nextListener = (connected events).length := by
  simpa using (congrArg List.length h.numbers).symm

private theorem nodup : ((connected events).map (·.1)).Nodup := by
  apply List.Nodup.of_map (·.number)
  rw [List.map_map]
  change ((connected events).map (·.1.number)).Nodup
  rw [h.numbers]
  exact List.nodup_range

private theorem inOrder : param.InOrder := by
  have all : ((connected events).map (·.1.number)).Pairwise (· < ·) := by
    rw [h.numbers]
    exact List.pairwise_lt_range
  rw [InOrder, h.listeners]
  exact (List.pairwise_map.mp all).sublist (remaining_sublist events)

end Recorded

variable {param : Parameter} {id : ListenerId} {listener : Listener}
  {before behind : List (ListenerId × Listener)}

private theorem InOrder.removeListener_eq (ordered : param.InOrder)
    (all : param.listeners = before ++ (id, listener) :: behind) :
    param.removeListener id = { param with listeners := before ++ behind } := by
  rw [InOrder, all, List.pairwise_append, List.pairwise_cons] at ordered
  obtain ⟨-, ⟨later, -⟩, earlier⟩ := ordered
  -- Numbers before it are smaller and numbers behind it greater, so no other goes with it.
  have kept (entry : ListenerId × Listener) (mem : entry ∈ before ++ behind) : (entry.1 != id) = true := by
    apply bne_iff_ne.mpr
    intro same
    rcases List.mem_append.mp mem with mem | mem
    · have less := earlier entry mem _ List.mem_cons_self
      exact Nat.lt_irrefl _ (same ▸ less)
    · have less := later entry mem
      exact Nat.lt_irrefl _ (same ▸ less)
  have rest := List.filter_eq_self.mpr kept
  rw [List.filter_append] at rest
  simp [Parameter.removeListener, all, rest]

private theorem removeListener_of_unknown (unknown : ∀ listener, (id, listener) ∉ param.listeners) :
    param.removeListener id = param := by
  have kept : param.listeners.filter (·.1 != id) = param.listeners := by
    apply List.filter_eq_self.mpr
    intro entry mem
    apply bne_iff_ne.mpr
    rintro rfl
    exact unknown entry.2 mem
  rw [Parameter.removeListener, kept]

end Parameter

namespace Registry

/-- The parameter stays, with the same listeners and the same next number. -/
structure SameListeners (r : Registry) (p : ParamId) (after : Registry) : Prop where
  inside : p.index < r.params.size → p.index < after.params.size
  listeners : (after.param p).listeners = (r.param p).listeners
  next : (after.param p).nextListener = (r.param p).nextListener

variable {r after : Registry} {p : ParamId}

private theorem SameListeners.of_params (same : after.params = r.params) :
    r.SameListeners p after where
  inside inside := same ▸ inside
  listeners := by rw [param, same, param]
  next := by rw [param, same, param]

private theorem SameListeners.of_change {q : ParamId} {f : Parameter → Parameter}
    (same : q = p → ∀ param, (f param).listeners = param.listeners ∧
      (f param).nextListener = param.nextListener) :
    r.SameListeners p { r with params := r.params.change q.index f } := by
  have both : (param { r with params := r.params.change q.index f } p).listeners = (r.param p).listeners ∧
      (param { r with params := r.params.change q.index f } p).nextListener =
        (r.param p).nextListener := by
    rw [param_change]
    split
    case isTrue changed => exact same changed.1.symm _
    case isFalse => exact ⟨rfl, rfl⟩
  exact ⟨fun inside => by simpa using inside, both.1, both.2⟩

/-- The parameter was made, and the events account for its listeners. -/
structure Tracks (r : Registry) (p : ParamId) (events : List ListenerEvent) : Prop where
  inside : p.index < r.params.size
  recorded : (r.param p).Recorded events

namespace Tracks

variable {events later : List ListenerEvent} {param : Parameter} {f : Parameter → Parameter}
  {now : Instant}

private theorem of_push (silent : param.listeners = []) (first : param.nextListener = 0) :
    Tracks { r with params := r.params.push param, now } ⟨r.params.size⟩ [] where
  inside := by simp
  recorded := by
    rw [Registry.param, Arena.get_push_size]
    exact .of_new silent first

private theorem change (h : r.Tracks p events) (step : (f (r.param p)).Recorded later) :
    Tracks { r with params := r.params.change p.index f } p later where
  inside := by simpa using h.inside
  recorded := by
    rw [param_change, if_pos ⟨rfl, h.inside⟩]
    exact step

private theorem elsewhere (h : r.Tracks p events) (same : r.SameListeners p after) :
    after.Tracks p events where
  inside := same.inside h.inside
  recorded := h.recorded.of_same same.listeners same.next

end Tracks

def withListeners (r : Registry) (p : ParamId) (listeners : List (ListenerId × Listener)) : Registry :=
  { r with params := r.params.change p.index ({ · with listeners }) }

end Registry

namespace ParamId

/-! ## Histories -/

/-- What happened to the listeners of a parameter from when it was made up to a registry. Whatever
leaves them alone may happen in between. -/
inductive History (p : ParamId) : List ListenerEvent → Registry → Prop
  | built {plan : ParameterPlan} {r after : Registry} (run : plan.create r = (.ok p, after)) :
      History p [] after
  | valued {name : String} {value : Value} {r after : Registry}
      (run : (ParamId.withValue name value : Act RegistryError ParamId) r = (.ok p, after)) :
      History p [] after
  /-- Both a link and a callback are connected so, a link before it pushes anything. -/
  | listen {events : List ListenerEvent} {r after : Registry} {id : ListenerId} {listener : Listener}
      (earlier : History p events r)
      (run : (p.listen listener : Act RegistryError ListenerId) r = (.ok id, after)) :
      History p (events ++ [.joined id listener]) after
  | disconnect {events : List ListenerEvent} {r after : Registry} {id : ListenerId} {answer : Bool}
      (earlier : History p events r)
      (run : (p.disconnect id : Act RegistryError Bool) r = (.ok answer, after)) :
      History p (events ++ [.left id answer]) after
  | disconnectAll {events : List ListenerEvent} {r after : Registry} (earlier : History p events r)
      (run : (p.disconnectAll : Act RegistryError Unit) r = (.ok (), after)) :
      History p (events ++ [.cleared]) after
  | elsewhere {events : List ListenerEvent} {r after : Registry} (earlier : History p events r)
      (same : r.SameListeners p after) : History p events after

variable {p : ParamId} {events : List ListenerEvent} {r after : Registry}

private theorem History.tracks (h : p.History events r) : r.Tracks p events := by
  induction h with
  | @built plan r after run =>
    cases accepted : plan.validator.validate plan.initial with
    | error reason =>
      rw [ParameterPlan.create, accepted] at run
      cases run
    | ok _ =>
      obtain ⟨now, now', created⟩ := plan.create_run accepted r
      rw [created] at run
      cases run
      exact .of_push rfl rfl
  | valued run =>
    cases run
    exact .of_push rfl rfl
  | listen earlier run ih =>
    cases run
    exact ih.change (ih.recorded.addListener _)
  | disconnect earlier run ih =>
    cases run
    exact ih.change (ih.recorded.removeListener _ _)
  | disconnectAll earlier run ih =>
    cases run
    exact ih.change ih.recorded.clearListeners
  | elsewhere earlier same ih => exact ih.elsewhere same

/-! ## Effects go on with a history -/

private theorem History.effect (h : p.History events r) (effect : Effect r after) :
    ∃ later, p.History (events ++ later) after := by
  -- All effects but those on the listeners of this very parameter leave no trace.
  have aside (same : r.SameListeners p after) : ∃ later, p.History (events ++ later) after :=
    ⟨[], by simpa using h.elsewhere same⟩
  cases effect with
  | cache => exact aside (.of_change fun _ _ => ⟨rfl, rfl⟩)
  | stamp => exact aside (.of_change fun _ _ => ⟨rfl, rfl⟩)
  | listen q listener =>
    by_cases same : q = p
    · subst same
      exact ⟨_, h.listen rfl⟩
    · exact aside (.of_change fun eq => absurd eq same)
  | disconnect q id =>
    by_cases same : q = p
    · subst same
      exact ⟨_, h.disconnect rfl⟩
    · exact aside (.of_change fun eq => absurd eq same)
  | disconnectAll q =>
    by_cases same : q = p
    · subst same
      exact ⟨_, h.disconnectAll rfl⟩
    · exact aside (.of_change fun eq => absurd eq same)
  | _ => exact aside (.of_params rfl)

private theorem History.effects (h : p.History events r) (effects : Effects r after) :
    ∃ later, p.History (events ++ later) after := by
  induction effects with
  | refl => exact ⟨[], by simpa using h⟩
  | tail _ effect ih =>
    obtain ⟨sooner, reached⟩ := ih
    obtain ⟨later, next⟩ := reached.effect effect
    exact ⟨sooner ++ later, by simpa using next⟩

private theorem History.connect (h : p.History events r) (target : ParamId) (link : Link) :
    ∃ later, p.History
      (events ++ .joined ⟨(r.param p).nextListener⟩ (.link target link) :: later)
      (p.connect target link r).2 := by
  have entered : p.History (events ++ [.joined ⟨(r.param p).nextListener⟩ (.link target link)])
      (r.hear p (.link target link)) := h.listen (listen_run p _ r)
  have pushed : Effects (r.hear p (.link target link)) (p.connect target link r).2 := by
    rw [connect_run]
    split
    · exact Effects.set target _ _
    · exact .refl
  obtain ⟨later, reached⟩ := entered.effects pushed
  exact ⟨later, by simpa using reached⟩

/-! ## Disconnecting -/

/-- Of listeners in order, disconnecting takes out the one with the number, and nothing else changes;
where there is none it changes nothing. -/
theorem disconnect_outcome (ordered : (r.param p).InOrder) (id : ListenerId) :
    (∃ before listener behind, (r.param p).listeners = before ++ (id, listener) :: behind ∧
        (p.disconnect id : Act RegistryError Bool) r =
          (.ok true, r.withListeners p (before ++ behind))) ∨
      (∀ listener, (id, listener) ∉ (r.param p).listeners) ∧
        (p.disconnect id : Act RegistryError Bool) r = (.ok false, r) := by
  have run : (p.disconnect id : Act RegistryError Bool) r = (.ok ((r.param p).hasListener id),
      { r with params := r.params.change p.index (·.removeListener id) }) := rfl
  rw [run]
  cases found : (r.param p).hasListener id with
  | true =>
    obtain ⟨⟨number, listener⟩, mem, same⟩ := List.any_eq_true.mp found
    obtain rfl : number = id := eq_of_beq same
    obtain ⟨before, behind, all⟩ := List.append_of_mem mem
    have params : r.params.change p.index (·.removeListener number) =
        r.params.change p.index ({ · with listeners := before ++ behind }) :=
      Arena.change_congr (ordered.removeListener_eq all)
    refine .inl ⟨before, listener, behind, all, ?_⟩
    rw [params, Registry.withListeners]
  | false =>
    have unknown (listener : Listener) : (id, listener) ∉ (r.param p).listeners := by
      intro mem
      have known : (r.param p).hasListener id = true := List.any_eq_true.mpr ⟨_, mem, beq_self_eq_true id⟩
      rw [found] at known
      cases known
    refine .inr ⟨unknown, ?_⟩
    rw [Arena.change_eq_self (Parameter.removeListener_of_unknown unknown)]

/-- The numbers that a parameter gives out are zero, one and so on, one for each listener that is ever
connected, so that none is given out twice, and fewer than `2 ^ 64` of them fit into 64 bits. At every
moment, in the midst of a push too, its listeners are those that were connected and not disconnected
since, in the order of their numbers. Disconnecting a number tells whether a listener has it, and takes
that listener out and no other. Connecting to a target goes on with the history, also if it fails: the
link comes first, and then what the push runs. So does every get, set and update. -/
theorem listeners_of_history (h : p.History events r) :
    ((connected events).map (·.1)).Nodup ∧
      (connected events).map (·.1.number) = List.range (connected events).length ∧
      (r.param p).nextListener = (connected events).length ∧
      (r.param p).listeners = remaining events ∧
      ((r.param p).listeners.Pairwise fun first second => first.1.number < second.1.number) ∧
      (∀ id, (∃ before listener behind, (r.param p).listeners = before ++ (id, listener) :: behind ∧
            (p.disconnect id : Act RegistryError Bool) r =
              (.ok true, r.withListeners p (before ++ behind))) ∨
          (∀ listener, (id, listener) ∉ (r.param p).listeners) ∧
            (p.disconnect id : Act RegistryError Bool) r = (.ok false, r)) ∧
      (∀ target link, ∃ later, p.History
        (events ++ .joined ⟨(connected events).length⟩ (.link target link) :: later)
        (p.connect target link r).2) ∧
      ∀ asked : Request, ∃ later, p.History (events ++ later) (asked.perform r).2 := by
  have recorded := h.tracks.recorded
  refine ⟨recorded.nodup, ?_, recorded.next, recorded.listeners, recorded.inOrder,
    disconnect_outcome recorded.inOrder, ?_, fun asked => h.effects (Effects.perform asked r)⟩
  · rw [← recorded.next]
    exact recorded.numbers
  · intro target link
    rw [← recorded.next]
    exact h.connect target link

/-- The push of a new link disconnects everything, the link too, connects a callback and fails. -/
theorem listeners_of_reconnecting_push :
    let callback : Script := .mk [] none
    let command : Callable :=
      .script (.mk [.disconnectAll "a", .connect "a" callback, .fail "broken"] none)
    let plan : ParameterPlan := { name := "a", initial := .bool true }
    let r := (Registry.start {} default).run [.createParameter "a" plan,
      .createParameter "b" (({ name := "b" } : ParameterPlan).withSetCommand command)]
    let a : ParamId := ⟨0⟩
    let b : ParamId := ⟨1⟩
    let link : Link := { update := true }
    let events : List ListenerEvent :=
      [.joined ⟨0⟩ (.link b link), .cleared, .joined ⟨1⟩ (.callback (.script callback))]
    ∃ after, a.connect b link r = (.error (.failed (.callableFailed "broken")), after) ∧
      a.History events after ∧
      (after.param a).listeners = [(⟨1⟩, .callback (.script callback))] ∧
      (after.param a).nextListener = 2 ∧
      (a.disconnect ⟨0⟩ : Act RegistryError Bool) after = (.ok false, after) := by
  intro callback command plan r a b link events
  have made : plan.create (.start {} default) = (.ok a, (plan.create (.start {} default)).2) := rfl
  have begun : a.History [] r := (History.built made).elsewhere ⟨fun _ => by decide, rfl, rfl⟩
  have entered := begun.listen (listen_run a (.link b link) r)
  have cleared := entered.disconnectAll rfl
  have joined := cleared.listen (listen_run a (.callback (.script callback)) _)
  have failed : a.connect b link r = (.error (.failed (.callableFailed "broken")),
      (b.set (.bool true) (r.hear a (.link b link))).2) := by
    have pushes : (link.update && !(r.param a).value.isNull) = true := rfl
    rw [connect_run, if_pos pushes, Link.apply_plain]
    rfl
  have params : (b.set (.bool true) (r.hear a (.link b link))).2.params =
      (((r.hear a (.link b link)).withListeners a []).hear a (.callback (.script callback))).params := rfl
  have history : a.History events (b.set (.bool true) (r.hear a (.link b link))).2 :=
    joined.elsewhere (.of_params params)
  obtain ⟨-, -, next, listeners, -, disconnects, -⟩ := listeners_of_history history
  refine ⟨_, failed, history, listeners, next, ?_⟩
  rcases disconnects ⟨0⟩ with ⟨before, listener, behind, all, -⟩ | ⟨-, unknown⟩
  · rw [listeners] at all
    have known : (⟨0⟩, listener) ∈ remaining events := by
      rw [all]
      simp
    simp [events, remaining, ends] at known
  · exact unknown

end ParamId
end LabRegistry

import LabRegistry.Proofs.Engine.Cache
import LabRegistry.Proofs.Engine.Visit

/-!
# Values that validators accept

A parameter that is got from its own cache is set there too, after its validator accepted the value.
Only gets from a command or from the owner write a cache unchecked, and a parameter keeps its
sources. So whatever requests run, such a parameter never holds a value that its validator refuses.
-/
namespace LabRegistry

/-- If the parameter is got from its cache, no owner sets it and its validator accepts its value. -/
structure Parameter.Sound (param : Parameter) : Prop where
  direct : param.getSource = .cache → param.setSource ≠ .owner
  accepted : param.getSource = .cache → param.validator.validate param.value = .ok ()

/-- The parameters agree on what decides which values may be cached, and on the cached value. -/
structure Parameter.SameChecks (param after : Parameter) : Prop where
  getSource : after.getSource = param.getSource
  setSource : after.setSource = param.setSource
  validator : after.validator = param.validator
  value : after.value = param.value

theorem Parameter.Sound.of_same {param after : Parameter} (h : param.Sound)
    (same : param.SameChecks after) : after.Sound where
  direct cache := by
    rw [same.setSource]
    exact h.direct (same.getSource ▸ cache)
  accepted cache := by
    rw [same.validator, same.value]
    exact h.accepted (same.getSource ▸ cache)

namespace Registry

def Sound (r : Registry) : Prop := ∀ p, (r.param p).Sound

/-- No change that leaves the registry sound if it was. -/
def StaysSound (r after : Registry) : Prop := r.Sound → after.Sound

instance : IsPreorder Registry StaysSound where
  refl _ := id
  trans _ _ _ h h' := h' ∘ h

variable {r after : Registry}

private theorem StaysSound.of_same (h : ∀ p, (r.param p).SameChecks (after.param p)) :
    r.StaysSound after :=
  fun sound p => (sound p).of_same (h p)

theorem StaysSound.of_params (h : after.params = r.params) : r.StaysSound after :=
  .of_same fun p => by
    have same : after.param p = r.param p := congrArg (·.get p.index) h
    rw [same]
    exact ⟨rfl, rfl, rfl, rfl⟩

theorem StaysSound.of_change {p : ParamId} {f : Parameter → Parameter}
    (h : (r.param p).Sound → (f (r.param p)).Sound) :
    r.StaysSound { r with params := r.params.change p.index f } := by
  intro sound q
  rw [param_change]
  split
  case isTrue same =>
    obtain ⟨rfl, -⟩ := same
    exact h (sound q)
  case isFalse => exact sound q

theorem SameSetups.staysSound (h : r.SameSetups after) (values : r.SameValues after) :
    r.StaysSound after :=
  .of_same fun p => {
    getSource := congrArg (·.getSource) (h.setup p)
    setSource := congrArg (·.setSource) (h.setup p)
    validator := congrArg (·.validator) (h.setup p)
    value := (values p).1 }

end Registry

open Registry

/-- A property of registries that effects keep. -/
structure Lasting where
  Holds : Registry → Prop
  lasts : ∀ {r after : Registry}, Effects r after → Holds r → Holds after

namespace Lasting

/-- The property that every registry has. -/
def always : Lasting := ⟨fun _ => True, fun _ _ => trivial⟩

def fetched (p : ParamId) : Lasting where
  Holds r := (r.param p).getSource ≠ .cache
  lasts effects h := by
    have same : _ = (Registry.param _ p).getSource := congrArg (·.getSource) (effects.sameSetups.setup p)
    exact same ▸ h

/-- The validator of the parameter accepts a value, and no owner sets the parameter. -/
def takes (p : ParamId) (v : Value) : Lasting where
  Holds r := (r.param p).setSource ≠ .owner ∧ (r.param p).validator.validate v = .ok ()
  lasts effects h := by
    have source : _ = (Registry.param _ p).setSource :=
      congrArg (·.setSource) (effects.sameSetups.setup p)
    have validator : _ = (Registry.param _ p).validator :=
      congrArg (·.validator) (effects.sameSetups.setup p)
    exact ⟨source ▸ h.1, validator ▸ h.2⟩

/-- Operations that change a registry with the property by effects only and leave it sound. -/
def discipline (L : Lasting) : Discipline where
  Obeys act := ∀ r, L.Holds r → Effects r (act r).2 ∧ r.StaysSound (act r).2
  obeys_read read r _ := by
    rw [read r]
    exact ⟨.refl, id⟩
  obeys_bind := by
    intro ε α β act next h hnext r holds
    obtain ⟨effects, stays⟩ := h r holds
    rw [Act.bind_run]
    rcases run : act r with ⟨halt | x, mid⟩
    all_goals rw [run] at effects stays
    · exact ⟨effects, stays⟩
    · obtain ⟨effects', stays'⟩ := hnext x mid (L.lasts effects holds)
      exact ⟨effects.trans effects', stays' ∘ stays⟩
  obeys_change h r _ :=
    ⟨.single (h r).1, (h r).1.sameSetups.staysSound (h r).2⟩

variable {ε α : Type} {L : Lasting} {p : ParamId} {v : Value} {fuel : Nat}

private theorem of_always {act : Act ε α} (h : always.discipline.Obeys act) :
    L.discipline.Obeys act :=
  fun r _ => h r trivial

/-! ## Writing caches -/

private theorem fetched_writes (p : ParamId) : (fetched p).discipline.Writes p :=
  fun raw value stamp r holds => ⟨.single (.cache r p raw value stamp),
    .of_change fun _ => ⟨fun cache => absurd cache holds, fun cache => absurd cache holds⟩⟩

private theorem takes_record (p : ParamId) (raw v : Value) :
    (takes p v).discipline.Obeys (p.record raw v) := by
  have written (now : Instant) : (takes p v).discipline.Obeys
      (p.change ({ · with raw, value := v, stamp := some now }) : Act RegistryError Unit) :=
    fun r holds => ⟨.single (.cache r p raw v (some now)),
      .of_change fun _ => ⟨fun _ => holds.1, fun _ => holds.2⟩⟩
  have write : (takes p v).discipline.Obeys (do
      let now ← Act.readClock
      p.change ({ · with raw, value := v, stamp := some now }) : Act RegistryError Unit) :=
    .bind Discipline.readClock written
  refine .bind (.read fun _ => rfl) fun param => ?_
  dsimp only
  split
  · exact .bind (Discipline.debug (.bind (Discipline.paramFullName p) fun _ => .pure _)) fun _ => write
  · exact write

/-! ## Requests -/

section

variable (below : ∀ request, always.discipline.Obeys (engine fuel request))

include below

private theorem getWith (p : ParamId) : always.discipline.Obeys (p.getWith (engine fuel)) := by
  intro r _
  by_cases cache : (r.param p).getSource = .cache
  · have run : p.getWith (engine fuel) r =
        (do
          p.stampNow
          return (← p.state).value : Act RegistryError Value) r := by
      rw [ParamId.getWith, Act.bind_run, ParamId.state_run]
      dsimp only
      rw [cache]
    have got : always.discipline.Obeys (do
        p.stampNow
        return (← p.state).value : Act RegistryError Value) :=
      .bind (Discipline.stampNow p) fun _ => .read fun _ => rfl
    rw [run]
    exact got r trivial
  · exact Discipline.getWith (fun request => of_always (below request)) (fetched_writes p) r cache

private theorem write_takes (p : ParamId) (v : Value) :
    (takes p v).discipline.Obeys (p.write (engine fuel) v) := by
  have below' (request : Request) : (takes p v).discipline.Obeys (engine fuel request) :=
    of_always (below request)
  intro r holds
  cases source : (r.param p).setSource with
  | nowhere =>
    have run : p.write (engine fuel) v r = (p.failReadOnly : Act RegistryError Unit) r := by
      rw [ParamId.write, Act.bind_run, ParamId.state_run]
      dsimp only
      rw [source]
    rw [run]
    exact (Discipline.failReadOnly p : (takes p v).discipline.Obeys _) r holds
  | cache =>
    have run : p.write (engine fuel) v r = (do
        let raw ← p.rawOf (engine fuel) v
        p.record raw v : Act RegistryError Unit) r := by
      rw [ParamId.write, Act.bind_run, ParamId.state_run]
      dsimp only
      rw [source]
    rw [run]
    exact Discipline.Obeys.bind (Discipline.rawOf below' p v) (fun raw => takes_record p raw v) r holds
  | command command =>
    have run : p.write (engine fuel) v r = (do
        let raw ← p.rawOf (engine fuel) v
        let _ ← engine fuel (.call command (.withValue raw))
        p.record raw v : Act RegistryError Unit) r := by
      rw [ParamId.write, Act.bind_run, ParamId.state_run]
      dsimp only
      rw [source]
    rw [run]
    exact Discipline.Obeys.bind (Discipline.rawOf below' p v)
      (fun raw => .bind (below' _) fun _ => takes_record p raw v) r holds
  | owner => exact absurd source holds.1

omit below in
private theorem write_refused {r : Registry} {reason : String}
    (direct : (r.param p).setSource ≠ .owner)
    (refused : (r.param p).validator.validate v = .error reason) :
    (p.write (engine fuel) v r).2 = r := by
  have raw : p.rawOf (engine fuel) v r = (.error (r.naming p (.invalidValue · reason)), r) := by
    rw [ParamId.rawOf, Act.bind_run, ParamId.state_run]
    dsimp only
    rw [refused]
    dsimp only
    rw [Act.bind_run, ParamId.fullName_run, naming]
    cases r.paramName? p <;> rfl
  rw [ParamId.write, Act.bind_run, ParamId.state_run]
  dsimp only
  cases source : (r.param p).setSource with
  | nowhere =>
    have failed : (p.failReadOnly : Act RegistryError Unit) r = (.error (r.naming p .readOnly), r) :=
      p.fail_run .readOnly r
    exact congrArg Prod.snd failed
  | cache =>
    dsimp only
    rw [Act.bind_run, raw]
  | command command =>
    dsimp only
    rw [Act.bind_run, raw]
  | owner => exact absurd source direct

private theorem write (p : ParamId) (v : Value) :
    always.discipline.Obeys (p.write (engine fuel) v) := by
  intro r _
  by_cases cache : (r.param p).getSource = .cache
  case neg =>
    exact Discipline.write (fun request => of_always (below request)) (fetched_writes p) v r cache
  by_cases owned : (r.param p).setSource = .owner
  · have effects : Effects r (p.write (engine fuel) v r).2 :=
      Discipline.write (D := Effects.discipline) (Effects.engine fuel) (Effects.writes p) v r
    exact ⟨effects, fun sound => absurd owned ((sound p).direct cache)⟩
  cases checked : (r.param p).validator.validate v with
  | ok _ => exact write_takes below p v r ⟨owned, checked⟩
  | error reason =>
    rw [write_refused owned checked]
    exact ⟨.refl, id⟩

end

private theorem engine (fuel : Nat) (request : Request) :
    always.discipline.Obeys (engine fuel request) :=
  Discipline.engine (fun fuel ih p => by
    have below := ih fuel (Nat.le_refl _)
    have get := getWith below p
    exact ⟨get, fun v => Discipline.setWith below (write below p v), Discipline.updateWith below get⟩)
    fuel request

theorem perform (request : Request) : always.discipline.Obeys request.perform :=
  .bind .registry fun r => engine r.depthLimit request

end Lasting

namespace Act.Keeps

variable {ε α : Type} {act : Act ε α}

theorem staysSound (h : Lasting.always.discipline.Obeys act) : act.Keeps StaysSound :=
  fun r => (h r trivial).2

end Act.Keeps
end LabRegistry

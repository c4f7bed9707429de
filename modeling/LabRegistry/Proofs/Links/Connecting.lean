import LabRegistry.Proofs.Binding.Command
import LabRegistry.Proofs.Pulse.Stop
import LabRegistry.Proofs.Transfer.Outcome

/-!
# Connecting to a target

A connection enters its link first and then pushes the current value. If the push fails, the
connection fails, and the link stays where it is: only what the push itself runs can take it out
again. A link to a target that can not be set makes all later sets fail.
-/
namespace LabRegistry

/-! ## Listeners that come and go -/

namespace Parameter

/-- Some listeners may be gone, the others are in their order, and those that came follow under
numbers that had never been given out. -/
structure Turnover (param after : Parameter) : Prop where
  next : param.nextListener ≤ after.nextListener
  listeners : ∃ (keep : ListenerId × Listener → Bool) (newer : List (ListenerId × Listener)),
    after.listeners = param.listeners.filter keep ++ newer ∧
      ∀ entry ∈ newer, param.nextListener ≤ entry.1.number

instance : IsPreorder Parameter Turnover where
  refl param := ⟨Nat.le_refl _, fun _ => true, [], by simp, nofun⟩
  trans param mid after h h' := by
    obtain ⟨keep, newer, listeners, numbers⟩ := h.listeners
    obtain ⟨keep', newer', listeners', numbers'⟩ := h'.listeners
    refine ⟨h.next.trans h'.next, fun entry => keep' entry && keep entry,
      newer.filter keep' ++ newer', ?_, ?_⟩
    · rw [listeners', listeners, List.filter_append, List.filter_filter, List.append_assoc]
    · intro entry mem
      rcases List.mem_append.mp mem with old | new
      · exact numbers entry (List.mem_of_mem_filter old)
      · exact h.next.trans (numbers' entry new)

variable {param after : Parameter}

private theorem Rewired.turnover (h : param.Rewired after) : param.Turnover after := by
  cases h with
  | same same =>
    have listeners : after.listeners = param.listeners := congrArg (·.listeners) same
    have next : after.nextListener = param.nextListener := congrArg (·.nextListener) same
    exact ⟨next.ge, fun _ => true, [], by simp [listeners], nofun⟩
  | listen listener =>
    refine ⟨Nat.le_succ _, fun _ => true, [(⟨param.nextListener⟩, listener)], ?_, ?_⟩
    · simp [addListener]
    · intro entry mem
      obtain rfl := List.mem_singleton.mp mem
      exact Nat.le_refl _
  | disconnect id => exact ⟨Nat.le_refl _, (·.1 != id), [], by simp [removeListener], nofun⟩
  | disconnectAll => exact ⟨Nat.le_refl _, fun _ => false, [], by simp [clearListeners], nofun⟩

/-- After a listener was added and others came and went, the listeners are as before if and only if it
is gone, all of the others are still there and none came. -/
theorem Turnover.undone_iff {listener : Listener} (numbered : param.Numbered)
    (h : (param.addListener listener).Turnover after) :
    after.listeners = param.listeners ↔
      (⟨param.nextListener⟩, listener) ∉ after.listeners ∧
      (∀ entry ∈ param.listeners, entry ∈ after.listeners) ∧
      ∀ entry ∈ after.listeners, entry.1.number ≤ param.nextListener := by
  obtain ⟨keep, newer, listeners, numbers⟩ := h.listeners
  constructor
  · intro same
    rw [same]
    exact ⟨fun mem => Nat.lt_irrefl _ (numbered.below _ mem), fun entry mem => mem,
      fun entry mem => (numbered.below entry mem).le⟩
  · rintro ⟨gone, kept, none⟩
    have nothing : newer = [] := by
      apply List.eq_nil_iff_forall_not_mem.mpr
      intro entry mem
      have late := numbers entry mem
      have early := none entry (listeners ▸ List.mem_append_right _ mem)
      exact Nat.lt_irrefl _ (late.trans early)
    rw [nothing, List.append_nil, addListener, List.filter_append] at listeners
    have out : keep (⟨param.nextListener⟩, listener) = false := by
      apply Bool.eq_false_iff.mpr
      intro stays
      apply gone
      rw [listeners]
      exact List.mem_append_right _ (List.mem_filter.mpr ⟨List.mem_singleton_self _, stays⟩)
    have all : ∀ entry ∈ param.listeners, keep entry = true := by
      intro entry mem
      have still := kept entry mem
      rw [listeners, ← List.filter_append] at still
      exact List.of_mem_filter still
    rw [listeners, List.filter_eq_self.mpr all]
    simp [out]

end Parameter

private theorem Effects.turnover {r after : Registry} (h : Effects r after) (p : ParamId) :
    (r.param p).Turnover (after.param p) := by
  induction h with
  | refl => exact refl _
  | tail _ effect ih => exact IsTrans.trans _ _ _ ih (effect.rewired p).turnover

theorem Link.apply_plain (v : Value) : ({ update := true } : Link).apply v = v := by
  have plain : ((Double.ofInt 1).eq (.ofInt 1) && Double.zero.eq .zero) = true := by decide +kernel
  rw [Link.apply, Value.scaleOffset, if_pos plain]

namespace ParamId

variable {r after : Registry} {p target : ParamId} {link : Link} {halt : Halt RegistryError}

/-! ## Links to read-only parameters -/

private theorem set_run_of_nowhere {p : ParamId} (source : (r.param p).setSource = .nowhere)
    (v : Value) :
    p.set v r = (.error (r.naming p .readOnly), r) := by
  rw [set_eq, setWith, Act.bind_run, write_run_of_nowhere source]

private theorem set_through_locked_link {id : ListenerId} (source : (r.param p).setSource = .cache)
    (plain : (r.param p).setParser = none) (mem : (id, .link target link) ∈ (r.param p).listeners)
    (locked : (r.param target).setSource = .nowhere) (v : Value) : p.set v r ≠ (.ok (), after) := by
  intro run
  rw [set_eq, setWith, Act.bind_run, write_run_of_cache source plain] at run
  generalize r.depthLimit - 1 = fuel at run
  cases valid : (r.param p).validator.validate v with
  | error reason =>
    rw [valid] at run
    cases run
  | ok _ =>
    rw [valid] at run
    dsimp only at run
    have recorded := record_outcome p v v r
    rcases record : p.record v v r with ⟨halt | _, written⟩
    all_goals rw [record] at run recorded
    · cases run
    · have same := recorded.wiring
      have told := tell_outcome (engine fuel) (written.param p).value (written.param p).listeners written
      change (written.param p).listeners.forM (fun entry =>
        tell (engine fuel) (written.param p).value entry.2) written = _ at run
      rw [run] at told
      have asked : Request.set target (link.apply (written.param p).value) ∈
          notices (written.param p).value (written.param p).listeners := by
        rw [same.listeners]
        exact List.mem_map.mpr ⟨_, mem, rfl⟩
      obtain ⟨answer, s, last, effects, answered⟩ := told.answered_of_mem (Effects.engine fuel) asked
      have still : (s.param target).setSource = .nowhere :=
        (effects.sameSetups.setSource target).trans ((same.setSource target).trans locked)
      cases fuel with
      | zero => cases answered
      | succ fuel =>
        rw [engine, Request.answer, Act.bind_run, setWith, Act.bind_run, write_run_of_nowhere still]
          at answered
        cases answered

/-! ## Connections that fail -/

/-- Connecting enters the link and then pushes the current value, if it is wanted and there is one. -/
theorem connect_run (p target : ParamId) (link : Link) (r : Registry) :
    p.connect target link r =
      if link.update && !(r.param p).value.isNull then
        target.set (link.apply (r.param p).value) (r.hear p (.link target link))
      else (.ok (), r.hear p (.link target link)) := by
  have latest : (p.latest : Act RegistryError Value) (r.hear p (.link target link)) =
      (.ok (r.param p).value, r.hear p (.link target link)) := by
    rw [← Registry.value_hear r p p (.link target link)]
    rfl
  rw [connect, Act.bind_run, listen_run]
  dsimp only
  cases link.update with
  | false => rfl
  | true =>
    rw [if_pos rfl, Act.bind_run, latest]
    dsimp only
    cases (r.param p).value.isNull <;> rfl

private theorem connect_run_of_nowhere (wanted : link.update = true)
    (current : (r.param p).value.isNull = false) (locked : (r.param target).setSource = .nowhere) :
    p.connect target link r = (.error ((r.hear p (.link target link)).naming target .readOnly),
      r.hear p (.link target link)) := by
  have locked' : ((r.hear p (.link target link)).param target).setSource = .nowhere := by
    rw [Registry.param_hear]
    split <;> exact locked
  have pushes : (link.update && !(r.param p).value.isNull) = true := by
    rw [wanted, current]
    rfl
  rw [connect_run, if_pos pushes, set_run_of_nowhere locked']

/-- A connection fails where the push of the current value does, and nothing is taken back then: the
listeners are as before if and only if what the push runs takes out the link and nothing else, and
adds nothing. -/
theorem listeners_of_failed_connect (inside : p.index < r.params.size)
    (failed : p.connect target link r = (.error halt, after)) :
    let added : ListenerId × Listener := (⟨(r.param p).nextListener⟩, .link target link)
    let entered := r.hear p (.link target link)
    (entered.param p).listeners = (r.param p).listeners ++ [added] ∧
      link.update = true ∧ (r.param p).value.isNull = false ∧
      target.set (link.apply (r.param p).value) entered = (.error halt, after) ∧
      (entered.param p).Turnover (after.param p) ∧
      ((r.param p).Numbered →
        ((after.param p).listeners = (r.param p).listeners ↔
          added ∉ (after.param p).listeners ∧
          (∀ entry ∈ (r.param p).listeners, entry ∈ (after.param p).listeners) ∧
          ∀ entry ∈ (after.param p).listeners, entry.1.number ≤ (r.param p).nextListener)) := by
  intro added entered
  have cell : entered.param p = (r.param p).addListener (.link target link) :=
    (r.param_hear p p _).trans (if_pos ⟨rfl, inside⟩)
  rw [connect_run] at failed
  by_cases pushes : (link.update && !(r.param p).value.isNull) = true
  case neg =>
    rw [if_neg pushes] at failed
    cases failed
  case pos =>
    rw [if_pos pushes] at failed
    obtain ⟨update, value⟩ := Bool.and_eq_true_iff.mp pushes
    have turnover : (entered.param p).Turnover (after.param p) := by
      have effects := Effects.set target (link.apply (r.param p).value) entered
      rw [failed] at effects
      exact effects.turnover p
    refine ⟨by rw [cell]; rfl, update, by simpa using value, failed, turnover, fun numbered => ?_⟩
    rw [cell] at turnover
    exact turnover.undone_iff numbered

/-- A value is pushed to a read-only parameter: the connection fails, its link stays, and the source,
which could be set to anything before, can not be set any more. -/
theorem failed_connect_leaves_link :
    let r := (Registry.start {} default).run [.createParameter "a" { name := "a", initial := .bool true },
      .createParameter "b" ({ name := "b" } : ParameterPlan).readOnly]
    let a : ParamId := ⟨0⟩
    let b : ParamId := ⟨1⟩
    let link : Link := { update := true }
    (∀ v, ∃ after, a.set v r = (.ok (), after)) ∧ (r.param a).listeners = [] ∧
      ∃ after, a.connect b link r = (.error (.failed (.readOnly "b")), after) ∧
        (after.param a).listeners = [(⟨0⟩, .link b link)] ∧
        ∀ v last, a.set v after ≠ (.ok (), last) := by
  intro r a b link
  have failed : a.connect b link r =
      (.error (.failed (.readOnly "b")), r.hear a (.link b link)) :=
    connect_run_of_nowhere rfl rfl rfl
  refine ⟨fun v => ⟨(a.set v r).2, ?_⟩, rfl, _, failed, rfl, fun v last => ?_⟩
  · cases v <;> rfl
  · exact set_through_locked_link rfl rfl (List.mem_singleton_self _) rfl v

/-- A command that disconnects the source and fails: the connection fails, and no link is left. -/
theorem listeners_of_disconnecting_push :
    let command : Callable := .script (.mk [.disconnectAll "a", .fail "broken"] none)
    let r := (Registry.start {} default).run [.createParameter "a" { name := "a", initial := .bool true },
      .createParameter "b" (({ name := "b" } : ParameterPlan).withSetCommand command)]
    let a : ParamId := ⟨0⟩
    let b : ParamId := ⟨1⟩
    let link : Link := { update := true }
    a.index < r.params.size ∧
      ∃ after, a.connect b link r = (.error (.failed (.callableFailed "broken")), after) ∧
        (after.param a).listeners = [] ∧
        ((after.param a).listeners = (r.param a).listeners ↔
          (⟨0⟩, .link b link) ∉ (after.param a).listeners ∧
          (∀ entry ∈ (r.param a).listeners, entry ∈ (after.param a).listeners) ∧
          ∀ entry ∈ (after.param a).listeners, entry.1.number ≤ 0) := by
  intro command r a b link
  have inside : a.index < r.params.size := by decide
  have failed : a.connect b link r = (.error (.failed (.callableFailed "broken")),
      (b.set (.bool true) (r.hear a (.link b link))).2) := by
    have pushes : (link.update && !(r.param a).value.isNull) = true := rfl
    rw [connect_run, if_pos pushes, Link.apply_plain]
    rfl
  obtain ⟨-, -, -, -, -, exact⟩ := listeners_of_failed_connect inside failed
  have silent : (r.param a).listeners = [] := rfl
  have gone : ((b.set (.bool true) (r.hear a (.link b link))).2.param a).listeners = [] := rfl
  exact ⟨inside, _, failed, gone, exact (.of_unheard silent)⟩

end ParamId
end LabRegistry

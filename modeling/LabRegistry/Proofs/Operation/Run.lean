import LabRegistry.Registry.Naming
import Mathlib.Order.Defs.Unbundled

/-!
# Running operations

How the steps of an operation act on a registry, and the relations between the registry before
and after that every step keeps. `Act.Keeps` covers operations that stop on the way as well,
since what they did before stays done. `Act.Upholds` is about those that succeed and their results.
-/
namespace LabRegistry

namespace Act

variable {ε α β : Type}

@[simp] theorem pure_run (x : α) (r : Registry) : (pure x : Act ε α) r = (.ok x, r) := rfl

theorem bind_run (act : Act ε α) (next : α → Act ε β) (r : Registry) :
    (act >>= next) r = match act r with
      | (.ok x, after) => next x after
      | (.error halt, after) => (.error halt, after) := by
  change (ExceptT.bindCont next (act r).1) (act r).2 = _
  rcases act r with ⟨_ | _, _⟩ <;> rfl

theorem bind_eq_ok {act : Act ε α} {next : α → Act ε β} {y : β} {r after : Registry} :
    (act >>= next) r = (.ok y, after) ↔ ∃ x mid, act r = (.ok x, mid) ∧ next x mid = (.ok y, after) := by
  rw [bind_run]
  rcases act r with ⟨halt | x, mid⟩
  · constructor
    · exact nofun
    · rintro ⟨_, _, ⟨⟩, -⟩
  · constructor
    · exact fun run => ⟨x, mid, rfl, run⟩
    · rintro ⟨_, _, ⟨⟩, run⟩
      exact run

@[simp] theorem map_run (f : α → β) (act : Act ε α) (r : Registry) :
    (f <$> act) r = ((act r).1.map f, (act r).2) := by
  change (ExceptT.map f act) r = _
  rw [ExceptT.map]
  rcases h : act r with ⟨_ | _, _⟩
  all_goals
    simp only [bind, StateT.bind, ExceptT.mk, h]
    rfl

@[simp] theorem registry_run (r : Registry) : (registry : Act ε Registry) r = (.ok r, r) := rfl

@[simp] theorem change_run (f : Registry → Registry) (r : Registry) :
    (change f : Act ε Unit) r = (.ok (), f r) := rfl

@[simp] theorem fail_run (cause : ε) (r : Registry) :
    (fail cause : Act ε α) r = (.error (.failed cause), r) := rfl

@[simp] theorem throw_run (halt : Halt ε) (r : Registry) :
    (throw halt : Act ε α) r = (.error halt, r) := rfl

/-- The result of an operation, which can be compared where its errors cannot. -/
theorem run_of_toOption {act : Act ε α} {x : α} {r : Registry}
    (h : (act r).1.toOption = some x) : act r = (.ok x, (act r).2) := by
  rcases run : act r with ⟨halt | y, after⟩
  all_goals rw [run] at h
  · cases h
  · cases h
    rfl

theorem length_of_mapM {f : α → Act ε β} {xs : List α} {ys : List β} {r after : Registry}
    (h : xs.mapM f r = (.ok ys, after)) : ys.length = xs.length := by
  induction xs generalizing ys r with
  | nil =>
    cases h
    rfl
  | cons x xs ih =>
    rw [List.mapM_cons, bind_run] at h
    rcases first : f x r with ⟨halt | y, s⟩
    all_goals rw [first] at h
    · cases h
    · dsimp only at h
      rw [bind_run] at h
      rcases rest : xs.mapM f s with ⟨halt | zs, s'⟩
      all_goals rw [rest] at h
      · cases h
      · cases h
        simp [ih rest]

theorem foldlM_run {step : β → α → Act ε β} {next : β → α → β} {passes : Registry → Prop} {xs : List α}
    (h : ∀ x ∈ xs, ∀ acc r, passes r →
      ∃ after, step acc x r = (.ok (next acc x), after) ∧ passes after)
    (acc : β) {r : Registry} (hr : passes r) :
    ∃ after, xs.foldlM step acc r = (.ok (xs.foldl next acc), after) ∧ passes after := by
  induction xs generalizing acc r with
  | nil => exact ⟨r, rfl, hr⟩
  | cons x xs ih =>
    obtain ⟨mid, run, hmid⟩ := h x List.mem_cons_self acc r hr
    obtain ⟨after, rest, hafter⟩ :=
      ih (fun y mem => h y (List.mem_cons_of_mem _ mem)) (next acc x) hmid
    refine ⟨after, ?_, hafter⟩
    rw [List.foldlM_cons, bind_run, run]
    exact rest

theorem discard_run (act : Act ε α) (r : Registry) :
    ((do let _ ← act : Act ε Unit) r).2 = (act r).2 := by
  rw [bind_run]
  rcases act r with ⟨_ | _, _⟩ <;> rfl

theorem orEndless_run (answer : Registry → Option α) (r : Registry) :
    (orEndless answer : Act ε α) r = match answer r with
      | some x => (.ok x, r)
      | none => (.error .endless, r) := by
  simp only [orEndless, bind_run, registry_run]
  cases answer r <;> rfl

theorem mapError_eq_ok {ε' : Type} {f : ε → ε'} {act : Act ε α} {x : α} {r after : Registry} :
    act.mapError f r = (.ok x, after) ↔ act r = (.ok x, after) := by
  rw [mapError]
  rcases act r with ⟨halt | y, s⟩
  · exact ⟨nofun, nofun⟩
  · constructor
    all_goals
      rintro ⟨⟩
      rfl

theorem mapError_run {ε' : Type} (f : ε → ε') (act : Act ε α) (r : Registry) :
    act.mapError f r = ((act r).1.mapError (Halt.map f), (act r).2) := by
  rw [mapError]
  rcases act r with ⟨_ | _, _⟩ <;> rfl

theorem attempt_of_ok {ε' : Type} {act : Act ε α} {x : α} {r after : Registry}
    (h : act r = (.ok x, after)) : (act.attempt : Act ε' (Option α)) r = (.ok (some x), after) := by
  rw [attempt, h]

theorem attempt_of_failed {ε' : Type} {act : Act ε α} {cause : ε} {r after : Registry}
    (h : act r = (.error (.failed cause), after)) :
    (act.attempt : Act ε' (Option α)) r = (.ok none, after) := by
  rw [attempt, h]

theorem attempt_of_endless {ε' : Type} {act : Act ε α} {r after : Registry}
    (h : act r = (.error .endless, after)) :
    (act.attempt : Act ε' (Option α)) r = (.error .endless, after) := by
  rw [attempt, h]

theorem attempt_snd {ε' : Type} (act : Act ε α) (r : Registry) :
    ((act.attempt : Act ε' (Option α)) r).2 = (act r).2 := by
  rw [attempt]
  rcases act r with ⟨⟨_ | _ | _⟩ | _, _⟩ <;> rfl

theorem holding_run (n : NodeId) (act : Act ε α) (r : Registry) :
    holding n act r = ((act { r with inUse := n :: r.inUse }).1,
      { (act { r with inUse := n :: r.inUse }).2 with inUse := r.inUse }) :=
  rfl

theorem holding_eq_ok {n : NodeId} {act : Act ε α} {x : α} {r after : Registry} :
    holding n act r = (.ok x, after) ↔ ∃ last, act { r with inUse := n :: r.inUse } = (.ok x, last) ∧
      after = { last with inUse := r.inUse } := by
  rw [holding_run, Prod.mk.injEq]
  constructor
  · rintro ⟨result, rfl⟩
    exact ⟨_, Prod.ext result rfl, rfl⟩
  · rintro ⟨last, run, rfl⟩
    rw [run]
    exact ⟨rfl, rfl⟩

end Act

@[simp] theorem NodeId.state_run {ε : Type} (n : NodeId) (r : Registry) :
    (n.state : Act ε Node) r = (.ok (r.node n), r) := rfl

@[simp] theorem NodeId.change_run {ε : Type} (n : NodeId) (f : Node → Node) (r : Registry) :
    (n.change f : Act ε Unit) r = (.ok (), { r with nodes := r.nodes.change n.index f }) := rfl

@[simp] theorem ParamId.state_run {ε : Type} (p : ParamId) (r : Registry) :
    (p.state : Act ε Parameter) r = (.ok (r.param p), r) := rfl

@[simp] theorem ParamId.change_run {ε : Type} (p : ParamId) (f : Parameter → Parameter)
    (r : Registry) :
    (p.change f : Act ε Unit) r = (.ok (), { r with params := r.params.change p.index f }) := rfl

theorem Registry.param_change (r : Registry) (p q : ParamId) (f : Parameter → Parameter) :
    param { r with params := r.params.change p.index f } q =
      if q = p ∧ p.index < r.params.size then f (r.param q) else r.param q := by
  have same : p.index = q.index ↔ q = p := by
    cases p
    cases q
    simp [eq_comm]
  simp only [param, Arena.get_change, same]

theorem Registry.sequence_change (r : Registry) (s t : SequenceId) (f : Sequence → Sequence) :
    sequence { r with sequences := r.sequences.change s.index f } t =
      if t = s ∧ s.index < r.sequences.size then f (r.sequence t) else r.sequence t := by
  have same : s.index = t.index ↔ t = s := by
    cases s
    cases t
    simp [eq_comm]
  simp only [sequence, Arena.get_change, same]

@[simp] theorem NodeId.parent?_run {ε : Type} (n : NodeId) (r : Registry) :
    (n.parent? : Act ε (Option NodeId)) r = (.ok (r.parent? n), r) := rfl

@[simp] theorem NodeId.contains_run {ε : Type} (n target : NodeId) (r : Registry) :
    (n.contains target : Act ε Bool) r = (.ok (r.contains n target), r) := rfl

/-! ## Relations that operations keep -/

/-- Whatever the registry is at first, the one afterwards stands in the relation to it. -/
def Act.Keeps {ε α : Type} (R : Registry → Registry → Prop) (act : Act ε α) : Prop :=
  ∀ r, R r (act r).2

namespace Act.Keeps

variable {ε α β : Type} {R : Registry → Registry → Prop}

theorem mono {S : Registry → Registry → Prop} {act : Act ε α} (h : act.Keeps R)
    (le : ∀ r after, R r after → S r after) : act.Keeps S := fun r => le r _ (h r)

theorem change {f : Registry → Registry} (h : ∀ r, R r (f r)) :
    (Act.change f : Act ε Unit).Keeps R :=
  h

theorem mapError {ε' : Type} {f : ε → ε'} {act : Act ε α} (h : act.Keeps R) :
    (act.mapError f).Keeps R := by
  intro r
  rw [mapError_run]
  exact h r

variable [IsPreorder Registry R]

theorem pure (x : α) : (Pure.pure x : Act ε α).Keeps R := fun r => refl r

theorem throw (halt : Halt ε) : (MonadExcept.throw halt : Act ε α).Keeps R := fun r => refl r

theorem fail (cause : ε) : (Act.fail cause : Act ε α).Keeps R := fun r => refl r

theorem registry : (Act.registry : Act ε Registry).Keeps R := fun r => refl r

theorem after {next : α → Act ε β} (hnext : ∀ x, (next x).Keeps R) (act : Act ε α) (r : Registry) :
    R (act r).2 ((act >>= next) r).2 := by
  rw [bind_run]
  rcases act r with ⟨halt | x, after⟩
  · exact refl after
  · exact hnext x after

theorem bind {act : Act ε α} {next : α → Act ε β} (h : act.Keeps R) (hnext : ∀ x, (next x).Keeps R) :
    (act >>= next).Keeps R := by
  intro r
  exact IsTrans.trans _ _ _ (h r) (after hnext act r)

theorem read {act : Act ε α} (h : ∀ r, (act r).2 = r) : act.Keeps R := by
  intro r
  rw [h r]
  exact refl r

theorem orEndless (answer : Registry → Option α) : (Act.orEndless answer : Act ε α).Keeps R := by
  apply read
  intro r
  rw [orEndless_run]
  cases answer r <;> rfl

theorem writeLog {level : LogLevel} {text : Act ε String} (htext : text.Keeps R)
    (hlog : ∀ r lines, R r { r with log := { r.log with lines } }) :
    (Act.writeLog level text).Keeps R := by
  refine bind registry fun r => ?_
  split
  · exact bind htext fun line => change fun r => hlog r _
  · exact pure _

omit [IsPreorder Registry R] in
theorem attempt {ε' : Type} {act : Act ε α} (h : act.Keeps R) :
    (act.attempt : Act ε' (Option α)).Keeps R := fun r => by
  rw [attempt_snd]
  exact h r

theorem forM {f : α → Act ε PUnit} (h : ∀ x, (f x).Keeps R) (xs : List α) :
    (xs.forM f).Keeps R := by
  induction xs with
  | nil => exact pure _
  | cons x xs ih => exact bind (h x) fun _ => ih

end Act.Keeps

/-! ## Operations that agree -/

/-- On the registries in question both operations do the same and lead to such a registry
again. -/
def Act.Agree {ε α : Type} (P : Registry → Prop) (f g : Act ε α) : Prop :=
  ∀ r, P r → f r = g r ∧ P (f r).2

namespace Act.Agree

variable {ε α β : Type} {P : Registry → Prop}

theorem of_keeps {R : Registry → Registry → Prop} {act : Act ε α} (h : act.Keeps R)
    (stays : ∀ r after, P r → R r after → P after) : Agree P act act :=
  fun r hr => ⟨rfl, stays r _ hr (h r)⟩

theorem bind {f g : Act ε α} {next next' : α → Act ε β} (h : Agree P f g)
    (hnext : ∀ x, Agree P (next x) (next' x)) : Agree P (f >>= next) (g >>= next') := by
  intro r hr
  obtain ⟨same, stays⟩ := h r hr
  rw [bind_run, bind_run, ← same]
  rcases hf : f r with ⟨halt | x, after⟩
  all_goals rw [hf] at stays
  · exact ⟨rfl, stays⟩
  · exact hnext x after stays

theorem pure (x : α) : Agree P (Pure.pure x : Act ε α) (Pure.pure x) := fun _ hr => ⟨rfl, hr⟩

theorem mapM {f g : α → Act ε β} {xs : List α} (h : ∀ x ∈ xs, Agree P (f x) (g x)) :
    Agree P (xs.mapM f) (xs.mapM g) := by
  induction xs with
  | nil => exact pure _
  | cons x xs ih =>
    rw [List.mapM_cons, List.mapM_cons]
    exact bind (h x List.mem_cons_self) fun _ =>
      bind (ih fun x hx => h x (List.mem_cons_of_mem _ hx)) fun _ => pure _

theorem foldlM {f g : β → α → Act ε β} {xs : List α} (h : ∀ x ∈ xs, ∀ acc, Agree P (f acc x) (g acc x))
    (acc : β) : Agree P (xs.foldlM f acc) (xs.foldlM g acc) := by
  induction xs generalizing acc with
  | nil => exact pure _
  | cons x xs ih =>
    exact bind (h x List.mem_cons_self acc) fun acc =>
      ih (fun x hx => h x (List.mem_cons_of_mem _ hx)) acc

end Act.Agree

/-- On the registries in question the second operation does what the first one does wherever that
one gives a result, and leads to such a registry again. -/
def Act.Refines {ε α : Type} (P : Registry → Prop) (f g : Act ε α) : Prop :=
  ∀ r, P r → ∀ {x after}, f r = (.ok x, after) → g r = (.ok x, after) ∧ P after

namespace Act.Refines

variable {ε α β : Type} {P : Registry → Prop}

theorem of_agree {f g : Act ε α} (h : Agree P f g) : Refines P f g := by
  intro r hr x after hf
  obtain ⟨same, stays⟩ := h r hr
  rw [hf] at same stays
  exact ⟨same.symm, stays⟩

theorem pure (x : α) : Refines P (Pure.pure x : Act ε α) (Pure.pure x) := of_agree (.pure x)

theorem bind {f g : Act ε α} {next next' : α → Act ε β} (h : Refines P f g)
    (hnext : ∀ x, Refines P (next x) (next' x)) : Refines P (f >>= next) (g >>= next') := by
  intro r hr y final hf
  rw [bind_run] at hf ⊢
  rcases first : f r with ⟨halt | x, after⟩
  all_goals rw [first] at hf
  · cases hf
  · obtain ⟨same, stays⟩ := h r hr first
    rw [same]
    exact hnext x after stays hf

theorem mapM {f g : α → Act ε β} (h : ∀ x, Refines P (f x) (g x)) (xs : List α) :
    Refines P (xs.mapM f) (xs.mapM g) := by
  induction xs with
  | nil => exact pure _
  | cons x xs ih =>
    rw [List.mapM_cons, List.mapM_cons]
    exact bind (h x) fun _ => bind ih fun _ => pure _

theorem foldlM {f g : β → α → Act ε β} (h : ∀ acc x, Refines P (f acc x) (g acc x)) (xs : List α)
    (acc : β) : Refines P (xs.foldlM f acc) (xs.foldlM g acc) := by
  induction xs generalizing acc with
  | nil => exact pure _
  | cons x xs ih => exact bind (h acc x) fun acc => ih acc

end Act.Refines

/-! ## Properties that operations uphold -/

/-- Wherever a property of registries holds and the operation succeeds, the property holds afterwards,
and the result is as stated. -/
def Act.Upholds {ε α : Type} (I : Registry → Prop) (act : Act ε α) (post : α → Prop) : Prop :=
  ∀ r x after, I r → act r = (.ok x, after) → I after ∧ post x

namespace Act.Upholds

variable {ε α β : Type} {I : Registry → Prop} {post : α → Prop} {act : Act ε α}

theorem pure {x : α} (h : post x) : (Pure.pure x : Act ε α).Upholds I post := by
  intro r y after holds run
  cases run
  exact ⟨holds, h⟩

theorem throw (halt : Halt ε) : (MonadExcept.throw halt : Act ε α).Upholds I post := by
  intro r y after _ run
  cases run

theorem fail (cause : ε) : (Act.fail cause : Act ε α).Upholds I post := throw _

theorem bind {next : α → Act ε β} {post' : β → Prop} (h : act.Upholds I post)
    (hnext : ∀ x, post x → (next x).Upholds I post') : (act >>= next).Upholds I post' := by
  intro r y after holds run
  obtain ⟨x, mid, first, run⟩ := bind_eq_ok.mp run
  obtain ⟨holds, result⟩ := h r x mid holds first
  exact hnext x result mid y after holds run

theorem followed {next : α → Act ε β} {post' : β → Prop} (h : act.Upholds I fun _ => True)
    (hnext : ∀ x, (next x).Upholds I post') : (act >>= next).Upholds I post' :=
  bind h fun x _ => hnext x

theorem read (h : act.Keeps Eq) (result : ∀ r x, I r → (act r).1 = .ok x → post x) :
    act.Upholds I post := by
  intro r x after holds run
  have same : r = after := (h r).trans (congrArg Prod.snd run)
  exact ⟨same ▸ holds, result r x holds (congrArg Prod.fst run)⟩

theorem skim (h : act.Keeps Eq) : act.Upholds I fun _ => True := read h fun _ _ _ _ => trivial

theorem change {f : Registry → Registry} (h : ∀ r, I r → I (f r)) :
    (Act.change f : Act ε Unit).Upholds I fun _ => True := by
  intro r x after holds run
  cases run
  exact ⟨h r holds, trivial⟩

theorem mapError {ε' : Type} {f : ε → ε'} (h : act.Upholds I post) : (act.mapError f).Upholds I post :=
  fun r x after holds run => h r x after holds (mapError_eq_ok.mp run)

theorem of_keeps {R : Registry → Registry → Prop} (h : act.Keeps R)
    (stays : ∀ r after, I r → R r after → I after) : act.Upholds I fun _ => True := by
  intro r x after holds run
  have kept := h r
  rw [run] at kept
  exact ⟨stays r after holds kept, trivial⟩

theorem mapM {f : α → Act ε β} {post : β → Prop} {xs : List α} (h : ∀ x ∈ xs, (f x).Upholds I post) :
    (xs.mapM f).Upholds I fun ys => ∀ y ∈ ys, post y := by
  induction xs with
  | nil => exact pure fun _ => nofun
  | cons x xs ih =>
    rw [List.mapM_cons]
    refine bind (h x List.mem_cons_self) fun y first => ?_
    refine bind (ih fun x mem => h x (List.mem_cons_of_mem _ mem)) fun ys rest => pure ?_
    exact List.forall_mem_cons.mpr ⟨first, rest⟩

theorem forM {f : α → Act ε PUnit} (h : ∀ x, (f x).Upholds I fun _ => True) (xs : List α) :
    (xs.forM f).Upholds I fun _ => True := by
  induction xs with
  | nil => exact pure trivial
  | cons x xs ih => exact followed (h x) fun _ => ih

theorem writeLog {level : LogLevel} {text : Act ε String} (htext : text.Keeps Eq)
    (hlog : ∀ r lines, I r → I { r with log := { r.log with lines } }) :
    (Act.writeLog level text).Upholds I fun _ => True := by
  refine followed (skim .registry) fun r => ?_
  split
  · exact followed (skim htext) fun line => change fun r => hlog r _
  · exact pure trivial

end Act.Upholds
end LabRegistry

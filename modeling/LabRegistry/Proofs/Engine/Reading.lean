import LabRegistry.Proofs.Engine.Cache
import LabRegistry.Registry.Engine

/-!
# Reading

Gets of parameters that keep their values in their caches only read: what they give is in the
cache, and they leave the wiring and all values alone. They end unless there is too little fuel.
-/
namespace LabRegistry

namespace Registry

/-- The wiring, the bench and all cached values are the same. -/
structure SameState (r after : Registry) : Prop where
  wiring : r.SameWiring after
  bench : after.bench = r.bench
  value : ∀ p, (after.param p).value = (r.param p).value

instance : IsPreorder Registry SameState where
  refl r := ⟨refl r, rfl, fun _ => rfl⟩
  trans _ _ _ h h' := ⟨IsTrans.trans _ _ _ h.wiring h'.wiring, h'.bench.trans h.bench,
    fun p => (h'.value p).trans (h.value p)⟩

variable {r after : Registry} {p : ParamId}

private theorem Stamped.bench (h : r.Stamped p after) : after.bench = r.bench := by
  obtain ⟨now, stamp⟩ := h
  rfl

private theorem Recorded.bench {raw value : Value} (h : r.Recorded p raw value after) :
    after.bench = r.bench := by
  obtain ⟨lines, now, stamp⟩ := h
  rfl

theorem Stamped.sameState (h : r.Stamped p after) : r.SameState after :=
  ⟨h.wiring, h.bench, fun q => (h.values q).1⟩

end Registry

open Registry

/-- The operation gives `x` and leaves the wiring and all values alone. It may also run out of
fuel where it is `short` of it. -/
def Act.Reads {ε α : Type} (act : Act ε α) (r : Registry) (x : α) (short : Prop) : Prop :=
  ∃ after, r.SameState after ∧
    (act r = (.ok x, after) ∨ short ∧ act r = (.error .endless, after))

namespace Act.Reads

variable {ε α β : Type} {r : Registry} {act : Act ε α} {x : α} {short : Prop}

theorem of_run (h : act r = (.ok x, r)) : act.Reads r x short := ⟨r, refl r, .inl h⟩

theorem mono {more : Prop} (h : act.Reads r x short) (le : short → more) : act.Reads r x more := by
  obtain ⟨after, same, run | ⟨isShort, run⟩⟩ := h
  · exact ⟨after, same, .inl run⟩
  · exact ⟨after, same, .inr ⟨le isShort, run⟩⟩

theorem bind {next : α → Act ε β} {y : β} (h : act.Reads r x short)
    (hnext : ∀ after, r.SameState after → (next x).Reads after y short) :
    (act >>= next).Reads r y short := by
  obtain ⟨after, same, run | ⟨isShort, run⟩⟩ := h
  · obtain ⟨final, same', run'⟩ := hnext after same
    refine ⟨final, IsTrans.trans _ _ _ same same', ?_⟩
    rw [bind_run, run]
    exact run'
  · refine ⟨after, same, .inr ⟨isShort, ?_⟩⟩
    rw [bind_run, run]

theorem pure (x : α) : (Pure.pure x : Act ε α).Reads r x short := of_run rfl

end Act.Reads

variable {r : Registry}

theorem ParamId.getWith_run_of_cache {p : ParamId} (source : (r.param p).getSource = .cache)
    (handler : Handler) :
    ∃ after, p.getWith handler r = (.ok (r.param p).value, after) ∧ r.Stamped p after := by
  obtain ⟨after, run, stamped⟩ := p.stampNow_run r
  refine ⟨after, ?_, stamped⟩
  rw [getWith, Act.bind_run, state_run]
  dsimp only
  rw [source]
  dsimp only
  rw [Act.bind_run, run]
  dsimp only
  rw [Act.bind_run, state_run]
  dsimp only
  rw [(stamped.values p).1]
  rfl

theorem Request.perform_eq (request : Request) (r : Registry) :
    request.perform r = request.answer (engine (r.depthLimit - 1)) r := by
  have limit : r.depthLimit - 1 + 1 = r.depthLimit := by
    rw [Registry.depthLimit]
    omega
  change engine r.depthLimit request r = _
  rw [← limit]
  rfl

theorem ParamId.set_eq (p : ParamId) (v : Value) (r : Registry) :
    p.set v r = p.setWith (engine (r.depthLimit - 1)) v r := by
  rw [set, Act.bind_run, Request.perform_eq, Request.answer, Act.bind_run]
  rcases p.setWith (engine (r.depthLimit - 1)) v r with ⟨_ | _, _⟩ <;> rfl

theorem Registry.fuel_le (r : Registry) : 399999 ≤ r.depthLimit - 1 := by
  rw [depthLimit]
  omega

theorem Request.perform_run (request : Request) (r : Registry) :
    ∃ fuel, 399999 ≤ fuel ∧ request.perform r = request.answer (engine fuel) r :=
  ⟨_, r.fuel_le, request.perform_eq r⟩

theorem ParamId.set_run (p : ParamId) (v : Value) (r : Registry) :
    ∃ fuel, 399999 ≤ fuel ∧ p.set v r = p.setWith (engine fuel) v r :=
  ⟨_, r.fuel_le, p.set_eq v r⟩

theorem get_reads {p : ParamId} (source : (r.param p).getSource = .cache) (fuel : Nat) :
    (engine fuel (.get p)).Reads r (r.param p).value (fuel < 1) := by
  cases fuel with
  | zero => exact ⟨r, refl r, .inr ⟨by omega, rfl⟩⟩
  | succ fuel =>
    obtain ⟨after, run, stamped⟩ := ParamId.getWith_run_of_cache source (engine fuel)
    exact ⟨after, stamped.sameState, .inl run⟩

/-! ## Gets that refresh the cache -/

/-- The wiring and the bench are the same and so are all cached values but that of `p`, which is
`v`. -/
structure Registry.Took (r : Registry) (p : ParamId) (v : Value) (after : Registry) : Prop where
  wiring : r.SameWiring after
  bench : after.bench = r.bench
  self : (after.param p).value = v
  others : ∀ q, q ≠ p → (after.param q).value = (r.param q).value

/-- The operation gives `v` and takes it into the cache of `p`. It may also run out of fuel where
it is `short` of it. -/
def Act.Takes (act : Act RegistryError Value) (r : Registry) (p : ParamId) (v : Value)
    (short : Prop) : Prop :=
  (∃ after, act r = (.ok v, after) ∧ r.Took p v after) ∨
    ∃ after, short ∧ act r = (.error .endless, after) ∧ r.SameState after

theorem ParamId.get_run_of_takes {p : ParamId} {v : Value} {few : Nat} (little : few ≤ 399999)
    (takes : ∀ fuel, (p.getWith (engine fuel)).Takes r p v (fuel < few)) :
    ∃ after, p.get r = (.ok v, after) ∧ r.Took p v after := by
  obtain ⟨fuel, enough, run⟩ := (Request.get p).perform_run r
  have performed : p.get r = p.getWith (engine fuel) r := run
  rw [performed]
  rcases takes fuel with taken | ⟨_, short, _⟩
  · exact taken
  · omega

theorem Registry.Recorded.took {p : ParamId} {raw v : Value} {after : Registry}
    (h : r.Recorded p raw v after) (inside : p.index < r.params.size) : r.Took p v after where
  wiring := h.wiring
  bench := h.bench
  self := (h.param_self inside).2
  others _ ne := by rw [h.param_of_ne ne]

private theorem Registry.SameState.took {p : ParamId} {v : Value} {s after : Registry}
    (h : r.SameState s) (took : s.Took p v after) : r.Took p v after where
  wiring := IsTrans.trans _ _ _ h.wiring took.wiring
  bench := took.bench.trans h.bench
  self := took.self
  others q ne := (took.others q ne).trans (h.value q)

theorem Act.Takes.reads {act : Act RegistryError Value} {p : ParamId} {short : Prop}
    (h : act.Takes r p (r.param p).value short) : act.Reads r (r.param p).value short := by
  rcases h with ⟨after, run, took⟩ | ⟨after, isShort, run, same⟩
  · refine ⟨after, ⟨took.wiring, took.bench, fun q => ?_⟩, .inl run⟩
    by_cases same : q = p
    · rw [same, took.self]
    · exact took.others q same
  · exact ⟨after, same, .inr ⟨isShort, run⟩⟩

theorem ParamId.ownerDelegates_run {p : ParamId} {n : NodeId} (owner : r.owner? p = some n)
    (operation : Operation) : p.ownerDelegates operation r =
      (.ok (n, (r.node n).delegatesFor (r.param p).name), r) := by
  have asked : (p.owner? : Act RegistryError (Option NodeId)) r = (.ok (r.owner? p), r) := rfl
  rw [ownerDelegates, Act.bind_run, asked, owner]
  rfl

theorem ParamId.getWith_run_of_owner {p : ParamId} {n : NodeId} {getter : Callable}
    (source : (r.param p).getSource = .owner) (owner : r.owner? p = some n)
    (delegate : ((r.node n).delegatesFor (r.param p).name).getter = some getter)
    (handler : Handler) : p.getWith handler r =
      (do p.receive handler (← handler (.call getter (.delegate n p .null)))) r := by
  rw [getWith, Act.bind_run, state_run]
  dsimp only
  rw [source]
  dsimp only
  rw [Act.bind_run, ownerDelegates_run owner]
  dsimp only
  rw [delegate]

theorem ParamId.write_run_of_owner {p : ParamId} {n : NodeId} {getter setter : Callable}
    (source : (r.param p).setSource = .owner) (owner : r.owner? p = some n)
    (delegates : (r.node n).delegatesFor (r.param p).name = ⟨some getter, some setter⟩)
    (handler : Handler) (v : Value) : p.write handler v r = (do
      let raw ← p.rawOf handler v
      let _ ← handler (.call setter (.delegate n p raw))
      let _ ← handler (.call getter (.delegate n p .null)) >>= p.receive handler
      return ()) r := by
  rw [write, Act.bind_run, state_run]
  dsimp only
  rw [source]
  dsimp only
  rw [Act.bind_run, ownerDelegates_run owner, delegates]
  simp only [bind_assoc]

theorem ParamId.receive_takes {p : ParamId} {act : Act RegistryError Value} {v : Value}
    {short : Prop} (handler : Handler) (plain : (r.param p).getParser = none)
    (speaks : r.Speaks p) (inside : p.index < r.params.size)
    (reads : act.Reads r v short) :
    (do p.receive handler (← act) : Act RegistryError Value).Takes r p v short := by
  rw [Act.Takes, Act.bind_run]
  obtain ⟨s, same, run | ⟨isShort, run⟩⟩ := reads
  · have kept := same.wiring
    obtain ⟨after, received, recorded⟩ := receive_run ((kept.getParser p).trans plain)
      (kept.speaks p speaks) handler v
    rw [run]
    exact .inl ⟨after, received, same.took (recorded.took (kept.size ▸ inside))⟩
  · rw [run]
    exact .inr ⟨s, isShort, rfl, same⟩

end LabRegistry

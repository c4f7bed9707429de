import LabRegistry.Proofs.Engine.Reading
import LabRegistry.Proofs.Fitting.Planned
import LabRegistry.Proofs.Snapshot.ShortForm

/-!
# Snapshots that update

The short form of a node, when it updates, gets every parameter before it reports it. If the gets give
known values, whichever of some caches were renewed before, the report is known as well, and nothing
but these caches is renewed.
-/
namespace LabRegistry

open Registry

namespace Registry

/-- Nothing but some caches may be different. -/
structure Renewed (r : Registry) (caches : Set ParamId) (after : Registry) : Prop where
  wiring : r.SameWiring after
  bench : after.bench = r.bench
  others : ∀ p ∉ caches, (after.param p).value = (r.param p).value

variable {r mid after : Registry} {caches : Set ParamId} {p : ParamId} {v : Value}

namespace Renewed

theorem unchanged (r : Registry) : r.Renewed caches r := ⟨refl r, rfl, fun _ _ => rfl⟩

private theorem reads (h : r.Renewed caches mid) (same : mid.SameState after) :
    r.Renewed caches after where
  wiring := IsTrans.trans _ _ _ h.wiring same.wiring
  bench := same.bench.trans h.bench
  others p free := (same.value p).trans (h.others p free)

private theorem takes (h : r.Renewed caches mid) (took : mid.Took p v after) (mem : p ∈ caches) :
    r.Renewed caches after where
  wiring := IsTrans.trans _ _ _ h.wiring took.wiring
  bench := took.bench.trans h.bench
  others q free := (took.others q fun same => free (same ▸ mem)).trans (h.others q free)

end Renewed
end Registry

/-- Whichever of the caches were renewed before, a get gives the value, which is cached then, and
renews no others. -/
def ParamId.Gives (p : ParamId) (r : Registry) (caches : Set ParamId) (v : Value) : Prop :=
  ∀ s, r.Renewed caches s →
    ∃ after, p.get s = (.ok v, after) ∧ (after.param p).value = v ∧ r.Renewed caches after

section

variable {r s : Registry} {caches : Set ParamId} {n : NodeId} {p : ParamId} {v : Value} {first depth : Nat}
  {plans : List ParameterPlan} {options : SnapshotOptions} {values : String → Value}
  {report : NodeId → List (String × Value)}

theorem ParamId.gives_of_cache (source : (r.param p).getSource = .cache) (free : p ∉ caches) :
    p.Gives r caches (r.param p).value := by
  intro s hs
  obtain ⟨fuel, -, run⟩ := (Request.get p).perform_run s
  obtain ⟨after, got, stamped⟩ :=
    getWith_run_of_cache ((hs.wiring.getSource p).trans source) (engine fuel)
  have performed : p.get s = p.getWith (engine fuel) s := run
  refine ⟨after, ?_, ?_, hs.reads stamped.sameState⟩
  · rw [performed, got, hs.others p free]
  · rw [(stamped.values p).1, hs.others p free]

/-- A cache that a get renews is one of those renewed, or it was up to date. -/
theorem ParamId.gives_of_takes {few : Nat} (little : few ≤ 399999)
    (takes : ∀ s, r.Renewed caches s →
      ∀ fuel, (p.getWith (engine fuel)).Takes s p v (fuel < few))
    (kept : p ∈ caches ∨ (r.param p).value = v) : p.Gives r caches v := by
  intro s hs
  obtain ⟨after, run, took⟩ := get_run_of_takes little (takes s hs)
  refine ⟨after, run, took.self, ?_⟩
  by_cases mem : p ∈ caches
  · exact hs.takes took mem
  · have current : v = (s.param p).value := (kept.resolve_left mem).symm.trans (hs.others p mem).symm
    refine hs.reads ⟨took.wiring, took.bench, fun q => ?_⟩
    by_cases same : q = p
    · rw [same, took.self, current]
    · exact took.others q same

private theorem ParamId.Gives.addShown_run (h : p.Gives r caches v)
    (shown : (r.param p).inSnapshot = true)
    (hs : r.Renewed caches s) (members : List (String × Value)) (name : String) :
    ∃ after, NodeId.addShown true members name p s =
        (.ok (Entries.insert (simplifiedKey name (r.param p).unit) v members), after) ∧
      r.Renewed caches after := by
  obtain ⟨after, run, value, renewed⟩ := h s hs
  have shown' : (s.param p).inSnapshot = true :=
    (congrArg (·.inSnapshot) (hs.wiring.setups.setup p)).trans shown
  have unit : (after.param p).unit = (r.param p).unit :=
    congrArg (·.unit) (renewed.wiring.setups.setup p)
  have got : p.refreshShown true s = (.ok (), after) := by
    rw [ParamId.refreshShown, Act.bind_run, ParamId.state_run]
    dsimp only
    rw [shown', if_pos (Bool.and_self true), Act.bind_run, run]
    rfl
  refine ⟨after, ?_, renewed⟩
  rw [NodeId.addShown, Act.bind_run, ParamId.state_run]
  dsimp only
  rw [if_pos shown', Act.bind_run, got]
  dsimp only
  rw [Act.bind_run, ParamId.state_run]
  dsimp only
  rw [value, unit]
  rfl

/-- What the short form of a node reports: its class tag, its parameters with what gets give, and what
its child nodes report. -/
def Registry.shortReport (r : Registry) (n : NodeId) (plans : List ParameterPlan)
    (values : String → Value) (report : NodeId → List (String × Value)) : List (String × Value) :=
  Entries.enter (Entries.enter [(classKey, .string (r.node n).config.classTag)]
      (plans.map fun plan => (simplifiedKey plan.name plan.unit, values plan.name)))
    ((r.node n).children.entries.map fun entry => (entry.1, .object (report entry.2)))

private theorem Registry.Fitted.enterShown_run (h : r.Fitted n first plans)
    (shown : ∀ plan ∈ plans, plan.inSnapshot = true)
    (gives : ∀ i plan, plans[i]? = some plan →
      (⟨first + i⟩ : ParamId).Gives r caches (values plan.name))
    (hs : r.Renewed caches s) (members : List (String × Value)) :
    ∃ after, (r.node n).parameters.entries.foldlM
        (fun members entry => NodeId.addShown true members entry.1 entry.2) members s =
          (.ok (Entries.enter members
            (plans.map fun plan => (simplifiedKey plan.name plan.unit, values plan.name))), after) ∧
      r.Renewed caches after := by
  have entered : Entries.enter members
      (plans.map fun plan => (simplifiedKey plan.name plan.unit, values plan.name)) =
        (r.node n).parameters.entries.foldl (fun members entry => Entries.insert
          (simplifiedKey entry.1 (r.param entry.2).unit) (values entry.1) members) members := by
    have planned : (ParameterPlan.entries first plans).map (fun entry =>
        (simplifiedKey entry.1 (r.param entry.2).unit, values entry.1)) =
          plans.map fun plan => (simplifiedKey plan.name plan.unit, values plan.name) :=
      ParameterPlan.map_entries fun i plan hi => by rw [h.unit hi]
    rw [← planned, Entries.enter, List.foldl_map, h.entries]
  rw [entered]
  refine Act.foldlM_run (fun entry mem members s hs => ?_) members hs
  rw [h.entries] at mem
  obtain ⟨i, plan, hi, rfl⟩ := ParameterPlan.exists_of_mem_entries mem
  exact (gives i plan hi).addShown_run ((h.inSnapshot hi).trans (shown plan (List.mem_of_getElem? hi)))
    hs members plan.name

private theorem enterReports_run {children : List (String × NodeId)}
    (below : ∀ entry ∈ children, ∀ s, r.Renewed caches s →
      ∃ after, entry.2.snapshotWithin depth { update := true } s = (.ok (report entry.2), after) ∧
        r.Renewed caches after)
    (hs : r.Renewed caches s) (members : List (String × Value)) :
    ∃ after, (children.foldlM (fun members entry => do
        return Entries.insert entry.1
          (Value.object (← entry.2.snapshotWithin depth { update := true })) members) members :
          Act RegistryError (List (String × Value))) s =
        (.ok (Entries.enter members (children.map fun entry => (entry.1, .object (report entry.2)))),
          after) ∧ r.Renewed caches after := by
  rw [Entries.enter, List.foldl_map]
  refine Act.foldlM_run (fun entry mem members s hs => ?_) members hs
  obtain ⟨after, run, renewed⟩ := below entry mem s hs
  refine ⟨after, ?_, renewed⟩
  rw [Act.bind_run, run]
  rfl

theorem Registry.Fitted.report_run (h : r.Fitted n first plans)
    (shown : ∀ plan ∈ plans, plan.inSnapshot = true)
    (gives : ∀ i plan, plans[i]? = some plan →
      (⟨first + i⟩ : ParamId).Gives r caches (values plan.name))
    (below : ∀ entry ∈ (r.node n).children.entries, ∀ s, r.Renewed caches s →
      ∃ after, entry.2.snapshotWithin depth { update := true } s = (.ok (report entry.2), after) ∧
        r.Renewed caches after)
    (short : options.simplify.getD (r.node n).config.shortSnapshots = true)
    (update : options.update = true) (hs : r.Renewed caches s) :
    ∃ after, n.snapshotWithin (depth + 1) options s =
        (.ok (r.shortReport n plans values report), after) ∧ r.Renewed caches after := by
  obtain ⟨mid, parameters, hmid⟩ := h.enterShown_run shown gives hs
    [(classKey, .string (r.node n).config.classTag)]
  obtain ⟨after, children, hafter⟩ := enterReports_run below hmid (Entries.enter
    [(classKey, .string (r.node n).config.classTag)]
    (plans.map fun plan => (simplifiedKey plan.name plan.unit, values plan.name)))
  refine ⟨after, ?_, hafter⟩
  rw [NodeId.snapshotWithin, Act.bind_run, NodeId.state_run]
  dsimp only
  rw [hs.wiring.nodes.node n, if_pos short, update, Act.bind_run, parameters]
  exact children

theorem Registry.Renewed.contents_run (hs : r.Renewed caches s) {members : List (String × Value)}
    (run : ∀ options : SnapshotOptions, options.simplify = some true → options.update = true →
      ∃ after, n.snapshotWithin (r.nodes.size + 1) options s = (.ok members, after) ∧
        r.Renewed caches after) :
    ∃ after, n.contents s = (.ok (some (.object members)), after) ∧ r.Renewed caches after := by
  obtain ⟨after, taken, renewed⟩ := run { simplify := some true, update := true } rfl rfl
  refine ⟨after, ?_, renewed⟩
  have snapshot : n.snapshot { simplify := some true, update := true } s = (.ok members, after) := by
    rw [NodeId.snapshot, Act.bind_run, Act.registry_run]
    dsimp only
    rw [hs.wiring.nodes.nodes]
    exact taken
  rw [NodeId.contents, Act.bind_run, Act.attempt_of_ok snapshot]
  rfl

end
end LabRegistry

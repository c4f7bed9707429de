import LabRegistry.Proofs.Containment.Attained
import LabRegistry.Proofs.Engine.Reading
import LabRegistry.Proofs.Snapshot.Image

/-!
# What a snapshot calls

A snapshot without update calls nothing, so that all callables and listeners may be replaced without it
showing anything else. A snapshot that updates does what gets of the shown parameters do, one after the
other in the order of the visits, and a get asks for nothing but the source and the parser of its
parameter.
-/
namespace LabRegistry

/-- Gets parameters one after the other, up to the first get that fails. -/
def getAll (ps : List ParamId) : Act RegistryError Unit :=
  ps.forM fun p => do
    let _ ← p.get

private theorem getAll_append (ps qs : List ParamId) :
    getAll (ps ++ qs) = (do
      getAll ps
      getAll qs) :=
  List.forM_append

private theorem getAll_singleton (p : ParamId) :
    getAll [p] = (do let _ ← p.get : Act RegistryError Unit) := by
  rw [getAll, List.forM_eq_forM, List.forM_cons, List.forM_nil, bind_pure_unit]

private theorem getAll_effects (ps : List ParamId) : (getAll ps).Keeps Effects :=
  .forM (fun p => .bind (Effects.get p) fun _ => .pure _) ps

/-! ## The shown parameters in the order of the visits -/

namespace Registry

variable (r : Registry)

/-- The shown parameters of a node and of what it holds, given those of the held nodes. The short form
leaves the submodules out. -/
def shownOver (below : NodeId → List ParamId) (simplify : Option Bool) (n : NodeId) : List ParamId :=
  (r.shownParameters n).map Prod.snd ++ (r.node n).children.values.flatMap below ++
    if simplify.getD (r.node n).config.shortSnapshots then []
    else (r.node n).submodules.values.flatMap below

def shownWithin : Nat → NodeId → List ParamId
  | 0, _ => []
  | depth + 1, n => r.shownOver (shownWithin depth) none n

/-- The shown parameters that a snapshot of the node visits, in this order. -/
def shownBelow (simplify : Option Bool) (n : NodeId) : List ParamId :=
  r.shownOver (r.shownWithin r.nodes.size) simplify n

variable {r}

private theorem shownOver_congr {below below' : NodeId → List ParamId} (simplify : Option Bool)
    {n : NodeId}
    (same : ∀ m, r.Holds n m → below m = below' m) :
    r.shownOver below simplify n = r.shownOver below' simplify n := by
  have children : (r.node n).children.values.flatMap below = (r.node n).children.values.flatMap below' :=
    List.flatMap_congr fun m mem => same m (List.mem_append_left _ mem)
  have submodules :
      (r.node n).submodules.values.flatMap below = (r.node n).submodules.values.flatMap below' :=
    List.flatMap_congr fun m mem => same m (List.mem_append_right _ mem)
  rw [shownOver, shownOver, children, submodules]

/-- What is visited below a node is what snapshots of the held nodes visit. -/
theorem Acyclic.shownBelow_eq (h : r.Acyclic) (simplify : Option Bool) (n : NodeId) :
    r.shownBelow simplify n = r.shownOver (r.shownBelow none) simplify n := by
  refine shownOver_congr simplify fun m edge => ?_
  exact h.within_held (r.shownOver · none) (fun _ _ => rfl)
    (fun _ _ _ same => shownOver_congr none same) edge

private theorem map_shownParameters (n : NodeId) : (r.shownParameters n).map Prod.snd =
    (r.node n).parameters.entries.flatMap fun entry =>
      if (r.param entry.2).inSnapshot then [entry.2] else [] := by
  rw [shownParameters]
  induction (r.node n).parameters.entries with
  | nil => rfl
  | cons entry entries ih =>
    rw [List.filter_cons, List.flatMap_cons, ← ih]
    split <;> rfl

end Registry

/-! ## Snapshots that update -/

open Registry

/-- Wherever nodes and set-ups are those of `r`, the operation changes the registry as gets of the
parameters one after the other do, and fails where and as they fail. -/
def Act.Gets {α : Type} (r : Registry) (act : Act RegistryError α) (ps : List ParamId) : Prop :=
  ∀ s, r.SameNodes s → r.SameSetups s → (do let _ ← act : Act RegistryError Unit) s = getAll ps s

namespace Act.Gets

variable {α β γ : Type} {r : Registry} {act : Act RegistryError α} {ps qs : List ParamId}

private theorem read (h : ∀ s, r.SameNodes s → r.SameSetups s → ∃ x, act s = (.ok x, s)) :
    act.Gets r [] := by
  intro s nodes setups
  obtain ⟨x, run⟩ := h s nodes setups
  rw [bind_run, run]
  rfl

private theorem pure (x : α) :
    (Pure.pure x : Act RegistryError α).Gets r [] := read fun _ _ _ => ⟨x, rfl⟩

private theorem get (p : ParamId) : p.get.Gets r [p] := by
  intro s _ _
  rw [getAll_singleton]

private theorem bind {next : α → Act RegistryError β} (h : act.Gets r ps)
    (hnext : ∀ x, (next x).Gets r qs) :
    (act >>= next).Gets r (ps ++ qs) := by
  intro s nodes setups
  have first := h s nodes setups
  have effects := getAll_effects ps s
  rw [getAll_append, bind_assoc, bind_run, bind_run, ← first]
  rw [← first] at effects
  rw [bind_run] at effects ⊢
  rcases run : act s with ⟨halt | x, mid⟩
  · rfl
  · rw [run] at effects
    exact hnext x mid (IsTrans.trans _ _ _ nodes effects.sameNodes)
      (IsTrans.trans _ _ _ setups effects.sameSetups)

private theorem before {next : α → Act RegistryError β} (h : act.Gets r ps)
    (hnext : ∀ x, (next x).Gets r []) :
    (act >>= next).Gets r ps := by
  have both := bind h hnext
  rwa [List.append_nil] at both

private theorem mapM {f : β → Act RegistryError γ} {ps : β → List ParamId} {xs : List β}
    (h : ∀ x ∈ xs, (f x).Gets r (ps x)) : (xs.mapM f).Gets r (xs.flatMap ps) := by
  induction xs with
  | nil => exact pure _
  | cons x xs ih =>
    rw [List.mapM_cons, List.flatMap_cons]
    exact bind (h x List.mem_cons_self) fun _ =>
      before (ih fun y mem => h y (List.mem_cons_of_mem x mem)) fun _ => pure _

private theorem foldlM {f : γ → β → Act RegistryError γ} {ps : β → List ParamId} {xs : List β}
    (h : ∀ x ∈ xs, ∀ acc, (f acc x).Gets r (ps x)) (acc : γ) :
    (xs.foldlM f acc).Gets r (xs.flatMap ps) := by
  induction xs generalizing acc with
  | nil => exact pure _
  | cons x xs ih =>
    rw [List.foldlM_cons, List.flatMap_cons]
    exact bind (h x List.mem_cons_self acc) fun acc =>
      ih (fun y mem => h y (List.mem_cons_of_mem x mem)) acc

private theorem node {n : NodeId} {f : Node → Act RegistryError β} (h : (f (r.node n)).Gets r ps) :
    (n.state >>= f).Gets r ps := by
  intro s nodes setups
  have same : (do let _ ← n.state >>= f : Act RegistryError Unit) s =
      (do let _ ← f (r.node n) : Act RegistryError Unit) s := by
    rw [bind_assoc, bind_run, NodeId.state_run, nodes.node]
  rw [same, h s nodes setups]

end Act.Gets

section

variable {r : Registry} {n : NodeId}

private theorem ParamId.refreshShown_gets (p : ParamId) :
    (p.refreshShown true).Gets r (if (r.param p).inSnapshot then [p] else []) := by
  intro s nodes setups
  have run : p.refreshShown true = (do
    if (← p.state).inSnapshot then
      let _ ← p.get : Act RegistryError Unit) := rfl
  rw [run, bind_assoc, Act.bind_run, ParamId.state_run]
  dsimp only
  rw [setups.inSnapshot]
  cases (r.param p).inSnapshot with
  | true => exact Act.Gets.before (Act.Gets.get p) (fun _ => .pure _) s nodes setups
  | false => rfl

private theorem ParamId.snapshot_gets (ends : ∀ m, r.ParentsEnd m) (p : ParamId) :
    (p.snapshot true).Gets r (if (r.param p).inSnapshot then [p] else []) := by
  refine .before p.refreshShown_gets fun _ => .read fun s nodes setups => ?_
  have named : (p.fullName : Act RegistryError String) s = (.ok ((r.paramName? p).getD ""), s) := by
    rw [ParamId.fullName, Act.orEndless_run, nodes.paramName? (setups.setup p), paramName?_eq_some ends p]
    rfl
  refine ⟨(s.param p).summary ((r.paramName? p).getD ""), ?_⟩
  rw [Act.bind_run, ParamId.state_run]
  dsimp only
  rw [Act.bind_run, named]
  rfl

namespace NodeId

private theorem addShown_gets (members : List (String × Value)) (name : String) (p : ParamId) :
    (addShown true members name p).Gets r (if (r.param p).inSnapshot then [p] else []) := by
  intro s nodes setups
  have run : addShown true members name p = (do
    if (← p.state).inSnapshot then
      p.refreshShown true
      let param ← p.state
      return Entries.insert (simplifiedKey name param.unit) param.value members
    else return members : Act RegistryError (List (String × Value))) := rfl
  have refreshed := p.refreshShown_gets (r := r)
  rw [run, bind_assoc, Act.bind_run, ParamId.state_run]
  dsimp only
  rw [setups.inSnapshot]
  cases shown : (r.param p).inSnapshot with
  | true =>
    rw [shown] at refreshed
    exact Act.Gets.before refreshed (fun _ => .read fun s _ _ => ⟨_, rfl⟩) s nodes setups
  | false => rfl

private theorem summaries_gets {α : Type} {summary : α → Act RegistryError (List (String × Value))}
    {entries : List (String × α)} {ps : String × α → List ParamId}
    (h : ∀ entry ∈ entries, (summary entry.2).Gets r (ps entry)) :
    (summaries summary entries).Gets r (entries.flatMap ps) :=
  .before (.mapM fun entry mem => .before (h entry mem) fun _ => .pure _) fun _ => .pure _

private theorem snapshotOver_gets (ends : ∀ m, r.ParentsEnd m) {depth : Nat}
    {below : NodeId → List ParamId}
    (h : ∀ m, r.Holds n m → (snapshotWithin depth { update := true } m).Gets r (below m))
    (simplify : Option Bool) :
    (snapshotWithin (depth + 1) { simplify, update := true } n).Gets r (r.shownOver below simplify n) := by
  rw [snapshotWithin, shownOver, map_shownParameters, OrderedMap.values, OrderedMap.values,
    List.flatMap_map, List.flatMap_map]
  refine .node ?_
  dsimp only
  split
  case isTrue short =>
    rw [List.append_nil]
    refine .bind (.foldlM (fun entry _ members => addShown_gets members entry.1 entry.2) _) fun shown =>
      .foldlM (fun entry mem members => ?_) _
    exact .before (h _ (holds_of_child mem)) fun _ => .pure _
  case isFalse full =>
    rw [List.append_assoc]
    exact .bind (summaries_gets fun entry _ => ParamId.snapshot_gets ends entry.2) fun _ =>
      .bind (summaries_gets fun entry mem => h _ (holds_of_child mem)) fun _ =>
      .before (summaries_gets fun entry mem => h _ (holds_of_submodule mem)) fun _ => .pure _

private theorem snapshotWithin_gets (acyclic : r.Acyclic) (ends : ∀ m, r.ParentsEnd m) {depth : Nat}
    (deep : r.extent r.Holds n < depth) :
    (snapshotWithin depth { update := true } n).Gets r (r.shownWithin depth n) := by
  induction depth generalizing n with
  | zero => omega
  | succ depth ih =>
    refine snapshotOver_gets ends (fun m edge => ih ?_) none
    have fewer := acyclic.extent_lt edge
    omega

private theorem snapshot_gets (acyclic : r.Acyclic) (ends : ∀ m, r.ParentsEnd m)
    (simplify : Option Bool)
    (n : NodeId) : (do let _ ← n.snapshot { simplify, update := true } : Act RegistryError Unit) r =
      getAll (r.shownBelow simplify n) r := by
  have gets : (snapshotWithin (r.nodes.size + 1) { simplify, update := true } n).Gets r
      (r.shownBelow simplify n) := by
    refine snapshotOver_gets ends (fun m edge => snapshotWithin_gets acyclic ends ?_) simplify
    have fewer := acyclic.extent_lt edge
    have bound : r.extent r.Holds n ≤ r.nodes.size := extent_le_size n
    omega
  rw [snapshot, bind_assoc, Act.bind_run, Act.registry_run]
  exact gets r (refl r) (refl r)

end NodeId
end

/-! ## What a get asks for -/

/-- What a get of a parameter asks for: its source, its delegate or its parser. -/
inductive Registry.Asks (r : Registry) (p : ParamId) : Request → Prop
  | source {command : Callable} (source : (r.param p).getSource = .command command) :
    Asks r p (.call command {})
  | delegate {owner : NodeId} {getter : Callable} (source : (r.param p).getSource = .owner)
    (owned : r.owner? p = some owner)
    (given : ((r.node owner).delegatesFor (r.param p).name).getter = some getter) :
    Asks r p (.call getter (.delegate owner p .null))
  | parser {parser : Callable} (given : (r.param p).getParser = some parser) (raw : Value) :
    Asks r p (.call parser (.withValue raw))

namespace ParamId

variable {r s : Registry} {p : ParamId} {handler other : Handler}

private theorem receive_congr (same : ∀ request, r.Asks p request → handler request = other request)
    (setups : r.SameSetups s) (raw : Value) : p.receive handler raw s = p.receive other raw s := by
  have parser : (s.param p).getParser = (r.param p).getParser := congrArg (·.getParser) (setups.setup p)
  rw [receive, receive, Act.bind_run, Act.bind_run, state_run]
  dsimp only
  rw [parser]
  cases given : (r.param p).getParser with
  | none => rfl
  | some callable =>
    dsimp only
    rw [same _ (.parser given raw)]

private theorem getWith_congr (same : ∀ request, r.Asks p request → handler request = other request)
    (effects : ∀ request, (other request).Keeps Effects) :
    p.getWith handler r = p.getWith other r := by
  have received (request : Request) : (do p.receive handler (← other request)) r =
      (do p.receive other (← other request)) r := by
    have keeps := effects request r
    rw [Act.bind_run, Act.bind_run]
    rcases run : other request r with ⟨halt | raw, mid⟩
    · rfl
    · rw [run] at keeps
      exact receive_congr same keeps.sameSetups raw
  rw [getWith, getWith, Act.bind_run, Act.bind_run, state_run]
  dsimp only
  cases source : (r.param p).getSource with
  | cache => rfl
  | command command =>
    dsimp only
    rw [same _ (.source source)]
    exact received _
  | owner =>
    dsimp only
    cases owned : r.owner? p with
    | none =>
      have asked : (p.owner? : Act RegistryError (Option NodeId)) r = (.ok (r.owner? p), r) := rfl
      rw [ownerDelegates, bind_assoc, bind_assoc, Act.bind_run, Act.bind_run, asked, owned]
      dsimp only
      rw [failWithoutDelegate, bind_assoc, bind_assoc, Act.bind_run, Act.bind_run]
      rfl
    | some owner =>
      rw [Act.bind_run, Act.bind_run, ownerDelegates_run owned]
      dsimp only
      cases given : ((r.node owner).delegatesFor (r.param p).name).getter with
      | none => rfl
      | some getter =>
        dsimp only
        rw [same _ (.delegate source owned given)]
        exact received _

end ParamId

/-! ## Snapshots of reachable registries -/

/-- A snapshot that does not update shows the same whatever can be called and whatever listens, and
leaves everything as it is. A snapshot that updates gets the shown parameters in the order of the visits
up to the first get that fails: those of the node, then those below its child nodes, and in the full
form those below its submodules. No get asks its handler for more than a read of the source and the
parsing, so no listener is told. -/
theorem NodeId.snapshot_of_attained {r : Registry} (attained : r.Attained) (ends : ∀ m, r.ParentsEnd m)
    (n : NodeId) (simplify : Option Bool) :
    (∃ members, ∀ other, r.SameFace other → n.snapshot { simplify } other = (.ok members, other)) ∧
    (do let _ ← n.snapshot { simplify, update := true } : Act RegistryError Unit) r =
      getAll (r.shownBelow simplify n) r ∧
    (∀ form m, r.shownBelow form m =
      (r.shownParameters m).map Prod.snd ++ (r.node m).children.values.flatMap (r.shownBelow none) ++
        if form.getD (r.node m).config.shortSnapshots then []
        else (r.node m).submodules.values.flatMap (r.shownBelow none)) ∧
    ∀ (s : Registry) (p : ParamId) (handler : Handler),
      (∀ request, s.Asks p request → handler request = engine (s.depthLimit - 1) request) →
      p.get s = p.getWith handler s := by
  have acyclic := attained.acyclic
  refine ⟨⟨r.image simplify n, fun other same => ?_⟩, n.snapshot_gets acyclic ends simplify,
    fun form m => acyclic.shownBelow_eq form m, fun s p handler asked => ?_⟩
  · rw [snapshot_run (same.acyclic acyclic) (fun m => same.names.parentsEnd (ends m)) simplify n,
      same.image]
  · have answered : p.get s = p.getWith (engine (s.depthLimit - 1)) s := Request.perform_eq (.get p) s
    rw [answered, p.getWith_congr asked (Effects.engine _)]

/-- An update of a station gets what it shows itself, then what the probe below it shows. Without update
nothing is got. -/
theorem NodeId.snapshot_of_attained_station :
    let r := (start {} default).run
      [.createNode "station" (some "station") {}, .createNode "probe" (some "probe") {},
        .addChild ⟨0⟩ "probe" ⟨1⟩, .createParameter "volts" (.chosen "volts" [.getCommand .pulseStop]),
        .createParameter "ohms" (.chosen "ohms" []), .addParameter ⟨1⟩ ⟨0⟩, .addParameter ⟨0⟩ ⟨1⟩]
    r.Attained ∧ (∀ m, r.ParentsEnd m) ∧ r.shownBelow none ⟨0⟩ = [⟨1⟩, ⟨0⟩] ∧
      (do let _ ← NodeId.snapshot ⟨0⟩ { update := true } : Act RegistryError Unit) r =
        getAll [⟨1⟩, ⟨0⟩] r ∧
      ∃ members, NodeId.snapshot ⟨0⟩ {} r = (.ok members, r) := by
  intro r
  have attained : r.Attained := by
    refine attained_run {} default fun command mem => ?_
    simp only [List.mem_cons, List.not_mem_nil, or_false] at mem
    rcases mem with rfl | rfl | rfl | rfl | rfl | rfl | rfl
    all_goals rintro handle plan ⟨⟩
    · exact ⟨"volts", [.getCommand .pulseStop], rfl⟩
    · exact ⟨"ohms", [], rfl⟩
  have ends : ∀ m, r.ParentsEnd m := parentsEnd_of_paths (by decide +kernel)
  have shown : r.shownBelow none ⟨0⟩ = [⟨1⟩, ⟨0⟩] := by decide +kernel
  obtain ⟨⟨members, run⟩, updates, -⟩ := NodeId.snapshot_of_attained attained ends ⟨0⟩ none
  rw [shown] at updates
  exact ⟨attained, ends, shown, updates, members, run r (.refl r)⟩

end LabRegistry

import LabRegistry.Proofs.Binding.Command
import LabRegistry.Proofs.Engine.Cache
import LabRegistry.Proofs.Links.Forest

/-!
# Propagation through links

Setting a parameter of a forest of links sets the parameters of its tour one after the other until
one of them refuses. Those before it then hold what they received, and nothing else has changed.
-/
namespace LabRegistry

open Registry

variable {r s after : Registry} {family : Set ParamId} {p : ParamId} {v w : Value}

/-! ## Refusals -/

/-- Why a parameter does not take a value: it is for reading only, or its validator rejects the value.
The error shows the name of the parameter. -/
def Registry.rejection? (r : Registry) (p : ParamId) (v : Value) : Option (String → RegistryError) :=
  match (r.param p).setSource, (r.param p).validator.validate v with
  | .nowhere, _ => some .readOnly
  | _, .error reason => some (.invalidValue · reason)
  | _, .ok () => none

/-- What ends the placing of a value: a rejection, or a change that has to be put into the log under a
name that the parameter does not have. -/
def Registry.refusal? (r : Registry) (p : ParamId) (v : Value) : Option (Halt RegistryError) :=
  match r.rejection? p v with
  | some cause => some (r.naming p cause)
  | none => if r.nameless p v then some .endless else none

private theorem Registry.SameWiring.refusal? (h : r.SameWiring after)
    (value : (after.param p).value = (r.param p).value) (v : Value) :
    after.refusal? p v = r.refusal? p v := by
  have rejection : after.rejection? p v = r.rejection? p v := by
    rw [rejection?, h.setSource, h.validator, rejection?]
  rw [Registry.refusal?, rejection, h.naming, h.nameless value, Registry.refusal?]

private theorem Registry.refusal?_of_named {name : String} (named : r.paramName? p = some name)
    (v : Value) :
    r.refusal? p v = (r.rejection? p v).map fun cause => .failed (cause name) := by
  have logged : r.nameless p v = false := by simp [nameless, named]
  rw [refusal?, logged]
  cases r.rejection? p v with
  | none => rfl
  | some cause => simp only [Registry.naming, named, Option.map_some]

namespace Registry

private theorem SameWiring.linksOf (h : r.SameWiring s) : s.linksOf = r.linksOf := by
  funext p
  rw [Registry.linksOf, h.listeners, Registry.linksOf]

private theorem LinkForest.of_wiring (h : r.LinkForest family) (wiring : r.SameWiring s) :
    s.LinkForest family := by
  have feeds : s.Feeds family = r.Feeds family := by
    funext p q
    rw [Feeds, wiring.linksOf, Feeds]
  exact {
    inside := fun p hp => wiring.size ▸ h.inside p hp
    getSource := fun p hp => (wiring.getSource p).trans (h.getSource p hp)
    setSource := fun p hp => (wiring.setSource p) ▸ h.setSource p hp
    getParser := fun p hp => (wiring.getParser p).trans (h.getParser p hp)
    setParser := fun p hp => (wiring.setParser p).trans (h.setParser p hp)
    links := fun p hp => (wiring.listeners p) ▸ h.links p hp
    once := fun p hp => wiring.linksOf ▸ h.once p hp
    single := feeds ▸ h.single
    acyclic := feeds ▸ h.acyclic }

end Registry

namespace ParamId

/-- Takes a value into the cache without telling anyone. -/
def place (p : ParamId) (v : Value) : Act RegistryError Unit := p.write (engine 0) v

private theorem write_run_eq (h : r.LinkForest family) (hp : p ∈ family) (handler : Handler)
    (v : Value) :
    p.write handler v r = p.place v r := by
  have plain := h.setParser p hp
  rcases h.setSource p hp with source | source
  · rw [place, write_run_of_cache source plain, write_run_of_cache source plain]
  · rw [place, write_run_of_nowhere source, write_run_of_nowhere source]

private theorem place_run (h : r.LinkForest family) (hp : p ∈ family) (v : Value) :
    match r.refusal? p v with
    | some halt => p.place v r = (.error halt, r)
    | none => ∃ after, p.place v r = (.ok (), after) ∧ r.Recorded p v v after := by
  rw [place, refusal?, rejection?]
  rcases h.setSource p hp with source | source
  · have recorded := p.record_run v v r
    rw [write_run_of_cache source (h.setParser p hp), source]
    cases (r.param p).validator.validate v with
    | error reason => rfl
    | ok _ =>
      dsimp only
      split at recorded
      case isTrue nameless => rw [if_pos nameless, recorded]
      case isFalse named => rwa [if_neg named]
  · rw [write_run_of_nowhere source, source]

end ParamId

/-! ## Setting a parameter is placing the values of its tour -/

def placeAll (entries : List (ParamId × Value)) : Act RegistryError Unit :=
  entries.forM fun entry => entry.1.place entry.2

private theorem placeAll_cons (entry : ParamId × Value) (entries : List (ParamId × Value)) :
    placeAll (entry :: entries) = (do
      entry.1.place entry.2
      placeAll entries) := rfl

private theorem placeAll_append (entries more : List (ParamId × Value)) :
    placeAll (entries ++ more) = (do
      placeAll entries
      placeAll more) :=
  List.forM_append

private theorem tell_agrees {fuel : Nat} (v : Value) {listeners : List (ListenerId × Listener)}
    (links : ∀ entry ∈ listeners, ∃ next, entry.2.link? = some next ∧ next.1 ∈ family)
    (below : ∀ next ∈ listeners.filterMap (·.2.link?), ∀ w,
      Act.Agree r.SameWiring (engine fuel (.set next.1 w)) (do
        placeAll (r.tour fuel next.1 w)
        return .null)) :
    Act.Agree r.SameWiring
      (listeners.forM fun entry => ParamId.tell (engine fuel) v entry.2)
      (placeAll ((listeners.filterMap (·.2.link?)).flatMap fun next =>
        r.tour fuel next.1 (next.2.apply v))) := by
  induction listeners with
  | nil => exact .pure _
  | cons entry listeners ih =>
    obtain ⟨next, isLink, -⟩ := links entry List.mem_cons_self
    obtain ⟨id, listener⟩ := entry
    cases listener with
    | callback => cases isLink
    | link target link =>
      have first : ((id, Listener.link target link) :: listeners).filterMap (·.2.link?) =
          (target, link) :: listeners.filterMap (·.2.link?) := rfl
      rw [first] at below ⊢
      rw [List.flatMap_cons, placeAll_append]
      have told : Act.Agree r.SameWiring (ParamId.tell (engine fuel) v (.link target link))
          (placeAll (r.tour fuel target (link.apply v))) := by
        have asked := below (target, link) List.mem_cons_self (link.apply v)
        have whole := asked.bind fun _ => .pure (P := r.SameWiring) (ε := RegistryError) ()
        simp only [bind_assoc, pure_bind, bind_pure_unit] at whole
        exact whole
      exact told.bind fun _ => ih (fun entry mem => links entry (List.mem_cons_of_mem _ mem))
        fun next mem => below next (List.mem_cons_of_mem _ mem)

private theorem set_agrees (h : r.LinkForest family) {fuel : Nat} (hp : p ∈ family)
    (hf : h.depth p ≤ fuel) (v : Value) :
    Act.Agree r.SameWiring (engine fuel (.set p v)) (do
      placeAll (r.tour fuel p v)
      return .null) := by
  induction fuel generalizing p v with
  | zero => exact absurd (h.depth_pos hp) (by omega)
  | succ fuel ih =>
    have below : Act.Agree r.SameWiring
        ((r.param p).listeners.forM fun entry => ParamId.tell (engine fuel) v entry.2)
        (placeAll ((r.linksOf p).flatMap fun next => r.tour fuel next.1 (next.2.apply v))) := by
      refine tell_agrees v (h.links p hp) fun next first w => ?_
      have lower := h.depth_lt hp first
      exact ih (h.target_mem hp first) (by omega) w
    intro s hs
    have plain := h.of_wiring hs
    have placed := ParamId.place_run plain hp v
    rw [engine, Request.answer, ParamId.setWith, bind_assoc, Act.bind_run,
      ParamId.write_run_eq plain hp, tour, placeAll_cons, bind_assoc, Act.bind_run]
    cases refused : s.refusal? p v with
    | some halt =>
      rw [refused] at placed
      rw [placed]
      exact ⟨rfl, hs⟩
    | none =>
      rw [refused] at placed
      obtain ⟨after, placed, recorded⟩ := placed
      have wiring : r.SameWiring after := IsTrans.trans _ _ _ hs recorded.wiring
      rw [placed]
      dsimp only
      rw [ParamId.announce, bind_assoc, Act.bind_run, ParamId.state_run]
      dsimp only
      rw [wiring.listeners, (recorded.param_self (plain.inside p hp)).2]
      exact (below.bind fun _ => .pure Value.null) after wiring

/-! ## Placing a tour -/

private theorem placeAll_run {entries : List (ParamId × Value)} (h : r.LinkForest family)
    (inside : ∀ entry ∈ entries, entry.1 ∈ family) (distinct : (entries.map Prod.fst).Nodup)
    (accepted : ∀ entry ∈ entries, r.refusal? entry.1 entry.2 = none) :
    ∃ after, placeAll entries r = (.ok (), after) ∧ r.SameWiring after ∧
      (∀ q w, (q, w) ∈ entries → (after.param q).value = w ∧ (after.param q).raw = w) ∧
      ∀ q, q ∉ entries.map Prod.fst → after.param q = r.param q := by
  induction entries generalizing r with
  | nil => exact ⟨r, rfl, refl r, fun _ _ mem => absurd mem List.not_mem_nil, fun _ _ => rfl⟩
  | cons entry entries ih =>
    obtain ⟨p, v⟩ := entry
    have hp : p ∈ family := inside _ List.mem_cons_self
    rw [List.map_cons, List.nodup_cons] at distinct
    have placed := ParamId.place_run h hp v
    rw [accepted (p, v) List.mem_cons_self] at placed
    obtain ⟨s, placed, recorded⟩ := placed
    have apart {q : ParamId} (hq : q ∈ entries.map Prod.fst) : q ≠ p := by
      rintro rfl
      exact distinct.1 hq
    obtain ⟨after, rest, wiring, values, others⟩ := ih (h.of_wiring recorded.wiring)
      (fun entry mem => inside entry (List.mem_cons_of_mem _ mem)) distinct.2 fun entry mem => by
        have same := recorded.param_of_ne (apart (List.mem_map_of_mem mem))
        rw [recorded.wiring.refusal? (congrArg (·.value) same)]
        exact accepted entry (List.mem_cons_of_mem _ mem)
    refine ⟨after, ?_, IsTrans.trans _ _ _ recorded.wiring wiring, ?_, ?_⟩
    · rw [placeAll_cons, Act.bind_run, placed]
      exact rest
    · intro q w mem
      rcases List.mem_cons.mp mem with same | mem
      · cases same
        rw [others p distinct.1]
        exact (recorded.param_self (h.inside p hp)).symm
      · exact values q w mem
    · intro q hq
      rw [List.map_cons, List.mem_cons, not_or] at hq
      rw [others q hq.2, recorded.param_of_ne hq.1]

private theorem placeAll_run_refused {done rest : List (ParamId × Value)} {q : ParamId} {w : Value}
    {halt : Halt RegistryError} (h : r.LinkForest family)
    (inside : ∀ entry ∈ done ++ (q, w) :: rest, entry.1 ∈ family)
    (distinct : ((done ++ (q, w) :: rest).map Prod.fst).Nodup)
    (accepted : ∀ entry ∈ done, r.refusal? entry.1 entry.2 = none)
    (refused : r.refusal? q w = some halt) :
    ∃ after, placeAll (done ++ (q, w) :: rest) r = (.error halt, after) ∧ r.SameWiring after ∧
      (∀ q w, (q, w) ∈ done → (after.param q).value = w ∧ (after.param q).raw = w) ∧
      ∀ q, q ∉ done.map Prod.fst → after.param q = r.param q := by
  rw [List.map_append, List.nodup_append] at distinct
  obtain ⟨after, run, wiring, values, others⟩ := placeAll_run h
    (fun entry mem => inside entry (List.mem_append_left _ mem)) distinct.1 accepted
  refine ⟨after, ?_, wiring, values, others⟩
  have hq : q ∉ done.map Prod.fst := fun mem => distinct.2.2 q mem q List.mem_cons_self rfl
  have placed := ParamId.place_run (h.of_wiring wiring)
    (inside (q, w) (List.mem_append_right _ List.mem_cons_self)) w
  rw [wiring.refusal? (congrArg (·.value) (others q hq)), refused] at placed
  rw [placeAll_append, Act.bind_run, run]
  dsimp only
  rw [placeAll_cons, Act.bind_run, placed]

/-! ## Setting a parameter of a forest -/

private theorem accepted_or_refused (r : Registry) (entries : List (ParamId × Value)) :
    (∀ entry ∈ entries, r.refusal? entry.1 entry.2 = none) ∨
      ∃ done q w rest halt, entries = done ++ (q, w) :: rest ∧
        (∀ entry ∈ done, r.refusal? entry.1 entry.2 = none) ∧ r.refusal? q w = some halt := by
  induction entries with
  | nil => exact .inl fun _ mem => absurd mem List.not_mem_nil
  | cons entry entries ih =>
    obtain ⟨p, v⟩ := entry
    cases refused : r.refusal? p v with
    | some halt =>
      exact .inr ⟨[], p, v, entries, halt, rfl, fun _ mem => absurd mem List.not_mem_nil, refused⟩
    | none =>
      have extend {done : List (ParamId × Value)}
          (h : ∀ entry ∈ done, r.refusal? entry.1 entry.2 = none) :
          ∀ entry ∈ (p, v) :: done, r.refusal? entry.1 entry.2 = none := by
        intro entry mem
        rcases List.mem_cons.mp mem with rfl | mem
        · exact refused
        · exact h entry mem
      rcases ih with all | ⟨done, q, w, rest, halt, rfl, accepted, first⟩
      · exact .inl (extend all)
      · exact .inr ⟨(p, v) :: done, q, w, rest, halt, rfl, extend accepted, first⟩

private theorem set_run (h : r.LinkForest family) (hp : p ∈ family) (v : Value) :
    p.set v r = placeAll (r.tour r.params.size p v) r := by
  have bound : h.depth p ≤ r.params.size := reachCount_le _ _ _ _
  have enough : h.depth p ≤ r.depthLimit := by
    rw [depthLimit]
    omega
  have agrees := (set_agrees h hp enough v).bind fun _ => .pure (P := r.SameWiring) ()
  simp only [bind_assoc, pure_bind, bind_pure_unit] at agrees
  rw [ParamId.set, Request.perform, bind_assoc, Act.bind_run, Act.registry_run,
    h.tour_eq hp bound enough]
  exact (agrees r (refl r)).1

/-- Setting a parameter of a forest of links visits every parameter below it once. If all take what
they receive, they hold it afterwards. Otherwise the set fails with the rejection of the first that
does not, those before it hold what they received, and nothing else has changed. One of the two always
comes to pass. All parameters have names for this, as the chains of parents of their owners end. -/
theorem set_through_links (h : r.LinkForest family) (hp : p ∈ family)
    (ends : ∀ q ∈ family, ∀ n, r.owner? q = some n → r.ParentsEnd n) (v : Value) :
    (∀ q w, (q, w) ∈ r.tour r.params.size p v ↔ r.Receives p v q w) ∧
    ((r.tour r.params.size p v).map Prod.fst).Nodup ∧
    ((∀ q w, r.Receives p v q w → r.rejection? q w = none) →
      ∃ after, p.set v r = (.ok (), after) ∧ r.SameWiring after ∧
        (∀ q w, r.Receives p v q w → (after.param q).value = w ∧ (after.param q).raw = w) ∧
        ∀ q, (¬ ∃ w, r.Receives p v q w) → after.param q = r.param q) ∧
    (∀ done q w rest cause, r.tour r.params.size p v = done ++ (q, w) :: rest →
      (∀ entry ∈ done, r.rejection? entry.1 entry.2 = none) → r.rejection? q w = some cause →
      ∃ name after, r.paramName? q = some name ∧
        p.set v r = (.error (.failed (cause name)), after) ∧ r.SameWiring after ∧
        (∀ q w, (q, w) ∈ done → (after.param q).value = w ∧ (after.param q).raw = w) ∧
        ∀ q, q ∉ done.map Prod.fst → after.param q = r.param q) ∧
    ((p.set v r).1 = .ok () ∨ ∃ cause, (p.set v r).1 = .error (.failed cause)) := by
  have visited (q : ParamId) (w : Value) :
      (q, w) ∈ r.tour r.params.size p v ↔ r.Receives p v q w :=
    h.mem_tour_iff hp (reachCount_le _ _ _ _)
  have distinct : ((r.tour r.params.size p v).map Prod.fst).Nodup := h.nodup_tour hp
  have inside : ∀ entry ∈ r.tour r.params.size p v, entry.1 ∈ family := fun entry mem =>
    h.mem_of_reach hp (h.reach_of_mem_tour hp mem)
  have refuses (q : ParamId) (hq : q ∈ family) : ∃ name, r.paramName? q = some name ∧
      ∀ w, r.refusal? q w = (r.rejection? q w).map fun cause => .failed (cause name) := by
    obtain ⟨name, named⟩ := Option.isSome_iff_exists.mp (paramName?_isSome (ends q hq))
    exact ⟨name, named, refusal?_of_named named⟩
  have takes (entry : ParamId × Value) (mem : entry ∈ r.tour r.params.size p v) :
      r.refusal? entry.1 entry.2 = none ↔ r.rejection? entry.1 entry.2 = none := by
    obtain ⟨name, -, refuses⟩ := refuses entry.1 (inside entry mem)
    rw [refuses, Option.map_eq_none_iff]
  refine ⟨visited, distinct, ?_, ?_, ?_⟩
  · intro accepted
    obtain ⟨after, run, wiring, values, others⟩ := placeAll_run h inside distinct
      fun entry mem => (takes entry mem).mpr (accepted _ _ ((visited entry.1 entry.2).mp mem))
    refine ⟨after, (set_run h hp v).trans run, wiring, ?_, ?_⟩
    · exact fun q w receives => values q w ((visited q w).mpr receives)
    · intro q unreached
      refine others q fun reached => unreached ?_
      obtain ⟨⟨q, w⟩, mem, rfl⟩ := List.mem_map.mp reached
      exact ⟨w, (visited q w).mp mem⟩
  · intro done q w rest cause split accepted rejected
    rw [split] at inside distinct takes
    obtain ⟨name, named, refuses⟩ := refuses q (inside (q, w) (by simp))
    have refused : r.refusal? q w = some (.failed (cause name)) := by
      rw [refuses, rejected, Option.map_some]
    have earlier : ∀ entry ∈ done, r.refusal? entry.1 entry.2 = none := fun entry mem =>
      (takes entry (List.mem_append_left _ mem)).mpr (accepted entry mem)
    obtain ⟨after, run, rest⟩ := placeAll_run_refused h inside distinct earlier refused
    refine ⟨name, after, named, ?_, rest⟩
    rw [set_run h hp v, split, run]
  · rw [set_run h hp v]
    rcases accepted_or_refused r (r.tour r.params.size p v) with
      accepted | ⟨done, q, w, rest, halt, split, accepted, refused⟩
    · obtain ⟨after, run, -⟩ := placeAll_run h inside distinct accepted
      exact .inl (congrArg Prod.fst run)
    · obtain ⟨name, -, refuses⟩ := refuses q (inside (q, w) (split ▸ by simp))
      rw [refuses, Option.map_eq_some_iff] at refused
      obtain ⟨cause, rejected, rfl⟩ := refused
      obtain ⟨after, run, -⟩ := placeAll_run_refused h (split ▸ inside) (split ▸ distinct) accepted
        ((refuses w).trans (congrArg (Option.map _) rejected))
      rw [split, run]
      exact .inr ⟨_, rfl⟩

/-- Three parameters in a row, the last one for reading only and owned by a node. -/
def linkedRow : Registry :=
  (start {} default).run [
    .createParameter "a" { name := "a" }, .createParameter "b" { name := "b" },
    .createParameter "c" (ParameterPlan.readOnly { name := "c" }),
    .createNode "n" (some "n") {}, .addParameter ⟨0⟩ ⟨2⟩,
    .connect ⟨0⟩ ⟨1⟩ {}, .connect ⟨1⟩ ⟨2⟩ {}]

abbrev rowFamily : Set ParamId := {⟨0⟩, ⟨1⟩, ⟨2⟩}

private theorem row_forall {P : ParamId → Prop} (h0 : P ⟨0⟩) (h1 : P ⟨1⟩) (h2 : P ⟨2⟩) :
    ∀ p ∈ rowFamily, P p := by
  rintro p (rfl | rfl | rfl)
  · exact h0
  · exact h1
  · exact h2

private theorem row_links : linkedRow.linksOf ⟨0⟩ = [(⟨1⟩, {})] ∧
    linkedRow.linksOf ⟨1⟩ = [(⟨2⟩, {})] ∧ linkedRow.linksOf ⟨2⟩ = [] :=
  ⟨rfl, rfl, rfl⟩

private theorem row_onwards {p q : ParamId} (h : linkedRow.Feeds rowFamily p q) :
    q.index = p.index + 1 := by
  obtain ⟨first, second, last⟩ := row_links
  obtain ⟨rfl | rfl | rfl, link, mem⟩ := h
  · simp_all
  · simp_all
  · simp_all

private theorem row_forest : linkedRow.LinkForest rowFamily where
  inside := row_forall (by decide +kernel) (by decide +kernel) (by decide +kernel)
  getSource := row_forall rfl rfl rfl
  setSource := row_forall (.inl rfl) (.inl rfl) (.inr rfl)
  getParser := row_forall rfl rfl rfl
  setParser := row_forall rfl rfl rfl
  links := by
    have first : (linkedRow.param ⟨0⟩).listeners = [(⟨0⟩, .link ⟨1⟩ {})] := rfl
    have second : (linkedRow.param ⟨1⟩).listeners = [(⟨0⟩, .link ⟨2⟩ {})] := rfl
    have last : (linkedRow.param ⟨2⟩).listeners = [] := rfl
    apply row_forall
    · simp [first, Listener.link?]
    · simp [second, Listener.link?]
    · simp [last]
  once := row_forall (List.nodup_singleton _) (List.nodup_singleton _) List.nodup_nil
  single {p q _} h h' := by
    have index := (row_onwards h).symm.trans (row_onwards h')
    cases p
    cases q
    simpa using index
  acyclic p cycle := by
    have further {p q : ParamId} (path : Relation.TransGen (linkedRow.Feeds rowFamily) p q) :
        p.index < q.index := by
      induction path with
      | single step => have := row_onwards step; omega
      | tail _ step ih => have := row_onwards step; omega
    exact absurd (further cycle) (lt_irrefl _)

private theorem row_tour : linkedRow.tour linkedRow.params.size ⟨0⟩ (.bool true) =
    [(⟨0⟩, .bool true), (⟨1⟩, .bool true), (⟨2⟩, .bool true)] := by
  have size : linkedRow.params.size = 3 := rfl
  have same (v : Value) : ({} : Link).apply v = v := by
    rw [Link.apply, Value.scaleOffset, if_pos]
    decide +kernel
  obtain ⟨first, second, last⟩ := row_links
  simp [size, tour, first, second, last, same]

theorem set_through_row :
    ∃ after, (⟨0⟩ : ParamId).set (.bool true) linkedRow =
        (.error (.failed (.readOnly "n_c")), after) ∧
      (after.param ⟨0⟩).value = .bool true ∧ (after.param ⟨1⟩).value = .bool true ∧
      after.param ⟨2⟩ = linkedRow.param ⟨2⟩ := by
  have ends (n : NodeId) : linkedRow.ParentsEnd n := parentsEnd_of_paths (by decide +kernel) n
  obtain ⟨-, -, -, rejected, -⟩ := set_through_links row_forest (p := ⟨0⟩) (by simp)
    (fun _ _ n _ => ends n) (.bool true)
  have accepted : ∀ entry ∈ [((⟨0⟩ : ParamId), Value.bool true), (⟨1⟩, .bool true)],
      linkedRow.rejection? entry.1 entry.2 = none := by
    simp only [List.forall_mem_cons]
    exact ⟨rfl, rfl, fun _ mem => absurd mem List.not_mem_nil⟩
  obtain ⟨name, after, named, run, -, values, others⟩ := rejected
    [(⟨0⟩, .bool true), (⟨1⟩, .bool true)] ⟨2⟩ (.bool true) [] .readOnly row_tour accepted rfl
  have same : linkedRow.paramName? ⟨2⟩ = some "n_c" := by decide +kernel
  cases named.symm.trans same
  exact ⟨after, run, (values ⟨0⟩ _ (by simp)).1, (values ⟨1⟩ _ (by simp)).1,
    others ⟨2⟩ (by decide)⟩

/-- A callback that fails fails the set of a parameter that takes the value and has no links. And a
parameter for reading only rejects without end while its owner is its own ancestor. -/
theorem set_beyond_links :
    (let r := (start {} default).run [
      .createParameter "a" { name := "a" }, .listen ⟨0⟩ (.script (.mk [.fail "no"] none))]
    r.linksOf ⟨0⟩ = [] ∧ r.rejection? ⟨0⟩ (.bool true) = none ∧
      ((⟨0⟩ : ParamId).set (.bool true) r).1 = .error (.failed (.callableFailed "no"))) ∧
    let r := (start {} default).run [
      .createNode "a" (some "a") {}, .createNode "b" (some "b") {}, .createNode "c" (some "c") {},
      .createParameter "p" (ParameterPlan.readOnly { name := "p" }), .addParameter ⟨0⟩ ⟨0⟩,
      .bind ⟨0⟩ "x" (.node ⟨1⟩), .bind ⟨0⟩ "x" (.node ⟨2⟩), .bind ⟨1⟩ "y" (.node ⟨0⟩)]
    r.LinkForest {⟨0⟩} ∧ ((⟨0⟩ : ParamId).set (.bool true) r).1 = .error .endless := by
  refine ⟨⟨rfl, rfl, by decide +kernel⟩, ?_⟩
  intro r
  have silent : (r.param ⟨0⟩).listeners = [] := by rfl
  have unlinked : r.linksOf ⟨0⟩ = [] := by rw [linksOf, silent]; rfl
  have nowhere (p q : ParamId) : ¬ r.Feeds {⟨0⟩} p q := by
    rintro ⟨rfl, link, mem⟩
    rw [unlinked] at mem
    cases mem
  have forest : r.LinkForest {⟨0⟩} := {
    inside := by
      rintro _ rfl
      decide +kernel
    getSource := by
      rintro _ rfl
      rfl
    setSource := by
      rintro _ rfl
      exact .inr rfl
    getParser := by
      rintro _ rfl
      rfl
    setParser := by
      rintro _ rfl
      rfl
    links := by
      rintro _ rfl
      rw [silent]
      nofun
    once := by
      rintro _ rfl
      rw [unlinked]
      exact List.nodup_nil
    single := fun link => absurd link (nowhere _ _)
    acyclic := fun p cycle => by
      obtain ⟨q, link, _⟩ := Relation.TransGen.head'_iff.mp cycle
      exact nowhere p q link }
  have nameless : r.paramName? ⟨0⟩ = none := by decide +kernel
  have refused : r.refusal? ⟨0⟩ (.bool true) = some .endless := by
    have rejected : r.rejection? ⟨0⟩ (.bool true) = some .readOnly := by rfl
    simp only [refusal?, rejected, Registry.naming, nameless]
  have tour : r.tour r.params.size ⟨0⟩ (.bool true) = [] ++ (⟨0⟩, .bool true) :: [] := by
    have size : r.params.size = 1 := by decide +kernel
    rw [size, Registry.tour, unlinked]
    rfl
  have inside : ∀ entry ∈ [] ++ ((⟨0⟩ : ParamId), Value.bool true) :: [],
      entry.1 ∈ ({⟨0⟩} : Set ParamId) := by simp
  have distinct : (([] ++ ((⟨0⟩ : ParamId), Value.bool true) :: []).map Prod.fst).Nodup := by simp
  obtain ⟨after, run, -⟩ := placeAll_run_refused forest inside distinct (by simp) refused
  refine ⟨forest, ?_⟩
  rw [set_run forest rfl, tour, run]

end LabRegistry

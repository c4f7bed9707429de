import LabRegistry.Proofs.Sequence.History
import LabRegistry.Sequence.Selection

/-!
# Ways to a pulse

A pulse is found in a sequence under the name that it was added under, while a query asks for the name
that it has now. Both ways lead to the same pulse as long as no member is renamed.
-/
namespace LabRegistry

open Registry

variable {r after : Registry} {s : SequenceId} {n p : NodeId} {name : String} {log : Log} {now : Instant}
  {guests : Set Listener}

def PulseQuery.called (name : String) : PulseQuery where
  includeDisabled := true
  name := some name

namespace Registry

/-- The pulses of a sequence have the names that they are found under. -/
def NamesCurrent (r : Registry) (s : SequenceId) : Prop :=
  ∀ key p, (key, p) ∈ (r.node (r.nodeOf s)).children.entries → r.isPulse p = true →
    (r.node p).name = some key

/-- All nodes have the same child nodes. -/
def SameChildren (r after : Registry) : Prop := ∀ n, (after.node n).children = (r.node n).children

instance : IsPreorder Registry SameChildren where
  refl _ _ := rfl
  trans _ _ _ h h' n := (h' n).trans (h n)

end Registry

/-! ## Finding -/

private theorem Entries.filter_key {α : Type} {entries : List (String × α)}
    (nodup : (keys entries).Nodup)
    (key : String) : entries.filter (·.1 = key) = ((get? key entries).map (key, ·)).toList := by
  induction entries with
  | nil => rfl
  | cons first rest ih =>
    obtain ⟨k, v⟩ := first
    obtain ⟨fresh, nodup⟩ := List.nodup_cons.mp nodup
    rw [List.filter_cons, get?]
    by_cases same : k = key
    · subst same
      have none : get? k rest = none := by
        rw [← Option.not_isSome_iff_eq_none, isSome_get?_iff]
        exact fresh
      simp [ih nodup, none]
    · simp [same, ih nodup]

namespace SequenceId

private theorem pulse_refused (other : ∀ p, ¬ ((r.node (r.nodeOf s)).children.get? name = some p ∧
    r.isPulse p = true)) : ∃ halt, s.pulse name r = (.error halt, r) := by
  have node : (s.node : Act DomainError NodeId) r = (.ok (r.nodeOf s), r) := rfl
  rw [pulse, Act.bind_run, node]
  dsimp only
  cases found : (r.node (r.nodeOf s)).children.get? name with
  | none =>
    have child : (r.nodeOf s).child name r =
        (.error (r.refusal (r.nodeOf s) (.noAttribute · name)), r) := NodeId.find_missing found
    rw [Act.bind_run, Act.lift_error child]
    exact ⟨_, rfl⟩
  | some p =>
    have child : (r.nodeOf s).child name r = (.ok p, r) := NodeId.find_run found
    rw [Act.bind_run, Act.lift_ok child]
    dsimp only
    rw [Act.bind_run, Act.registry_run]
    dsimp only
    rw [if_neg fun isPulse => other p ⟨found, isPulse⟩]
    exact ⟨_, rfl⟩

private theorem pulse_eq_ok : s.pulse name r = (.ok p, r) ↔
    (r.node (r.nodeOf s)).children.get? name = some p ∧ r.isPulse p = true := by
  refine ⟨fun run => ?_, fun found => pulse_run found.1 found.2⟩
  by_contra other
  obtain ⟨halt, refused⟩ := @pulse_refused r s name fun q found => by
    have same := run.symm.trans (pulse_run found.1 found.2)
    cases same
    exact other found
  rw [refused] at run
  cases run

private theorem pulse_read (s : SequenceId) (name : String) (r : Registry) :
    (s.pulse name r).2 = r := by
  by_cases found : ∃ p, (r.node (r.nodeOf s)).children.get? name = some p ∧ r.isPulse p = true
  · obtain ⟨p, found, isPulse⟩ := found
    rw [pulse_run found isPulse]
  · obtain ⟨halt, refused⟩ := pulse_refused fun p both => found ⟨p, both⟩
    rw [refused]

private theorem matching_called_run (name : String) (pulses : List NodeId) (r : Registry) :
    matching (.called name) pulses r = (.ok (pulses.filter fun p => (r.node p).name = some name), r) := by
  induction pulses with
  | nil => rfl
  | cons p rest ih =>
    have satisfied : Pulse.satisfies p (PulseQuery.called name).conditions r = (.ok true, r) := rfl
    rw [matching, Act.bind_run, NodeId.state_run]
    dsimp only
    by_cases named : (r.node p).name = some name
    · have asked : ((PulseQuery.called name).name.isNone ||
          (r.node p).name == (PulseQuery.called name).name) = true := by simp [named, PulseQuery.called]
      rw [asked, if_pos rfl, Act.bind_run, satisfied]
      dsimp only
      rw [if_pos rfl, Act.bind_run, ih]
      simp [named]
    · have asked : ((PulseQuery.called name).name.isNone ||
          (r.node p).name == (PulseQuery.called name).name) = false := by simp [named, PulseQuery.called]
      rw [asked, if_neg Bool.false_ne_true, ih]
      simp [named]

private theorem selectOne_eq_some : s.selectOne (.called name) r = (.ok (some p), r) ↔
    (r.pulses (r.nodeOf s)).filter (fun p => (r.node p).name = some name) = [p] := by
  have selected : s.select (.called name) r =
      (.ok ((r.pulses (r.nodeOf s)).filter fun p => (r.node p).name = some name), r) :=
    matching_called_run name (r.pulses (r.nodeOf s)) r
  rw [selectOne, Act.bind_run, selected]
  dsimp only
  generalize (r.pulses (r.nodeOf s)).filter (fun p => (r.node p).name = some name) = found
  constructor
  · intro run
    rcases found with _ | ⟨q, _ | ⟨_, _⟩⟩ <;> cases run
    rfl
  · rintro rfl
    rfl

end SequenceId

/-- Both ways lead to the same pulses for all names exactly if all pulses have the names that they are
found under. -/
theorem Registry.namesCurrent_iff : (∀ name p, s.pulse name r = (.ok p, r) ↔
    s.selectOne (.called name) r = (.ok (some p), r)) ↔ r.NamesCurrent s := by
  constructor
  · intro agree key p mem isPulse
    have found := Entries.get?_of_mem (r.node (r.nodeOf s)).children.nodup_keys mem
    have selected := (agree key p).mp (SequenceId.pulse_eq_ok.mpr ⟨found, isPulse⟩)
    have only : p ∈ (r.pulses (r.nodeOf s)).filter fun p => (r.node p).name = some key := by
      rw [SequenceId.selectOne_eq_some.mp selected]
      exact List.mem_singleton_self p
    exact of_decide_eq_true (List.mem_filter.mp only).2
  · intro current name p
    let children := (r.node (r.nodeOf s)).children
    have among : (r.pulses (r.nodeOf s)).filter (fun p => (r.node p).name = some name) =
        ((children.entries.filter (·.1 = name)).filter (r.isPulse ·.2)).map Prod.snd := by
      have both (entry : String × NodeId) (mem : entry ∈ children.entries) :
          (decide ((r.node entry.2).name = some name) && r.isPulse entry.2) =
            (r.isPulse entry.2 && decide (entry.1 = name)) := by
        cases isPulse : r.isPulse entry.2 with
        | false => rw [Bool.and_false, Bool.false_and]
        | true => simp [current entry.1 entry.2 mem isPulse]
      rw [pulses, OrderedMap.values, List.filter_map, List.filter_map, List.filter_filter,
        List.filter_filter]
      exact congrArg (List.map Prod.snd) (List.filter_congr both)
    rw [SequenceId.pulse_eq_ok, SequenceId.selectOne_eq_some, among,
      Entries.filter_key children.nodup_keys, ← OrderedMap.get?]
    cases children.get? name with
    | none => simp
    | some q =>
      by_cases isPulse : r.isPulse q = true
      · simp only [Option.map_some, Option.toList_some, List.filter_cons, isPulse, if_true,
          List.filter_nil, List.map_cons, List.map_nil, List.cons.injEq, and_true, Option.some.injEq]
        exact and_iff_left_of_imp fun same => same ▸ isPulse
      · have other : ¬ (q = p ∧ r.isPulse p = true) := by
          rintro ⟨rfl, isPulse'⟩
          exact isPulse isPulse'
        simpa [isPulse] using other

/-! ## Removing -/

namespace Act.Keeps

variable {ε α : Type}

private theorem sameChildren {act : Act ε α} (h : act.Keeps Effects) : act.Keeps SameChildren :=
  h.mono fun _ _ effects n => by rw [effects.sameNodes.node]

private theorem noted_sameChildren {level : LogLevel} (n : NodeId) (before after : String) :
    (Act.writeLog level (do return before ++ (← n.displayName) ++ after) : Act ε Unit).Keeps
      SameChildren :=
  .writeLog (.bind (.orEndless _) fun _ => .pure _) fun _ _ _ => rfl

end Act.Keeps

private theorem NodeId.removeChild_children (found : (r.node n).children.get? name = some p) :
    ((n.removeChild name r).2.node n).children = (r.node n).children.erase name := by
  have inside : n.index < r.nodes.size := by
    by_contra outside
    rw [node_of_size_le (not_lt.mp outside)] at found
    cases found
  have removed : ({ r with nodes := r.nodes.change n.index fun node =>
      { node with children := node.children.erase name } } : Registry).SameChildren
        (n.removeChild name r).2 := by
    have left : (p.leaveParent n : Act RegistryError Unit).Keeps SameChildren := by
      refine .bind (.read fun _ => rfl) fun node => ?_
      split
      · refine .change fun r m => ?_
        rw [node_change]
        split <;> rfl
      · exact .pure _
    rw [removeChild, Act.bind_run, state_run]
    dsimp only
    rw [found]
    dsimp only
    rw [Act.bind_run, change_run]
    exact Act.Keeps.bind left (fun _ => .bind (.noted_sameChildren _ _ _) fun _ => .pure _) _
  rw [removed n, node_change, if_pos ⟨rfl, inside⟩]

namespace SequenceId

private theorem unlink_sameChildren (s : SequenceId) (p : NodeId) (name : String) :
    (s.unlink p name).Keeps SameChildren := by
  refine .bind (.read fun _ => rfl) fun sequence => .bind (.change fun _ _ => rfl) fun _ => ?_
  split
  · exact .bind (Effects.parameter p _).sameChildren fun q =>
      .bind (Effects.disconnect q _).sameChildren fun _ => .pure _
  · exact .pure _

private theorem freeDuration_sameChildren (s : SequenceId) : s.freeDuration.Keeps SameChildren :=
  .bind (.change fun _ _ => rfl) fun _ => .bind (.read fun _ => rfl) fun n =>
    .bind (Effects.parameter n _).sameChildren fun p =>
      .bind (Effects.perform (.update p)).sameChildren fun _ => .pure _

private theorem pulse_of_removePulse (run : s.removePulse name r = (.ok p, after)) :
    s.pulse name r = (.ok p, r) ∧
      (after.node (r.nodeOf s)).children = (r.node (r.nodeOf s)).children.erase name := by
  have node : (s.node : Act DomainError NodeId) r = (.ok (r.nodeOf s), r) := rfl
  rw [removePulse, Act.bind_run, node] at run
  dsimp only at run
  obtain ⟨q, mid, found, run⟩ := Act.bind_eq_ok.mp run
  obtain rfl : mid = r := by
    have read := s.pulse_read name r
    rwa [found] at read
  obtain ⟨_, last, held, ended⟩ := Act.bind_eq_ok.mp run
  cases ended
  obtain ⟨done, left, rfl⟩ := Act.holding_eq_ok.mp held
  refine ⟨found, ?_⟩
  let start : Registry := { mid with inUse := p :: mid.inUse }
  have left : s.leave (mid.nodeOf s) p name start = (.ok (), done) := left
  have unlinked := Act.Keeps.lift (s.unlink_sameChildren p name) start
  obtain ⟨_, freed, unlink, left⟩ := Act.bind_eq_ok.mp left
  rw [unlink] at unlinked
  have there : (freed.node (mid.nodeOf s)).children.get? name = some p := by
    rw [unlinked]
    exact (pulse_eq_ok.mp found).1
  have ending : (do
      liftM s.freeDuration
      Act.debug do
        return "removed pulse '" ++ name ++ "' from sequence '" ++ (← (mid.nodeOf s).displayName) ++ "'" :
      Act DomainError Unit).Keeps SameChildren :=
    .bind (.lift s.freeDuration_sameChildren) fun _ => .noted_sameChildren _ _ _
  have rest := Act.Keeps.after (fun _ => ending)
    (liftM ((mid.nodeOf s).removeChild name) : Act DomainError NodeId) freed
  rw [left, Act.lift_state] at rest
  change (done.node (mid.nodeOf s)).children = _
  rw [rest, NodeId.removeChild_children there, unlinked]
  rfl

private theorem removePulse_refused {halt : Halt DomainError}
    (refused : s.pulse name r = (.error halt, r)) :
    s.removePulse name r = (.error halt, r) := by
  have node : (s.node : Act DomainError NodeId) r = (.ok (r.nodeOf s), r) := rfl
  rw [removePulse, Act.bind_run, node]
  dsimp only
  rw [Act.bind_run, refused]

end SequenceId

/-! ## Renaming -/

namespace Registry

def renamed (r : Registry) (n : NodeId) (name : String) : Registry :=
  { r with nodes := r.nodes.change n.index ({ · with name := some name }) }

private theorem node_renamed (r : Registry) (n m : NodeId) (name : String) :
    (r.renamed n name).node m =
      if m = n ∧ n.index < r.nodes.size then { r.node m with name := some name } else r.node m :=
  node_change r n m _

private theorem node_renamed_eq {α : Type} (f : Node → α)
    (same : ∀ node : Node, f { node with name := some name } = f node) (r : Registry) (n m : NodeId) :
    f ((r.renamed n name).node m) = f (r.node m) := by
  rw [node_renamed]
  split
  · exact same _
  · rfl

section

variable (r : Registry) (n m : NodeId) (s : SequenceId) (name : String)

private theorem isAlive_renamed : (r.renamed n name).isAlive m = r.isAlive m := by
  have holds : (r.renamed n name).Holds = r.Holds := by
    funext a b
    have held : (r.renamed n name).held a = r.held a := node_renamed_eq Node.held (fun _ => rfl) r n a
    rw [Holds, held, Holds]
  have roots : (r.renamed n name).roots = r.roots := roots_of_eq rfl rfl fun _ => rfl
  rw [Bool.eq_iff_iff, isAlive_iff, isAlive_iff, roots, Encloses, holds, Encloses]

private theorem firstParam_renamed : (r.renamed n name).firstParam m = r.firstParam m :=
  firstParam_of_node (node_renamed_eq (·.parameters) (fun _ => rfl) r n m)

private theorem stopOf_renamed : (r.renamed n name).stopOf m = r.stopOf m :=
  stopOf_of_node (node_renamed_eq (·.parameters) (fun _ => rfl) r n m)

private theorem children_renamed : ((r.renamed n name).node m).children = (r.node m).children :=
  node_renamed_eq (·.children) (fun _ => rfl) r n m

private theorem membersOf_renamed : (r.renamed n name).membersOf s = r.membersOf s :=
  congrArg OrderedMap.values (children_renamed r n (r.nodeOf s) name)

private theorem refresher_renamed : (r.renamed n name).refresher s = r.refresher s := by
  have duration : (r.renamed n name).durationOf s = r.durationOf s :=
    durationOf_of_node rfl (node_renamed_eq (·.parameters) (fun _ => rfl) r n (r.nodeOf s))
  rw [refresher, duration, refresher]

private theorem inReach_renamed : (r.renamed n name).inReach = r.inReach := by
  ext m
  simp only [inReach, membersOf_renamed]
  rfl

end

private theorem Placed.renamed (h : r.Placed p) : (r.renamed n name).Placed p where
  inside := h.inside.trans_eq (Arena.size_change _ _ _).symm
  quiet i hi := by
    rw [firstParam_renamed]
    exact h.quiet i hi

private theorem PulseReady.renamed (h : r.PulseReady p) (placed : r.Placed p) :
    (r.renamed n name).PulseReady p where
  toPulseWired := by
    rw [firstParam_renamed]
    refine h.toPulseWired.of_old (node_renamed_eq Node.unplaced (fun _ => rfl) r n p) le_rfl
      (fun _ _ => rfl) (fun i hi => ?_) ((isAlive_renamed r n p name).trans h.alive)
    exact .inl (placed.quiet i hi)
  feeds i hi ne := by
    rw [firstParam_renamed]
    exact h.feeds i hi ne

private theorem SequenceReady.renamed (h : r.SequenceReady s) (placed : r.Placed (r.nodeOf s)) :
    (r.renamed n name).SequenceReady s := by
  have owner : (r.renamed n name).nodeOf s = r.nodeOf s := rfl
  refine ⟨(isAlive_renamed r n _ name).trans h.alive,
    (node_renamed_eq (·.config) (fun _ => rfl) r n _).trans h.config, ?_,
    (node_renamed_eq (·.delegatesFor "duration") (fun _ => rfl) r n _).trans h.delegates,
    fun list among => ?_, fun i hi => ?_⟩
  · rw [owner, firstParam_renamed]
    exact h.fitted.of_old (node_renamed_eq (·.parameters) (fun _ => rfl) r n _) le_rfl
      (fun _ _ => rfl) fun i hi => .inl (placed.quiet i hi)
  · rw [owner, node_renamed_eq (·.delegatesFor (list ++ "_list")) (fun _ => rfl) r n _]
    exact h.lists list among
  · rw [owner, firstParam_renamed]
    exact h.silent i hi

/-- The node has the name wherever it is a member. -/
def GoesBy (r : Registry) (n : NodeId) (name : String) : Prop :=
  ∀ s : SequenceId, s.index < r.sequences.size → ∀ key,
    (key, n) ∈ (r.node (r.nodeOf s)).children.entries → key = name

private theorem GoesBy.of_nonmember
    (none : ∀ s : SequenceId, s.index < r.sequences.size → n ∉ r.membersOf s) : r.GoesBy n name :=
  fun s hs key mem => absurd (List.mem_map.mpr ⟨(key, n), mem, rfl⟩) (none s hs)

/-- What is arranged stays so if a node takes a name that it has wherever it is a member. -/
theorem Arranged.renamed {pulses : Set NodeId} (h : r.Arranged guests pulses) (own : r.GoesBy n name) :
    (r.renamed n name).Arranged guests pulses where
  foreign := h.foreign
  pulse m hm := (h.pulse m hm).renamed (h.placed m hm)
  placed m hm := (h.placed m hm).renamed
  rooted m hm := by
    rcases h.rooted m hm with root | ⟨s, hs, mem⟩
    · exact .inl root
    · exact .inr ⟨s, hs, by rwa [membersOf_renamed]⟩
  numbered m hm := by
    rw [stopOf_renamed]
    exact h.numbered m hm
  sequence s hs := (h.sequence s hs).renamed (h.owner s hs)
  owner s hs := (h.owner s hs).renamed
  root s hs := h.root s hs
  top s hs := (node_renamed_eq (·.parent) (fun _ => rfl) r n _).trans (h.top s hs)
  member s hs key m mem := by
    rw [show (r.renamed n name).nodeOf s = r.nodeOf s from rfl, children_renamed] at mem
    obtain ⟨hm, named, told⟩ := h.member s hs key m mem
    refine ⟨hm, ?_, ?_⟩
    · rw [node_renamed]
      split
      case isTrue both =>
        obtain rfl := both.1
        rw [own s hs key mem]
      case isFalse => exact named
    · rw [refresher_renamed, stopOf_renamed]
      exact told
  linked s hs key link found := by
    rw [show (r.renamed n name).nodeOf s = r.nodeOf s from rfl, children_renamed]
    exact h.linked s hs key link found
  apart s hs key mem := by
    rw [show (r.renamed n name).nodeOf s = r.nodeOf s from rfl, children_renamed] at mem
    exact h.apart s hs key mem
  heard m hm entry mem native := by
    rw [stopOf_renamed] at mem
    obtain ⟨s, hs, told, key, among, link⟩ := h.heard m hm entry mem native
    refine ⟨s, hs, by rwa [refresher_renamed], key, ?_, link⟩
    rwa [show (r.renamed n name).nodeOf s = r.nodeOf s from rfl, children_renamed]

private theorem Orderly.renamed (h : r.Orderly guests) (own : r.GoesBy n name) :
    (r.renamed n name).Orderly guests where
  arranged := by
    rw [inReach_renamed]
    exact h.arranged.renamed own
  settled := by
    rw [inReach_renamed]
    refine ⟨fun m hm => ?_, h.settled.fixed⟩
    rw [StopCurrent, stopOf_renamed, firstParam_renamed]
    exact h.settled.stop m hm
  offered := h.offered

/-! ## Runs -/

/-- What a user reaches with commands on pulses and sequences and with renaming, as long as members keep
the names that they were added under. -/
inductive Tended (log : Log) (now : Instant) : Registry → Prop
  | start : Tended log now (.start log now)
  | step {r : Registry} (c : SequenceCommand) (tended : Tended log now r) (allowed : r.Allows c) :
      Tended log now (c.act r).2
  | rename {r : Registry} (n : NodeId) (name : String) (tended : Tended log now r)
      (own : r.GoesBy n name) : Tended log now ((n.rename name : Act DomainError Unit) r).2

private theorem Tended.orderly (h : Tended log now r) : r.Orderly ∅ := by
  induction h with
  | start => exact orderly_start (fun _ => Set.notMem_empty _) log now
  | step c _ allowed ih => exact (ih.outcome allowed (.inl rfl)).orderly
  | rename n name _ own ih => exact ih.renamed own

private theorem Arranged.namesCurrent {pulses : Set NodeId} (h : r.Arranged guests pulses)
    (hs : s.index < r.sequences.size) : r.NamesCurrent s :=
  fun key p mem _ => (h.member s hs key p mem).2.1

/-- A name under which a member is not found is not current once the member has it. -/
theorem Arranged.goesBy_iff {pulses : Set NodeId} (h : r.Arranged guests pulses) :
    (∀ s : SequenceId, s.index < r.sequences.size → (r.renamed n name).NamesCurrent s) ↔
      r.GoesBy n name := by
  refine ⟨fun current s hs key mem => ?_, fun own s hs => (h.renamed own).namesCurrent hs⟩
  obtain ⟨hn, -⟩ := h.member s hs key n mem
  have children : ((r.renamed n name).node ((r.renamed n name).nodeOf s)).children =
      (r.node (r.nodeOf s)).children := children_renamed r n _ name
  have isPulse : (r.renamed n name).isPulse n = true :=
    ((h.pulse n hn).renamed (h.placed n hn)).isPulse
  have called := current s hs key n (children ▸ mem) isPulse
  rw [node_renamed, if_pos ⟨rfl, (h.placed n hn).inside⟩] at called
  exact (Option.some.inj called).symm

/-- Looking a pulse up by its name in the sequence and asking for the pulse of that name lead to the same
pulses for all names exactly if all pulses of the sequence have the names that they are found under.
Removing by a name takes out the pulse that is found under it and nothing else, and fails where none is
found. As long as no member of a sequence takes another name, both ways agree and whatever is found can be
removed; the first renaming that gives a member another name lets them differ. -/
theorem pulse_routes (r : Registry) (s : SequenceId) :
    ((∀ name p, s.pulse name r = (.ok p, r) ↔ s.selectOne (.called name) r = (.ok (some p), r)) ↔
      r.NamesCurrent s) ∧
    (∀ name p after, s.removePulse name r = (.ok p, after) → s.pulse name r = (.ok p, r) ∧
      (after.node (r.nodeOf s)).children = (r.node (r.nodeOf s)).children.erase name) ∧
    (∀ name halt, s.pulse name r = (.error halt, r) → s.removePulse name r = (.error halt, r)) ∧
    ∀ log now, Tended log now r →
      (s.index < r.sequences.size → r.NamesCurrent s ∧
        ∀ name p, s.pulse name r = (.ok p, r) → ∃ after, s.removePulse name r = (.ok p, after)) ∧
      ∀ n name, (∀ t : SequenceId, t.index < r.sequences.size →
        NamesCurrent ((n.rename name : Act DomainError Unit) r).2 t) ↔ r.GoesBy n name := by
  refine ⟨namesCurrent_iff, fun name p after => SequenceId.pulse_of_removePulse,
    fun name halt => SequenceId.removePulse_refused, fun log now tended =>
      ⟨fun hs => ?_, fun n name => ?_⟩⟩
  · have orderly := tended.orderly
    refine ⟨orderly.arranged.namesCurrent hs, fun name p found => ?_⟩
    obtain ⟨after, run, -⟩ :=
      orderly.arranged.removePulse_run orderly.settled hs (SequenceId.pulse_eq_ok.mp found).1
    exact ⟨after, run⟩
  · exact tended.orderly.arranged.goesBy_iff

/-- Renaming the sequence hides no pulse. -/
theorem pulse_routes_of_renamed_sequence :
    let sequence : SequenceCommand := .createSequence "s" none
    let pulse : SequenceCommand := .createPulse "p" { name := some "a" }
    let made := (pulse.act (sequence.act (start {} default)).2).2
    let added := ((SequenceCommand.addPulse ⟨0⟩ ⟨1⟩).act made).2
    let r := ((NodeId.rename ⟨0⟩ "t" : Act DomainError Unit) added).2
    SequenceId.selectOne ⟨0⟩ (.called "a") r = (.ok (some ⟨1⟩), r) ∧
      ∃ after, SequenceId.removePulse ⟨0⟩ "a" r = (.ok ⟨1⟩, after) := by
  intro sequence pulse made added r
  have free : (sequence.act (start {} default)).2.bench.handles.contains "p" = false := by
    decide +kernel
  have handles : .sequence ⟨0⟩ ∈ made.bench.handles.values ∧ .pulse ⟨1⟩ ∈ made.bench.handles.values := by
    decide +kernel
  have tended : Tended {} default made := .step pulse (.step sequence .start rfl) free
  have tended' : Tended {} default added :=
    .step (.addPulse ⟨0⟩ ⟨1⟩) tended ⟨handles.1, .inl handles.2⟩
  have own : added.GoesBy ⟨0⟩ "t" := by
    have size : added.sequences.size = 1 := by decide +kernel
    have other : ⟨0⟩ ∉ added.membersOf ⟨0⟩ := by decide +kernel
    refine .of_nonmember fun s hs => ?_
    rw [size, Nat.lt_one_iff] at hs
    rwa [show s = ⟨0⟩ from congrArg SequenceId.mk hs]
  have found : SequenceId.pulse ⟨0⟩ "a" r = (.ok ⟨1⟩, r) :=
    SequenceId.pulse_eq_ok.mpr ⟨by decide +kernel, by decide +kernel⟩
  obtain ⟨agree, -, -, tend⟩ := pulse_routes r ⟨0⟩
  obtain ⟨current, removable⟩ := (tend {} default (.rename ⟨0⟩ "t" tended' own)).1 (by decide +kernel)
  exact ⟨(agree.mpr current "a" ⟨1⟩).mp found, removable "a" ⟨1⟩ found⟩

/-- A member that takes another name is found under the old one, and the query asks for the new one. -/
theorem renamed_pulse_not_selected :
    let sequence : SequenceCommand := .createSequence "s" none
    let pulse : SequenceCommand := .createPulse "p" { name := some "a" }
    let made := (pulse.act (sequence.act (start {} default)).2).2
    let added := ((SequenceCommand.addPulse ⟨0⟩ ⟨1⟩).act made).2
    let r := ((NodeId.rename ⟨1⟩ "b" : Act DomainError Unit) added).2
    (SequenceId.pulse ⟨0⟩ "a" r).1.toOption = some ⟨1⟩ ∧
      (SequenceId.selectOne ⟨0⟩ (.called "a") r).1.toOption = some none ∧
      (SequenceId.removePulse ⟨0⟩ "a" r).1.toOption = some ⟨1⟩ ∧
      (SequenceId.pulse ⟨0⟩ "b" r).1.toOption = none ∧
      (SequenceId.selectOne ⟨0⟩ (.called "b") r).1.toOption = some (some ⟨1⟩) := by
  decide +kernel

end Registry
end LabRegistry

import LabRegistry.Proofs.Sequence.Commands

/-!
# Listeners of users

Users connect listeners of their own to the stops of pulses and take them away again. Whatever is done
with sequences meanwhile, these listeners stay as they came. Besides them the stop of a pulse has one
listener for every name under which a sequence holds the pulse, by the number that the sequence keeps
under that name.
-/
namespace LabRegistry

open Registry

/-- Through such a listener the stop of a pulse refreshes a sequence. -/
def Listener.isLink : Listener → Bool
  | .callback (.refreshOwned _) => true
  | _ => false

def Listener.own : Set Listener := {listener | listener.isLink = false}

private theorem Listener.link_notMem_own (p : ParamId) :
    .callback (.refreshOwned p) ∉ Listener.own :=
  Bool.noConfusion

namespace NodeId

def listenStop (n : NodeId) (listener : Listener) : Act RegistryError ListenerId := do
  (← n.parameter "t_stop").listen listener

def linkStop (n : NodeId) (target : ParamId) (link : Link) : Act RegistryError Unit := do
  (← n.parameter "t_stop").connect target link

def disconnectStop (n : NodeId) (id : ListenerId) : Act RegistryError Bool := do
  (← n.parameter "t_stop").disconnect id

end NodeId

variable {r mid after : Registry} {s : SequenceId} {n m : NodeId} {c : SequenceCommand}
  {guests : Set Listener} {pulses : Set NodeId} {log : Log} {now : Instant} {id : ListenerId}
  {listener : Listener} {edit : Parameter → Parameter}

namespace Registry

/-! ## Changing the listeners of a stop -/

def relisten (r : Registry) (n : NodeId) (edit : Parameter → Parameter) : Registry :=
  { r with params := r.params.change (r.stopOf n).index edit }

/-- The change is about listeners, and of the old ones it leaves all but some guests. -/
structure Relistens (r : Registry) (guests : Set Listener) (n : NodeId) (edit : Parameter → Parameter) :
    Prop where
  setup : ∀ param : Parameter, (edit param).setup = param.setup
  value : ∀ param : Parameter, (edit param).value = param.value
  numbered : (r.param (r.stopOf n)).Numbered → (edit (r.param (r.stopOf n))).Numbered
  listeners : (r.param (r.stopOf n)).Relistened guests (edit (r.param (r.stopOf n)))

private theorem relistens_add (among : listener ∈ guests) :
    r.Relistens guests n (·.addListener listener) where
  setup _ := rfl
  value _ := rfl
  numbered numbered := numbered.addListener listener
  listeners := .addListener _ among

private theorem relistens_remove
    (among : ∀ entry ∈ (r.param (r.stopOf n)).listeners, entry.1 = id → entry.2 ∈ guests) :
    r.Relistens guests n (·.removeListener id) where
  setup _ := rfl
  value _ := rfl
  numbered numbered := numbered.removeListener id
  listeners := .removeListener among

private theorem PulseReady.relisten_self (h : r.PulseReady n) (edit : Parameter → Parameter) :
    (r.relisten n edit).param (r.stopOf n) = edit (r.param (r.stopOf n)) := by
  rw [relisten, param_change, if_pos ⟨rfl, h.param_inside (i := 3) (by decide)⟩]

private theorem relisten_of_ne {p : ParamId} (ne : p ≠ r.stopOf n) (edit : Parameter → Parameter) :
    (r.relisten n edit).param p = r.param p := by
  rw [relisten, param_change, if_neg fun both => ne both.1]

private theorem PulseReady.stopOf_ne (h : r.PulseReady n) (h' : r.PulseReady m) (ne : n ≠ m) :
    r.stopOf n ≠ r.stopOf m :=
  h.param_ne (i := 3) (j := 3) h' ne (by decide) (by decide)

private theorem Orderly.relisten (h : r.Orderly guests) (hn : n ∈ r.inReach)
    (change : r.Relistens guests n edit) : (r.relisten n edit).Orderly guests := by
  have arranged := h.arranged
  have ready := arranged.pulse n hn
  have value (p : ParamId) : ((r.relisten n edit).param p).value = (r.param p).value := by
    by_cases same : p = r.stopOf n
    · rw [same, ready.relisten_self, change.value]
    · rw [relisten_of_ne same]
  have preserves : r.Preserves ∅ {r.stopOf n} (r.relisten n edit) := {
    nodes := le_rfl
    node := fun _ _ _ => rfl
    params := (Arena.size_change _ _ _).ge
    setup := fun p _ => by
      by_cases same : p = r.stopOf n
      · rw [same, ready.relisten_self, change.setup]
      · rw [relisten_of_ne same]
    param := fun p _ other => by rw [relisten_of_ne other]
    sequences := le_rfl
    owner := fun _ _ => rfl
    owned := fun _ _ => rfl
    links := fun _ _ _ => rfl }
  have retains : r.Retains r.inReach (r.relisten n edit) :=
    arranged.retains (fun _ kept => kept) le_rfl fun _ _ _ mem => .inr mem
  have mem_iff {m : NodeId} (hm : m ∈ r.inReach) {entry : ListenerId × Listener}
      (native : entry.2 ∉ guests) : entry ∈ ((r.relisten n edit).param (r.stopOf m)).listeners ↔
        entry ∈ (r.param (r.stopOf m)).listeners := by
    by_cases same : m = n
    · rw [same, ready.relisten_self, change.listeners.mem_iff native]
    · rw [relisten_of_ne ((arranged.pulse m hm).stopOf_ne ready same)]
  refine ⟨arranged.of_preserves preserves retains ?_ ?_ nofun
    (fun _ outside inside => absurd inside (not_lt.mpr outside)) (fun t ht name m mem => ?_)
    arranged.linked arranged.apart fun m hm entry mem native => ?_,
    ⟨fun m hm => ?_, h.settled.fixed⟩, h.offered⟩
  · rintro _ rfl
    rw [ready.relisten_self]
    exact change.numbered (arranged.numbered n hn)
  · rintro _ rfl
    exact ⟨n, hn, rfl⟩
  · obtain ⟨hm, named, link, found, told⟩ := arranged.member t ht name m mem
    exact ⟨hm, named, link, found, (mem_iff hm (arranged.refresher_notMem t)).mpr told⟩
  · exact arranged.heard m hm entry ((mem_iff hm native).mp mem) native
  · have current := h.settled.stop m hm
    rw [StopCurrent, stopValue] at current ⊢
    rw [value, value, value]
    exact current

/-! ## Runs -/

end Registry

/-- A listener that a user connected to the stop of a pulse. -/
structure Connection where
  pulse : NodeId
  id : ListenerId
  listener : Listener

namespace Registry

/-- What is reached with commands that set nothing of a pulse, and by users who connect listeners to the
stops of pulses and disconnect them by the numbers they were given. The connections that are left are
recorded in order, and all numbers that were given out. -/
inductive Listened (log : Log) (now : Instant) :
    List Connection → List (NodeId × ListenerId) → Registry → Prop
  | start : Listened log now [] [] (.start log now)
  | command {connected : List Connection} {given : List (NodeId × ListenerId)} {r : Registry}
      (c : SequenceCommand) (earlier : Listened log now connected given r) (leaves : c.LeavesPulses)
      (allowed : r.Allows c) : Listened log now connected given (c.act r).2
  | listen {connected : List Connection} {given : List (NodeId × ListenerId)} {r after : Registry}
      {n : NodeId} {id : ListenerId} (callback : Callable)
      (earlier : Listened log now connected given r) (reach : n ∈ r.inReach)
      (own : .callback callback ∈ Listener.own)
      (run : n.listenStop (.callback callback) r = (.ok id, after)) :
      Listened log now (connected ++ [⟨n, id, .callback callback⟩]) ((n, id) :: given) after
  /-- Links have no numbers for users, and one that does not push at once sets nothing. -/
  | link {connected : List Connection} {given : List (NodeId × ListenerId)} {r after : Registry}
      {n : NodeId} (target : ParamId) (link : Link)
      (earlier : Listened log now connected given r) (reach : n ∈ r.inReach)
      (silent : link.update = false) (run : n.linkStop target link r = (.ok (), after)) :
      Listened log now
        (connected ++ [⟨n, ⟨(r.param (r.stopOf n)).nextListener⟩, .link target link⟩]) given after
  | disconnect {connected : List Connection} {given : List (NodeId × ListenerId)} {r after : Registry}
      {n : NodeId} {id : ListenerId} {found : Bool}
      (earlier : Listened log now connected given r) (reach : n ∈ r.inReach)
      (known : (n, id) ∈ given) (run : n.disconnectStop id r = (.ok found, after)) :
      Listened log now (connected.filter fun entry => !(entry.pulse = n ∧ entry.id = id)) given after

/-- The entries that connections with a pulse make among the listeners of its stop. -/
def entriesOf (connected : List Connection) (n : NodeId) : List (ListenerId × Listener) :=
  (connected.filter (·.pulse = n)).map fun entry => (entry.id, entry.listener)

private theorem entriesOf_append (connected : List Connection) (entry : Connection) (m : NodeId) :
    entriesOf (connected ++ [entry]) m =
      entriesOf connected m ++ if entry.pulse = m then [(entry.id, entry.listener)] else [] := by
  rw [entriesOf, List.filter_append, List.map_append]
  by_cases same : entry.pulse = m <;> simp [entriesOf, same]

private theorem entriesOf_disconnect (connected : List Connection) (n m : NodeId)
    (id : ListenerId) :
    entriesOf (connected.filter fun entry => !(entry.pulse = n ∧ entry.id = id)) m =
      if m = n then (entriesOf connected m).filter (·.1 != id) else entriesOf connected m := by
  rw [entriesOf, List.filter_filter, entriesOf]
  split
  case isTrue same =>
    rw [List.filter_map, List.filter_filter]
    refine congrArg _ (List.filter_congr fun entry _ => ?_)
    rw [Bool.eq_iff_iff]
    by_cases here : entry.pulse = n <;> simp [same, here]
  case isFalse other =>
    refine congrArg _ (List.filter_congr fun entry _ => ?_)
    by_cases here : entry.pulse = m
    · simp [here, other]
    · simp [here]

variable {connected : List Connection} {given : List (NodeId × ListenerId)}

/-- The listeners of users are the recorded ones, and the numbers that users were given stand for no
other listeners. -/
structure Tallied (connected : List Connection) (given : List (NodeId × ListenerId)) (r : Registry) :
    Prop where
  orderly : r.Orderly Listener.own
  known : ∀ entry ∈ connected, entry.pulse.index < r.nodes.size
  own : ∀ n ∈ r.inReach, ((r.param (r.stopOf n)).listeners.filter fun entry => !entry.2.isLink) =
    entriesOf connected n
  given : ∀ n id, (n, id) ∈ given → n.index < r.nodes.size ∧ (n ∈ r.inReach →
    id.number < (r.param (r.stopOf n)).nextListener ∧
      ∀ listener, (id, listener) ∈ (r.param (r.stopOf n)).listeners → listener ∈ Listener.own)

namespace Tallied

variable (h : Tallied connected given r)

include h

private theorem command (leaves : c.LeavesPulses) (allowed : r.Allows c) :
    Tallied connected given (c.act r).2 := by
  have outcome := h.orderly.outcome allowed (.inr leaves)
  have carries := outcome.carries
  have old {n : NodeId} (hn : n ∈ r.inReach) : (c.act r).2.stopOf n = r.stopOf n ∧
      (r.param (r.stopOf n)).Relistened (r.refreshers (r.touched c)) ((c.act r).2.param (r.stopOf n)) :=
    ⟨stopOf_of_node (carries.parameters n (h.orderly.arranged.placed n hn).inside),
      carries.listeners _ (h.orderly.arranged.pulse n hn).stop_inside⟩
  refine ⟨outcome.orderly, fun entry mem => (h.known entry mem).trans_le carries.nodes,
    fun n hn => ?_, fun n id mem => ⟨(h.given n id mem).1.trans_le carries.nodes, fun hn => ?_⟩⟩
  · rcases outcome.reach n hn with here | ⟨new, unheard, -⟩
    · obtain ⟨stop, relistened⟩ := old here
      rw [stop, ← h.own n here]
      refine relistened.kept (!·.isLink) ?_
      rintro _ ⟨s, -, rfl⟩
      rfl
    · have none : connected.filter (·.pulse = n) = [] := by
        refine List.filter_eq_nil_iff.mpr fun entry mem same => ?_
        have below := h.known entry mem
        rw [of_decide_eq_true same] at below
        omega
      rw [unheard, entriesOf, none]
      rfl
  · obtain ⟨below, earlier⟩ := h.given n id mem
    rcases outcome.reach n hn with here | ⟨new, -⟩
    · obtain ⟨stop, relistened⟩ := old here
      obtain ⟨next, own⟩ := earlier here
      rw [stop]
      refine ⟨next.trans_le relistened.next, fun listener told => ?_⟩
      rcases relistened.fresh _ told with before | later
      · exact own listener before
      · exact absurd next (not_lt.mpr later)
    · omega

private theorem hear (hn : n ∈ r.inReach) (own : listener ∈ Listener.own) :
    Tallied (connected ++ [⟨n, ⟨(r.param (r.stopOf n)).nextListener⟩, listener⟩])
      ((n, ⟨(r.param (r.stopOf n)).nextListener⟩) :: given)
      (r.relisten n (·.addListener listener)) := by
  have ready := h.orderly.arranged.pulse n hn
  have self := ready.relisten_self (·.addListener listener)
  have other {m : NodeId} (hm : m ∈ r.inReach) (ne : m ≠ n) :
      (r.relisten n (·.addListener listener)).param (r.stopOf m) = r.param (r.stopOf m) :=
    relisten_of_ne ((h.orderly.arranged.pulse m hm).stopOf_ne ready ne) _
  have placed := (h.orderly.arranged.placed n hn).inside
  refine ⟨h.orderly.relisten hn (relistens_add own), fun entry mem => ?_, fun m hm => ?_,
    fun m id mem => ?_⟩
  · rcases List.mem_append.mp mem with old | new
    · exact h.known entry old
    · rw [List.mem_singleton.mp new]
      exact placed
  · change List.filter _ ((r.relisten n (·.addListener listener)).param (r.stopOf m)).listeners = _
    rw [entriesOf_append, ← h.own m hm]
    by_cases same : m = n
    · subst same
      rw [self, if_pos rfl, Parameter.addListener, List.filter_append]
      have kept : (!listener.isLink) = true := by
        rw [own]
        rfl
      simp [kept]
    · rw [other hm same, if_neg (Ne.symm same), List.append_nil]
  · rcases List.mem_cons.mp mem with new | old
    · obtain ⟨rfl, rfl⟩ := Prod.mk.inj new
      refine ⟨placed, fun _ => ?_⟩
      change _ < ((r.relisten m (·.addListener listener)).param (r.stopOf m)).nextListener ∧
        ∀ l, _ ∈ ((r.relisten m (·.addListener listener)).param (r.stopOf m)).listeners → _
      rw [self]
      refine ⟨Nat.lt_succ_self _, fun l told => ?_⟩
      rcases List.mem_append.mp told with old | new
      · exact absurd ((h.orderly.arranged.numbered m hn).below _ old) (lt_irrefl _)
      · rw [(Prod.mk.inj (List.mem_singleton.mp new)).2]
        exact own
    · obtain ⟨below, earlier⟩ := h.given m id old
      refine ⟨below, fun hm => ?_⟩
      obtain ⟨next, stands⟩ := earlier hm
      change _ < ((r.relisten n (·.addListener listener)).param (r.stopOf m)).nextListener ∧
        ∀ l, _ ∈ ((r.relisten n (·.addListener listener)).param (r.stopOf m)).listeners → _
      by_cases same : m = n
      · subst same
        rw [self]
        refine ⟨Nat.lt_succ_of_lt next, fun l told => ?_⟩
        rcases List.mem_append.mp told with old | new
        · exact stands l old
        · rw [(Prod.mk.inj (List.mem_singleton.mp new)).2]
          exact own
      · rw [other hm same]
        exact ⟨next, stands⟩

private theorem forget (hn : n ∈ r.inReach) (mem : (n, id) ∈ given) :
    Tallied (connected.filter fun entry => !(entry.pulse = n ∧ entry.id = id)) given
      (r.relisten n (·.removeListener id)) := by
  have ready := h.orderly.arranged.pulse n hn
  have self := ready.relisten_self (·.removeListener id)
  have other {m : NodeId} (hm : m ∈ r.inReach) (ne : m ≠ n) :
      (r.relisten n (·.removeListener id)).param (r.stopOf m) = r.param (r.stopOf m) :=
    relisten_of_ne ((h.orderly.arranged.pulse m hm).stopOf_ne ready ne) _
  have stands := ((h.given n id mem).2 hn).2
  refine ⟨h.orderly.relisten hn (relistens_remove fun entry told same => ?_),
    fun entry mem => h.known entry (List.mem_of_mem_filter mem), fun m hm => ?_, fun m id' mem' => ?_⟩
  · exact stands entry.2 (same ▸ told)
  · change List.filter _ ((r.relisten n (·.removeListener id)).param (r.stopOf m)).listeners = _
    rw [entriesOf_disconnect, ← h.own m hm]
    by_cases same : m = n
    · subst same
      rw [self, if_pos rfl, Parameter.removeListener, List.filter_comm]
    · rw [other hm same, if_neg same]
  · obtain ⟨below, earlier⟩ := h.given m id' mem'
    refine ⟨below, fun hm => ?_⟩
    obtain ⟨next, stands'⟩ := earlier hm
    change _ < ((r.relisten n (·.removeListener id)).param (r.stopOf m)).nextListener ∧
      ∀ l, _ ∈ ((r.relisten n (·.removeListener id)).param (r.stopOf m)).listeners → _
    by_cases same : m = n
    · subst same
      rw [self]
      exact ⟨next, fun l told => stands' l (List.mem_of_mem_filter told)⟩
    · rw [other hm same]
      exact ⟨next, stands'⟩

end Tallied

private theorem Orderly.parameter_stop (h : r.Orderly guests) (hn : n ∈ r.inReach) :
    n.parameter "t_stop" r = (.ok (r.stopOf n), r) :=
  (h.arranged.pulse n hn).parameter_stop

private theorem Listened.tallied (h : Listened log now connected given r) :
    Tallied connected given r := by
  induction h with
  | start =>
    refine ⟨orderly_start Listener.link_notMem_own log now, nofun, ?_, nofun⟩
    rintro n (handle | ⟨s, hs, -⟩)
    · cases handle
    · exact absurd hs (Nat.not_lt_zero _)
  | command c _ leaves allowed ih => exact ih.command leaves allowed
  | listen callback _ reach own run ih =>
    rw [NodeId.listenStop, Act.bind_run, ih.orderly.parameter_stop reach] at run
    cases run
    exact ih.hear reach own
  | link target link _ reach silent run ih =>
    rw [NodeId.linkStop, Act.bind_run, ih.orderly.parameter_stop reach] at run
    dsimp only at run
    rw [ParamId.connect, silent] at run
    cases run
    have heard := ih.hear reach (show .link target link ∈ Listener.own from rfl)
    exact { heard with given := fun m id mem => heard.given m id (List.mem_cons_of_mem _ mem) }
  | disconnect _ reach known run ih =>
    rw [NodeId.disconnectStop, Act.bind_run, ih.orderly.parameter_stop reach] at run
    cases run
    exact ih.forget reach known

/-! ## Listeners of the library -/

/-- The sequences that hold a pulse, each with the name under which it does. -/
def holdings (r : Registry) (n : NodeId) : Set (SequenceId × String) :=
  {held | held.1.index < r.sequences.size ∧
    (held.2, n) ∈ (r.node (r.nodeOf held.1)).children.entries}

namespace Orderly

variable (h : r.Orderly Listener.own)

include h

/-- The listeners of a stop that are not from users are one for each sequence and name under which it
holds the pulse, by the number that the sequence keeps. -/
theorem links (hn : n ∈ r.inReach) : ∃ link : SequenceId × String → ListenerId,
    (∀ held ∈ r.holdings n, (r.sequence held.1).stopLinks.get? held.2 = some (link held)) ∧
    Set.BijOn (fun held => (link held, r.refresher held.1)) (r.holdings n)
      {entry | entry ∈ (r.param (r.stopOf n)).listeners ∧ entry.2.isLink = true} := by
  have arranged := h.arranged
  let link (held : SequenceId × String) : ListenerId :=
    ((r.sequence held.1).stopLinks.get? held.2).getD ⟨0⟩
  have kept {held : SequenceId × String} {id : ListenerId}
      (found : (r.sequence held.1).stopLinks.get? held.2 = some id) : link held = id := by
    simp only [link, found, Option.getD_some]
  refine ⟨link, fun held mem => ?_, fun held mem => ?_, fun held mem held' mem' same => ?_, ?_⟩
  · obtain ⟨-, -, id, found, -⟩ := arranged.member held.1 mem.1 held.2 n mem.2
    rw [kept found, found]
  · obtain ⟨-, -, id, found, told⟩ := arranged.member held.1 mem.1 held.2 n mem.2
    refine ⟨?_, rfl⟩
    dsimp only
    rwa [kept found]
  · obtain ⟨-, refreshes⟩ := Prod.mk.inj same
    have sequence := (arranged.sequence held.1 mem.1).refresher_inj
      (arranged.sequence held'.1 mem'.1) refreshes
    have name := (arranged.member held.1 mem.1 held.2 n mem.2).2.1
    have name' := (arranged.member held'.1 mem'.1 held'.2 n mem'.2).2.1
    exact Prod.ext sequence (Option.some.inj (name.symm.trans name'))
  · rintro ⟨id, listener⟩ ⟨mem, isLink⟩
    have native : listener ∉ Listener.own := by
      intro own
      rw [own] at isLink
      cases isLink
    obtain ⟨s, hs, told, name, among, found⟩ := arranged.heard n hn _ mem native
    exact ⟨(s, name), ⟨hs, among⟩, Prod.ext (show link (s, name) = id from kept found) told.symm⟩

private theorem linked_iff (hs : s.index < r.sequences.size) (name : String) :
    (r.sequence s).stopLinks.contains name = true ↔
      ∃ n ∈ r.pulses (r.nodeOf s), (name, n) ∈ (r.node (r.nodeOf s)).children.entries := by
  have arranged := h.arranged
  rw [arranged.working.pulses_eq hs, OrderedMap.contains_iff_mem_keys]
  constructor
  · intro mem
    obtain ⟨id, found⟩ := Option.isSome_iff_exists.mp (Entries.isSome_get?_iff.mpr mem)
    obtain ⟨⟨_, n⟩, among, rfl⟩ := List.mem_map.mp (arranged.linked s hs name id found)
    exact ⟨n, List.mem_map.mpr ⟨_, among, rfl⟩, among⟩
  · rintro ⟨n, -, among⟩
    obtain ⟨-, -, id, found, -⟩ := arranged.member s hs name n among
    exact Entries.isSome_get?_iff.mp (Option.isSome_iff_exists.mpr ⟨id, found⟩)

private theorem removePulse_listeners (hs : s.index < r.sequences.size) {name : String}
    (run : s.removePulse name r = (.ok m, after)) (p : ParamId) :
    (r.param p).Relistened {r.refresher s} (after.param p) := by
  obtain ⟨halt, failed⟩ | ⟨n, mid, run', fewer, -, -, retimed, -⟩ :=
    h.arranged.removePulse_outcome h.settled hs name
  · rw [run] at failed
    cases failed
  · rw [run] at run'
    cases run'
    refine (retimed.listeners p).mono ?_
    rintro _ ⟨s, rfl, rfl⟩
    rfl

private theorem not_refreshed (hs : s.index < r.sequences.size) (hn : n ∈ r.inReach)
    (outside : n ∉ r.membersOf s) :
    ∀ entry ∈ (r.param (r.stopOf n)).listeners, entry.2 ≠ r.refresher s :=
  fun entry mem told => outside ((h.arranged.mem_hearers_iff hn hs).mp ⟨entry, mem, told⟩)

private theorem restored (hs : s.index < r.sequences.size) (hn : n ∈ r.inReach)
    (added : s.addPulse n r = (.ok (), mid)) : ∃ name after, (r.node n).name = some name ∧
      s.removePulse name mid = (.ok n, after) ∧
      (after.param (after.stopOf n)).listeners = (r.param (r.stopOf n)).listeners := by
  have arranged := h.arranged
  have ready := arranged.sequence s hs
  have enters : r.Enters Listener.own r.inReach s n mid := by
    have outcome := arranged.addPulse_run h.settled hs hn
    rw [added] at outcome
    exact outcome
  obtain ⟨name, named, fresh, children⟩ := enters.entered
  have same : r.SameHandles mid := by
    have kept := s.addPulse_sameHandles n r
    rwa [added] at kept
  obtain ⟨orderly, -⟩ := h.spared enters.toSpares same
  have found : (mid.node (mid.nodeOf s)).children.get? name = some n := by
    rw [enters.owner, children, OrderedMap.get?_insert, if_pos rfl]
  have hs' : s.index < mid.sequences.size := enters.size ▸ hs
  obtain ⟨after, removed, frees, erased⟩ :=
    orderly.arranged.removePulse_run orderly.settled hs' found
  have same' : mid.SameHandles after := by
    have kept := s.removePulse_sameHandles name mid
    rwa [removed] at kept
  obtain ⟨⟨orderly', -⟩, carries, -⟩ := orderly.freed frees same'
  have hs'' : s.index < after.sequences.size := hs'.trans_le carries.size
  obtain ⟨member, named', -⟩ := orderly.arranged.member s hs' name n (Entries.mem_of_get? found)
  refine ⟨name, after, named, removed, ?_⟩
  -- The pulse is not in the sequence before, and not afterwards either.
  have before : n ∉ r.membersOf s := by
    intro mem
    obtain ⟨⟨other, _⟩, among, rfl⟩ := List.mem_map.mp mem
    have own := (arranged.member s hs other _ among).2.1
    obtain rfl : other = name := Option.some.inj (own.symm.trans named)
    have taken := OrderedMap.contains_iff_mem_keys.mpr (List.mem_map_of_mem among)
    rw [fresh] at taken
    cases taken
  have afterwards : n ∉ after.membersOf s := by
    intro mem
    rw [membersOf, erased] at mem
    obtain ⟨⟨other, _⟩, among, rfl⟩ := List.mem_map.mp mem
    obtain ⟨old, differs⟩ := List.mem_filter.mp among
    have own := (orderly.arranged.member s hs' other _ old).2.1
    have same : other = name := Option.some.inj (own.symm.trans named')
    simp [same] at differs
  have reach : n ∈ after.inReach := by
    rcases hn with handle | ⟨t, ht, mem⟩
    · refine .inl ?_
      rw [same', same]
      exact handle
    · have other : t ≠ s := by
        rintro rfl
        exact before mem
      have ht' : t.index < mid.sequences.size := enters.size ▸ ht
      refine .inr ⟨t, ht'.trans_le carries.size, ?_⟩
      rw [carries.membersOf ht' other, enters.toSpares.carries.membersOf ht other]
      exact mem
  have stop : after.stopOf n = r.stopOf n :=
    stopOf_of_node <|
      (carries.parameters n (orderly.arranged.placed n member).inside).trans (enters.parameters n)
  have refresher : mid.refresher s = r.refresher s := by
    rw [Registry.refresher, enters.durationOf, Registry.refresher]
  have refresher' : after.refresher s = r.refresher s := by
    rw [Registry.refresher, durationOf_of_node (carries.owner s hs')
      (carries.parameters _ (orderly.arranged.owner s hs').inside), ← Registry.refresher, refresher]
  have relistened : (r.param (r.stopOf n)).Relistened {r.refresher s} (after.param (r.stopOf n)) := by
    have first : (r.param (r.stopOf n)).Relistened {r.refresher s} (mid.param (r.stopOf n)) := by
      refine (enters.listeners (r.stopOf n)).mono ?_
      rintro _ ⟨s, rfl, rfl⟩
      rfl
    exact first.trans (refresher ▸ orderly.removePulse_listeners hs' removed _)
  classical
  have kept := relistened.kept (decide <| · ≠ r.refresher s) fun _ same => by simpa using same
  rw [stop]
  have all := h.not_refreshed hs hn before
  have all' := orderly'.not_refreshed hs'' reach afterwards
  rw [stop, refresher'] at all'
  rwa [List.filter_eq_self.mpr fun entry mem => decide_eq_true (all entry mem),
    List.filter_eq_self.mpr fun entry mem => decide_eq_true (all' entry mem)] at kept

end Orderly

/-- Whatever is done with sequences, the listeners of a stop are those that users connected and did not
disconnect, in order, and one listener for every sequence and name under which it holds the pulse, by
the number that the sequence keeps under the name. A sequence keeps numbers under the names of its
pulses only. A pulse that enters a sequence and is taken out again has the listeners that it had, and
taking a pulse out takes no listener away but those that refresh the sequence. -/
theorem listeners_of_listened (h : Listened log now connected given r) :
    (∀ n ∈ r.inReach, n.parameter "t_stop" r = (.ok (r.stopOf n), r) ∧
      ((r.param (r.stopOf n)).listeners.map (·.1)).Nodup ∧
      ((r.param (r.stopOf n)).listeners.filter fun entry => !entry.2.isLink) =
        entriesOf connected n ∧
      ∃ link : SequenceId × String → ListenerId,
        (∀ held ∈ r.holdings n, (r.sequence held.1).stopLinks.get? held.2 = some (link held)) ∧
        Set.BijOn (fun held => (link held, r.refresher held.1)) (r.holdings n)
          {entry | entry ∈ (r.param (r.stopOf n)).listeners ∧ entry.2.isLink = true}) ∧
    ∀ s, .sequence s ∈ r.bench.handles.values →
      (∀ name, (r.sequence s).stopLinks.contains name = true ↔
        ∃ n ∈ r.pulses (r.nodeOf s), (name, n) ∈ (r.node (r.nodeOf s)).children.entries) ∧
      (∀ n ∈ r.inReach, ∀ mid, s.addPulse n r = (.ok (), mid) → ∃ name after,
        (r.node n).name = some name ∧ s.removePulse name mid = (.ok n, after) ∧
        (after.param (after.stopOf n)).listeners = (r.param (r.stopOf n)).listeners) ∧
      (∀ name m after, s.removePulse name r = (.ok m, after) → ∀ p (keep : Listener → Bool),
        keep (r.refresher s) = false →
          (after.param p).listeners.filter (keep ·.2) = (r.param p).listeners.filter (keep ·.2)) ∧
      ∀ t, .sequence t ∈ r.bench.handles.values → r.refresher t = r.refresher s → t = s := by
  have tallied := h.tallied
  have orderly := tallied.orderly
  have arranged := orderly.arranged
  refine ⟨fun n hn => ⟨orderly.parameter_stop hn, (arranged.numbered n hn).once, tallied.own n hn,
    orderly.links hn⟩, fun s handle => ?_⟩
  have hs := (orderly.offered s).mpr handle
  refine ⟨orderly.linked_iff hs, fun n hn mid added => orderly.restored hs hn added,
    fun name m after removed p keep spared => ?_, fun t handle' same => ?_⟩
  · refine (orderly.removePulse_listeners hs removed p).kept keep ?_
    rintro _ rfl
    exact spared
  · exact (arranged.sequence t ((orderly.offered t).mpr handle')).refresher_inj
      (arranged.sequence s hs) same

/-- A pulse to whose stop a user listens enters a sequence and is taken out again. -/
theorem listeners_of_added_pulse :
    let sequence : SequenceCommand := .createSequence "s" none
    let pulse : SequenceCommand := .createPulse "p" { name := some "p" }
    let callback : Callable := .script (.mk [] none)
    let made := (pulse.act (sequence.act (start {} default)).2).2
    let r := (NodeId.listenStop ⟨1⟩ (.callback callback) made).2
    let mid := (SequenceId.addPulse ⟨0⟩ ⟨1⟩ r).2
    (r.param (r.stopOf ⟨1⟩)).listeners.length = 1 ∧ (mid.param (mid.stopOf ⟨1⟩)).listeners.length = 2 ∧
      ∃ after, SequenceId.removePulse ⟨0⟩ "p" mid = (.ok ⟨1⟩, after) ∧
        (after.param (after.stopOf ⟨1⟩)).listeners = (r.param (r.stopOf ⟨1⟩)).listeners := by
  intro sequence pulse callback made r mid
  have free : (sequence.act (start {} default)).2.bench.handles.contains "p" = false := by
    decide +kernel
  have handles : .sequence ⟨0⟩ ∈ r.bench.handles.values ∧ .pulse ⟨1⟩ ∈ made.bench.handles.values ∧
      .pulse ⟨1⟩ ∈ r.bench.handles.values := by decide +kernel
  have heard : NodeId.listenStop ⟨1⟩ (.callback callback) made = (.ok ⟨0⟩, r) :=
    Act.run_of_toOption (by decide +kernel)
  have added : SequenceId.addPulse ⟨0⟩ ⟨1⟩ r = (.ok (), mid) := Act.run_of_toOption (by decide +kernel)
  have ran : Listened {} default [] [] made :=
    .command pulse (.command sequence .start trivial rfl) trivial free
  have listened := listeners_of_listened (.listen callback ran (.inl handles.2.1) rfl heard)
  obtain ⟨name, after, named, removed, restored⟩ :=
    (listened.2 ⟨0⟩ handles.1).2.1 ⟨1⟩ (.inl handles.2.2) mid added
  have own : (r.node ⟨1⟩).name = some "p" := by decide +kernel
  obtain rfl : "p" = name := Option.some.inj (own.symm.trans named)
  exact ⟨by decide +kernel, by decide +kernel, after, removed, restored⟩

end Registry
end LabRegistry

import LabRegistry.Proofs.Sequence.Handles
import LabRegistry.Proofs.Sequence.Overlap

/-!
# Adding and removing pulses

Adding a pulse succeeds and frees the duration of the sequence, or it changes no sequence. Removing
one fails only if there is none of the name, so clearing a sequence always succeeds.
-/
namespace LabRegistry

open Registry

variable {r mid after : Registry} {s : SequenceId} {n pulse : NodeId} {name : String}
  {guests : Set Listener} {pulses : Set NodeId} {ε α β : Type}

private theorem SequenceId.removePulse_missing
    (missing : (r.node (r.nodeOf s)).children.get? name = none) :
    s.removePulse name r =
      (.error ((r.refusal (r.nodeOf s) (.noAttribute · name)).map .registry), r) := by
  have node : (s.node : Act DomainError NodeId) r = (.ok (r.nodeOf s), r) := rfl
  have child : (r.nodeOf s).child name r =
      (.error (r.refusal (r.nodeOf s) (.noAttribute · name)), r) := NodeId.find_missing missing
  rw [removePulse, Act.bind_run, node]
  dsimp only
  rw [Act.bind_run, pulse, Act.bind_run, node]
  dsimp only
  rw [Act.bind_run, Act.lift_error child]

namespace Registry

private theorem Arranged.freed_run (h : r.Arranged guests pulses) (settled : r.Settled pulses)
    (hs : s.index < r.sequences.size) (before middle : String) :
    ∃ after, (do
      liftM s.freeDuration
      Act.debug do return before ++ middle ++ (← (r.nodeOf s).displayName) ++ "'" :
        Act DomainError Unit) r = (.ok (), after) ∧ r.Retimed guests pulses s none after ∧
      after.nodes = r.nodes := by
  obtain ⟨mid, run, retimed, nodes⟩ := h.freeDuration_run settled hs
  have hs' : s.index < mid.sequences.size := retimed.size ▸ hs
  have top : (mid.node (r.nodeOf s)).parent = none := by
    rw [← retimed.owner]
    exact retimed.arranged.top s hs'
  obtain ⟨shown, named⟩ := Option.isSome_iff_exists.mp (displayName?_of_top top)
  have composed : (do return before ++ middle ++ (← (r.nodeOf s).displayName) ++ "'" :
      Act DomainError String) mid = (.ok (before ++ middle ++ shown ++ "'"), mid) := by
    rw [Act.bind_run, NodeId.displayName, Act.orEndless_run, named]
    rfl
  obtain ⟨lines, logged⟩ := Act.debug_ok composed
  have same : mid.SameState { mid with log := { mid.log with lines } } :=
    ⟨⟨⟨rfl, roots_of_eq rfl rfl fun _ => rfl⟩, rfl, rfl, rfl, fun _ => rfl⟩, rfl, fun _ => rfl⟩
  refine ⟨_, ?_, retimed.maintained hs
    (retimed.arranged.working.maintained_of_sameState retimed.settled same), nodes⟩
  rw [Act.bind_run, Act.lift_ok run]
  exact logged

end Registry

/-! ## Adding -/

/-- What adding a pulse does once it is known to have a name that no child has. That no child has it
is an error first, and where the sequence has no name it is not known. -/
theorem SequenceId.addPulse_steps (s : SequenceId) (pulse : NodeId) (r : Registry) :
    s.addPulse pulse r = match (r.node pulse).name with
      | none => (.error (.failed .unnamedPulse), r)
      | some name =>
        if (r.node (r.nodeOf s)).children.contains name then
          (.error (.failed (.pulseNameTaken name)), r)
        else if r.displayName? (r.nodeOf s) = none then (.error .endless, r)
        else (do
          if (← (r.nodeOf s).get "allow_pulse_overlap") == .bool false then
            refuseOverlap pulse name (← s.pulses)
          s.enter (r.nodeOf s) pulse name : Act DomainError Unit) r := by
  have owner : (s.node : Act DomainError NodeId) r = (.ok (r.nodeOf s), r) := rfl
  rw [addPulse, Act.bind_run, owner]
  dsimp only
  rw [Act.bind_run, NodeId.state_run]
  dsimp only
  cases (r.node pulse).name with
  | none => rfl
  | some name =>
    dsimp only
    rw [Act.bind_run, NodeId.child, NodeId.find_attempt, OrderedMap.contains]
    cases (r.node (r.nodeOf s)).children.get? name with
    | some _ => rfl
    | none => cases r.displayName? (r.nodeOf s) <;> rfl

namespace Registry

/-- What is in the way of a pulse that is to be added to a sequence, apart from members of the sequence
that are no pulses. -/
def obstacle? (r : Registry) (s : SequenceId) (pulse : NodeId) : Option DomainError :=
  match (r.node pulse).name with
  | none => some .unnamedPulse
  | some name =>
    if (r.node (r.nodeOf s)).children.contains name then some (.pulseNameTaken name)
    else if r.cached (r.nodeOf s) "allow_pulse_overlap" == .bool false then
      ((r.pulses (r.nodeOf s)).find? (r.obstructs pulse)).map fun other =>
        .pulsesOverlap name ((r.node other).name.getD "")
    else none

/-- A pulse entered a sequence under its name, which was free, and the duration was freed. -/
structure Enters (r : Registry) (guests : Set Listener) (pulses : Set NodeId) (s : SequenceId)
    (pulse : NodeId) (after : Registry) : Prop extends r.Retimed guests pulses s none after where
  entered : ∃ name, (r.node pulse).name = some name ∧
    (r.node (r.nodeOf s)).children.contains name = false ∧
    (after.node (r.nodeOf s)).children = (r.node (r.nodeOf s)).children.insert name pulse

end Registry

namespace Registry.Arranged

variable (h : r.Arranged guests pulses) (settled : r.Settled pulses) (hs : s.index < r.sequences.size)

include h settled hs

theorem enter_run_of_child (hn : pulse ∈ pulses) (named : (r.node pulse).name = some name)
    (free : (r.node (r.nodeOf s)).kindOf name = none) (rehung : Rehung pulse name r mid)
    (run : (r.nodeOf s).addChild name pulse r = (.ok (), { mid with
      nodes := mid.nodes.change (r.nodeOf s).index fun node =>
        { node with children := node.children.insert name pulse } })) :
    ∃ after, s.enter (r.nodeOf s) pulse name r = (.ok (), after) ∧
      r.Retimed guests pulses s none after ∧
      after.nodes = mid.nodes.change (r.nodeOf s).index fun node =>
        { node with children := node.children.insert name pulse } := by
  have ready := h.pulse pulse hn
  have other := (h.ne_nodeOf hn hs).symm
  let entered : Registry := { mid with nodes := mid.nodes.change (r.nodeOf s).index fun node =>
    { node with children := node.children.insert name pulse } }
  let link : ListenerId := ⟨(r.param (r.stopOf pulse)).nextListener⟩
  let linked := mid.rewire s pulse (·.insert name pulse) (·.insert name link)
    (·.addListener (r.refresher s))
  have edited : r.Edited s pulse ((r.node (r.nodeOf s)).children.insert name pulse)
      ((r.sequence s).stopLinks.insert name link) (·.addListener (r.refresher s)) linked := by
    have edits : mid.Edited s pulse _ _ _ linked := edited_rewire (rehung.sequences ▸ hs)
      (by rw [rehung.nodeOf, rehung.size]; exact (h.owner s hs).inside)
      (by rw [rehung.stopOf named, rehung.params]; exact ready.stop_inside)
      (·.insert name pulse) (·.insert name link) (·.addListener (r.refresher s))
    rw [rehung.nodeOf, rehung.others _ other, rehung.sequence] at edits
    exact edits.of_rehung rehung named other
  have nodes : linked.nodes = entered.nodes := by
    have same : mid.nodeOf s = r.nodeOf s := rehung.nodeOf s
    simp only [linked, rewire, same]
    rfl
  have duration : (entered.node (r.nodeOf s)).parameters.get? "duration" =
      some (r.durationOf s) := by
    rw [node, ← nodes, ← node, edited.owner]
    exact (h.sequence s hs).fitted.get? (i := 2) rfl
  have stop : (entered.node pulse).parameters.get? "t_stop" = some (r.stopOf pulse) := by
    rw [node, ← nodes, ← node, edited.parameters]
    exact ready.fitted.get? (i := 3) rfl
  have listened : ((r.stopOf pulse).listen (r.refresher s) : Act DomainError ListenerId) entered =
      (.ok link, entered.hear (r.stopOf pulse) (r.refresher s)) := by
    have next : (entered.param (r.stopOf pulse)).nextListener =
        (r.param (r.stopOf pulse)).nextListener := congrArg (·.nextListener) (rehung.param _)
    rw [ParamId.listen_run, next]
  have changed : (s.change fun seq => { seq with stopLinks := seq.stopLinks.insert name link } :
      Act DomainError Unit) (entered.hear (r.stopOf pulse) (r.refresher s)) = (.ok (), linked) := by
    have same : mid.nodeOf s = r.nodeOf s := rehung.nodeOf s
    have same' : mid.stopOf pulse = r.stopOf pulse := rehung.stopOf named
    simp only [linked, rewire, same, same']
    rfl
  have spares : r.Spares guests pulses {s} (r.durationsOf {s}) linked :=
    edited.spares_enter h settled hs hn named free
  obtain ⟨after, freed, retimed, kept⟩ := spares.arranged.freed_run spares.settled
    (spares.size ▸ hs) ("added pulse '" ++ name) "' to sequence '"
  rw [edited.nodeOf] at freed
  refine ⟨after, ?_, spares.retimed retimed, kept.trans nodes⟩
  rw [SequenceId.enter, Act.bind_run, Act.lift_ok run]
  dsimp only
  rw [Act.bind_run, Act.lift_ok (NodeId.parameter_run duration)]
  dsimp only
  rw [Act.bind_run, Act.lift_ok (NodeId.parameter_run stop)]
  dsimp only
  rw [← refresher, Act.bind_run, listened]
  dsimp only
  rw [Act.bind_run, changed]
  exact freed

omit hs in
private theorem spares_rehung {touched : Set SequenceId} {written : Set ParamId}
    (hn : pulse ∈ pulses)
    (named : (r.node pulse).name = some name) (rehung : Rehung pulse name r mid)
    (inside : ∀ t ∈ touched, t.index < r.sequences.size) :
    r.Spares guests pulses touched written mid := by
  have size : mid.sequences.size = r.sequences.size := by rw [rehung.sequences]
  have preserves := rehung.preserves named fun t ht => (h.ne_nodeOf hn ht).symm
  have kept : r.Retains pulses mid := by
    refine h.retains (fun n kept => rehung.roots ▸ kept) size.ge fun t ht n mem => .inr ?_
    rwa [membersOf, rehung.nodeOf, rehung.others _ (h.ne_nodeOf hn ht).symm]
  have h' : mid.Arranged guests pulses := h.preserved preserves kept fun t outside inside => by omega
  refine Spares.of_preserves (preserves.mono (Set.empty_subset _)) h settled h' inside rehung.size
    (fun n => congrArg (·.parameters) (rehung.orphan named n)) size rehung.nodeOf (by rw [rehung.params])
    (fun p => by rw [rehung.param]) (fun p => .of_uncached (by rw [rehung.param]))
    (fun t _ => by rw [rehung.sequence]) fun t duration fixed => ?_
  rw [rehung.sequence] at fixed
  exact settled.fixed t duration fixed

/-- A pulse enters a sequence, or it is refused as a child and no sequence is touched. -/
theorem enter_run (hn : pulse ∈ pulses) (named : (r.node pulse).name = some name)
    (fresh : (r.node (r.nodeOf s)).children.contains name = false) :
    (∃ after, s.enter (r.nodeOf s) pulse name r = (.ok (), after) ∧
      r.Enters guests pulses s pulse after) ∨
    ∃ halt after, s.enter (r.nodeOf s) pulse name r = (.error (Halt.map .registry halt), after) ∧
      r.Spares guests pulses ∅ ∅ after := by
  obtain ⟨mid, rehung, ⟨halt, run⟩ | ⟨admits, run⟩⟩ := NodeId.addChild_run (r.nodeOf s) pulse name r
  · refine .inr ⟨halt, mid, ?_, h.spares_rehung settled hn named rehung nofun⟩
    rw [SequenceId.enter, Act.bind_run, Act.lift_error run]
  · have free : (r.node (r.nodeOf s)).kindOf name = none :=
      admits.resolve_right fun taken => by
        simp only [Node.kindOf, fresh, Bool.false_eq_true, if_false] at taken
        split_ifs at taken <;> cases taken
    obtain ⟨after, entered, retimed, nodes⟩ :=
      h.enter_run_of_child settled hs hn named free rehung run
    refine .inl ⟨after, entered, retimed, name, named, fresh, ?_⟩
    have inside : (r.nodeOf s).index < mid.nodes.size := rehung.size ▸ (h.owner s hs).inside
    have owner := mid.node_change (r.nodeOf s) (r.nodeOf s) fun node =>
      { node with children := node.children.insert name pulse }
    rw [if_pos ⟨rfl, inside⟩, rehung.others _ (h.ne_nodeOf hn hs).symm] at owner
    rw [node, nodes]
    exact congrArg (·.children) owner

theorem addPulse_start (hn : pulse ∈ pulses) : ∃ mid, r.SameState mid ∧
    match r.obstacle? s pulse with
    | some cause => s.addPulse pulse r = (.error (.failed cause), mid)
    | none => ∃ name, (r.node pulse).name = some name ∧
        (r.node (r.nodeOf s)).children.contains name = false ∧
        s.addPulse pulse r = s.enter (r.nodeOf s) pulse name mid := by
  rw [SequenceId.addPulse_steps, obstacle?]
  cases (r.node pulse).name with
  | none => exact ⟨r, refl r, rfl⟩
  | some name =>
    dsimp only
    cases fresh : (r.node (r.nodeOf s)).children.contains name with
    | true => exact ⟨r, refl r, rfl⟩
    | false =>
      have ready := h.sequence s hs
      have asked : ((r.nodeOf s).get "allow_pulse_overlap").Reads r
          (r.cached (r.nodeOf s) "allow_pulse_overlap") False := by
        refine .of_getWith 1 (by decide) ?_
        rw [ready.fitted.cached (i := 0) rfl]
        exact ready.fitted.getWith_reads (i := 0) rfl rfl _
      obtain ⟨mid, got, same⟩ := asked.lift.run
      have shown : r.displayName? (r.nodeOf s) ≠ none :=
        Option.isSome_iff_ne_none.mp (displayName?_of_top (h.top s hs))
      rw [if_neg Bool.false_ne_true, if_neg Bool.false_ne_true, if_neg shown, Act.bind_run, got]
      dsimp only
      cases r.cached (r.nodeOf s) "allow_pulse_overlap" == .bool false with
      | false => exact ⟨mid, same, name, rfl, fresh, rfl⟩
      | true =>
        have working := h.working
        have members : (s.pulses : Act DomainError (List NodeId)) mid =
            (.ok (r.pulses (r.nodeOf s)), mid) := by
          have here := working.pulses_eq hs
          have there := (same.wiring.working working).pulses_eq (s := s) (same.wiring.sequences ▸ hs)
          rw [here, ← same.wiring.membersOf, ← there]
          rfl
        have all : ∀ m ∈ r.pulses (r.nodeOf s), mid.PulseReady m ∧ mid.StopCurrent m := by
          intro m mem
          rw [working.pulses_eq hs] at mem
          have hm := h.mem_of_member hs mem
          exact ⟨same.wiring.pulseReady (h.pulse m hm), same.stopCurrent (settled.stop m hm)⟩
        obtain ⟨after, same', run⟩ := SequenceId.refuseOverlap_run
          (same.wiring.pulseReady (h.pulse pulse hn)) (same.stopCurrent (settled.stop pulse hn)) name all
        refine ⟨after, IsTrans.trans _ _ _ same same', ?_⟩
        simp only [funext (same.obstructs pulse), same.wiring.nodes.node] at run
        rw [if_pos rfl, if_pos rfl, Act.bind_run, members]
        dsimp only
        rw [Act.bind_run, run]
        cases (r.pulses (r.nodeOf s)).find? (r.obstructs pulse) with
        | none => exact ⟨name, rfl, fresh, rfl⟩
        | some m => rfl

theorem addPulse_run (hn : pulse ∈ pulses) :
    match s.addPulse pulse r with
    | (.ok _, after) => r.Enters guests pulses s pulse after
    | (.error _, after) => r.Spares guests pulses ∅ ∅ after := by
  obtain ⟨mid, same, start⟩ := h.addPulse_start settled hs hn
  have maintained : r.Maintained pulses ∅ mid := h.working.maintained_of_sameState settled same
  split at start
  case h_1 =>
    rw [start]
    exact maintained.spares h ∅
  case h_2 =>
    obtain ⟨name, named, fresh, start⟩ := start
    have wiring := same.wiring
    have node (n : NodeId) : mid.node n = r.node n := wiring.nodes.node n
    have entering := (h.of_wiring wiring).enter_run maintained.settled (wiring.sequences ▸ hs) hn
      (by rw [node, named]) (by rw [wiring.nodeOf, node, fresh])
    rw [start]
    rw [wiring.nodeOf] at entering
    rcases entering with ⟨after, run, enters⟩ | ⟨halt, after, run, spares⟩
    all_goals rw [run]
    · refine ⟨((maintained.spares h {s}).mono le_rfl (Set.empty_subset _)).retimed enters.toRetimed, ?_⟩
      have entered := enters.entered
      rwa [wiring.nodeOf, node, node] at entered
    · exact (maintained.spares h ∅).trans spares

end Registry.Arranged

/-! ## Removing -/

theorem SequenceId.pulse_run (found : (r.node (r.nodeOf s)).children.get? name = some pulse)
    (isPulse : r.isPulse pulse = true) : s.pulse name r = (.ok pulse, r) := by
  have node : (s.node : Act DomainError NodeId) r = (.ok (r.nodeOf s), r) := rfl
  have child : (r.nodeOf s).child name r = (.ok pulse, r) := NodeId.find_run found
  rw [SequenceId.pulse, Act.bind_run, node]
  dsimp only
  rw [Act.bind_run, Act.lift_ok child]
  dsimp only
  rw [Act.bind_run, Act.registry_run]
  dsimp only
  rw [if_pos isPulse]
  rfl

namespace Registry.Arranged

variable (h : r.Arranged guests pulses) (settled : r.Settled pulses) (hs : s.index < r.sequences.size)

include h settled hs

private theorem leave_run (found : (r.node (r.nodeOf s)).children.get? name = some pulse)
    (held : pulse ∈ r.roots) :
    ∃ after, s.leave (r.nodeOf s) pulse name r = (.ok (), after) ∧
      r.Retimed guests pulses s none after ∧
      (after.node (r.nodeOf s)).children = (r.node (r.nodeOf s)).children.erase name := by
  obtain ⟨hn, named, link, linked, told⟩ := h.member s hs name pulse (Entries.mem_of_get? found)
  have ready := h.pulse pulse hn
  have other := (h.ne_nodeOf hn hs).symm
  let unlinked : Registry := { r with
    params := r.params.change (r.stopOf pulse).index (·.removeListener link)
    sequences := r.sequences.change s.index fun seq =>
      { seq with stopLinks := seq.stopLinks.erase name } }
  have unlink : s.unlink pulse name r = (.ok (), unlinked) := by
    have state : (s.state : Act RegistryError Sequence) r = (.ok (r.sequence s), r) := rfl
    have stop : pulse.parameter "t_stop" { r with sequences := r.sequences.change s.index fun seq =>
        { seq with stopLinks := seq.stopLinks.erase name } } = (.ok (r.stopOf pulse), _) :=
      NodeId.parameter_run (ready.fitted.get? (i := 3) rfl)
    rw [SequenceId.unlink, Act.bind_run, state]
    dsimp only
    rw [linked]
    change (do
      let _ ← (← pulse.parameter "t_stop").disconnect link : Act RegistryError Unit) { r with
        sequences := r.sequences.change s.index fun seq =>
          { seq with stopLinks := seq.stopLinks.erase name } } = _
    rw [Act.bind_run, stop]
    rfl
  obtain ⟨removed, remove, rehung⟩ :=
    NodeId.removeChild_run (r := unlinked) found other (h.top s hs)
  have edited : r.Edited s pulse ((r.node (r.nodeOf s)).children.erase name)
      ((r.sequence s).stopLinks.erase name) (·.removeListener link) removed :=
    (edited_rewire hs (h.owner s hs).inside ready.stop_inside (·.erase name) (·.erase name)
      (·.removeListener link)).rehang named other rehung
  have spares : r.Spares guests pulses {s} (r.durationsOf {s}) removed :=
    edited.spares_leave h settled hs found linked held
  obtain ⟨after, freed, retimed, nodes⟩ := spares.arranged.freed_run spares.settled
    (spares.size ▸ hs) ("removed pulse '" ++ name) "' from sequence '"
  rw [edited.nodeOf] at freed
  refine ⟨after, ?_, spares.retimed retimed, ?_⟩
  · rw [SequenceId.leave, Act.bind_run, Act.lift_ok unlink]
    dsimp only
    rw [Act.bind_run, Act.lift_ok remove]
    exact freed
  · rw [node, nodes, ← node, edited.owner]

omit hs in
theorem spares_held {inUse : List NodeId} {bench : Workbench} {touched : Set SequenceId}
    {written : Set ParamId} (kept : r.Retains pulses { r with inUse, bench }) :
    r.Spares guests pulses touched written { r with inUse, bench } where
  arranged := h.preserved ⟨le_rfl, fun _ _ _ => rfl, le_rfl, fun _ _ => rfl, fun _ _ _ => rfl, le_rfl,
    fun _ _ => rfl, fun _ _ => rfl, fun _ _ _ => rfl⟩ kept
    fun _ outside inside => absurd inside (not_lt.mpr outside)
  settled := ⟨settled.stop, settled.fixed⟩
  nodes := rfl
  parameters _ := rfl
  size := rfl
  owner _ := rfl
  children _ _ _ := rfl
  fixed _ _ _ := rfl
  params := rfl
  others _ _ := rfl
  listeners _ := .of_uncached rfl
  timed _ _ _ := id

end Registry.Arranged

namespace Registry

/-- The duration of a sequence was freed, no pulse entered it, and pulses may be gone that nothing holds
any more. -/
def Frees (r : Registry) (guests : Set Listener) (pulses : Set NodeId) (s : SequenceId)
    (after : Registry) : Prop :=
  ∃ fewer ⊆ pulses, (∀ n ∈ pulses, n ∈ r.roots → n ∈ fewer) ∧ r.Retimed guests fewer s none after ∧
    after.roots = r.roots ∧ after.membersOf s ⊆ r.membersOf s

private theorem Frees.trans {fewer : Set NodeId} (le : fewer ⊆ pulses)
    (kept : ∀ n ∈ pulses, n ∈ r.roots → n ∈ fewer) (h : r.Retimed guests fewer s none mid)
    (roots : mid.roots = r.roots) (members : mid.membersOf s ⊆ r.membersOf s)
    (h' : mid.Frees guests fewer s after) : r.Frees guests pulses s after := by
  obtain ⟨least, le', kept', retimed, roots', members'⟩ := h'
  exact ⟨least, le'.trans le, fun n hn held => kept' n (kept n hn held) (roots ▸ held),
    h.toSpares.retimed retimed, roots'.trans roots, fun _ mem => members (members' mem)⟩

namespace Arranged

variable (h : r.Arranged guests pulses) (settled : r.Settled pulses) (hs : s.index < r.sequences.size)

include h settled hs

theorem removePulse_run (found : (r.node (r.nodeOf s)).children.get? name = some pulse) :
    ∃ after, s.removePulse name r = (.ok pulse, after) ∧ r.Frees guests pulses s after ∧
      (after.node (after.nodeOf s)).children = (r.node (r.nodeOf s)).children.erase name := by
  let held : Registry := { r with inUse := pulse :: r.inUse }
  have more (n : NodeId) (kept : n ∈ r.roots) : n ∈ held.roots := by
    rcases List.mem_append.mp kept with inUse | handles
    · exact List.mem_append_left _ (List.mem_cons_of_mem _ inUse)
    · exact List.mem_append_right _ handles
  have begun : r.Spares guests pulses {s} (r.durationsOf {s}) held :=
    h.spares_held settled (h.retains more le_rfl fun _ _ _ mem => .inr mem)
  obtain ⟨left, run, retimed, children⟩ := begun.arranged.leave_run begun.settled (s := s) hs
    found (List.mem_append_left _ List.mem_cons_self)
  have leave : s.leave (r.nodeOf s) pulse name held = (.ok (), left) := run
  have done := begun.retimed retimed
  -- Nothing but the handles is needed to keep the sequences and what else was held.
  have handles : left.bench.handles = r.bench.handles := by
    have same := s.leave_sameHandles (r.nodeOf s) pulse name held
    rw [leave] at same
    exact same
  let ended : Registry := { left with inUse := r.inUse }
  have roots : ended.roots = r.roots := roots_of_eq rfl handles done.owner
  have fewer : left.Arranged guests {n ∈ pulses | ended.Rooted n} :=
    done.arranged.mono (fun _ both => both.1) fun t ht n mem =>
      ⟨done.arranged.mem_of_member ht mem, .inr ⟨t, ht, mem⟩⟩
  have settled' : left.Settled {n ∈ pulses | ended.Rooted n} :=
    ⟨fun n both => done.settled.stop n both.1, done.settled.fixed⟩
  have kept : left.Retains {n ∈ pulses | ended.Rooted n} ended :=
    ⟨fun n both => both.2, fun t ht => by
      rw [roots, done.owner]
      exact h.root t (done.size ▸ ht)⟩
  have last : left.Spares guests {n ∈ pulses | ended.Rooted n} {s} (r.durationsOf {s}) ended :=
    fewer.spares_held settled' kept
  have erased : (ended.node (ended.nodeOf s)).children = (r.node (r.nodeOf s)).children.erase name := by
    rw [last.owner, done.owner]
    exact children
  refine ⟨ended, ?_, ⟨{n ∈ pulses | ended.Rooted n}, fun _ both => both.1,
    fun n hn held => ⟨hn, .inl (roots ▸ held)⟩, ?_, roots, ?_⟩, erased⟩
  · have ready : r.PulseReady pulse := h.pulse _ (h.member s hs name pulse (Entries.mem_of_get? found)).1
    have node : (s.node : Act DomainError NodeId) r = (.ok (r.nodeOf s), r) := rfl
    have holding : Act.holding pulse (s.leave (r.nodeOf s) pulse name) r = (.ok (), ended) := by
      have leave' : s.leave (r.nodeOf s) pulse name { r with inUse := pulse :: r.inUse } =
          (.ok (), left) := run
      rw [Act.holding_run, leave']
    rw [SequenceId.removePulse, Act.bind_run, node]
    dsimp only
    rw [Act.bind_run, s.pulse_run found ready.isPulse]
    dsimp only
    rw [Act.bind_run, ← SequenceId.leave, holding]
    rfl
  · exact { done.toSpares.trans last with fixedSelf := done.fixedSelf, timedSelf := done.timedSelf }
  · rw [membersOf, erased]
    exact List.map_subset _ List.filter_sublist.subset

/-- Removing a pulse frees the duration of the sequence, or it changes nothing. -/
theorem removePulse_outcome (name : String) :
    (∃ halt, s.removePulse name r = (.error halt, r)) ∨
      ∃ n after, s.removePulse name r = (.ok n, after) ∧ r.Frees guests pulses s after := by
  cases found : (r.node (r.nodeOf s)).children.get? name with
  | some pulse =>
    obtain ⟨after, run, frees, -⟩ := h.removePulse_run settled hs found
    exact .inr ⟨pulse, after, run, frees⟩
  | none => exact .inl ⟨_, SequenceId.removePulse_missing found⟩

private theorem removeAll_run {entries : List (String × NodeId)}
    (nodup : (Entries.keys entries).Nodup)
    (all : ∀ entry ∈ entries, entry ∈ (r.node (r.nodeOf s)).children.entries) :
    ∃ after, (entries.forM fun entry => do
        let _ ← s.removePulse entry.1 : Act DomainError Unit) r = (.ok (), after) ∧
      (entries = [] ∧ after = r ∨ entries ≠ [] ∧ r.Frees guests pulses s after) := by
  induction entries generalizing r pulses with
  | nil => exact ⟨r, rfl, .inl ⟨rfl, rfl⟩⟩
  | cons entry rest ih =>
    obtain ⟨fresh, nodup⟩ := List.nodup_cons.mp nodup
    have found := Entries.get?_of_mem (r.node (r.nodeOf s)).children.nodup_keys
      (all entry List.mem_cons_self)
    obtain ⟨mid, run, ⟨fewer, le, kept, retimed, roots, members⟩, children⟩ :=
      h.removePulse_run settled hs found
    obtain ⟨after, rest_run, outcome⟩ := ih retimed.arranged retimed.settled
      (retimed.size ▸ hs) nodup fun other mem => by
        rw [children]
        refine List.mem_filter.mpr ⟨all other (List.mem_cons_of_mem _ mem), ?_⟩
        have ne : other.1 ≠ entry.1 := fun same => fresh (same ▸ List.mem_map_of_mem mem)
        simpa using ne
    refine ⟨after, ?_, .inr ⟨List.cons_ne_nil _ _, ?_⟩⟩
    · change ((do let _ ← s.removePulse entry.1) >>= fun _ => rest.forM _) r = _
      rw [Act.bind_run, Act.bind_run, run]
      exact rest_run
    · rcases outcome with ⟨-, rfl⟩ | ⟨-, later⟩
      · exact ⟨fewer, le, kept, retimed, roots, members⟩
      · exact .trans le kept retimed roots members later

/-- Clearing a sequence always succeeds. It frees the duration unless there were no pulses. -/
theorem clear_run : ∃ after, s.clear r = (.ok (), after) ∧
    ((r.node (r.nodeOf s)).children.entries = [] ∧ after = r ∨
      (r.node (r.nodeOf s)).children.entries ≠ [] ∧ r.Frees guests pulses s after) := by
  have areAll : (r.node (r.nodeOf s)).children.entries.filter (fun entry => r.isPulse entry.2) =
      (r.node (r.nodeOf s)).children.entries :=
    List.filter_eq_self.mpr fun entry mem => (h.pulse _ (h.member s hs entry.1 entry.2 mem).1).isPulse
  obtain ⟨after, run, outcome⟩ := h.removeAll_run settled hs
    (r.node (r.nodeOf s)).children.nodup_keys fun _ mem => mem
  refine ⟨after, ?_, outcome⟩
  have cleared : s.clear r = (((r.node (r.nodeOf s)).children.entries.filter
      fun entry => r.isPulse entry.2).forM fun entry => do
        let _ ← s.removePulse entry.1 : Act DomainError Unit) r := rfl
  rw [cleared, areAll, run]

end Arranged
end Registry
end LabRegistry

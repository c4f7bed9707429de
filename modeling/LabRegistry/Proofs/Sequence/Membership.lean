import LabRegistry.Proofs.Naming.Joining
import LabRegistry.Proofs.Sequence.Duration

/-!
# Entering and leaving a sequence

A pulse that enters a sequence becomes a child under its name, and its stop gets one more listener,
whose number the sequence keeps under the same name. Leaving takes both away again. Either way the
other sequences stay as they are: numbers of listeners are never given out twice, so only the
listener of this sequence is taken away.
-/
namespace LabRegistry

open Registry

/-! ## Parents -/

namespace Registry

/-- At most the parent of a node has changed, provided that it had the name that it was given. -/
structure Rehung (child : NodeId) (name : String) (r after : Registry) : Prop where
  size : after.nodes.size = r.nodes.size
  others : ∀ m, m ≠ child → after.node m = r.node m
  self : (r.node child).name = some name → (after.node child).orphan = (r.node child).orphan
  params : after.params = r.params
  sequences : after.sequences = r.sequences
  bench : after.bench = r.bench
  inUse : after.inUse = r.inUse

instance (child : NodeId) (name : String) : IsPreorder Registry (Rehung child name) where
  refl _ := ⟨rfl, fun _ _ => rfl, fun _ => rfl, rfl, rfl, rfl, rfl⟩
  trans r mid _ h h' := by
    refine ⟨h'.size.trans h.size, fun m ne => (h'.others m ne).trans (h.others m ne), ?_,
      h'.params.trans h.params, h'.sequences.trans h.sequences, h'.bench.trans h.bench,
      h'.inUse.trans h.inUse⟩
    intro named
    have first := h.self named
    have kept : (mid.node child).name = (r.node child).name := congrArg (·.name) first
    exact (h'.self (kept.trans named)).trans first

variable {r after : Registry} {child n : NodeId} {name : String}

private theorem rehung_change {f : Node → Node}
    (h : ∀ node : Node, node.name = some name → (f node).orphan = node.orphan) :
    Rehung child name r { r with nodes := r.nodes.change child.index f } where
  size := Arena.size_change _ _ _
  others m ne := by
    rw [node_change, if_neg fun both => ne both.1]
  self named := by
    rw [node_change]
    split
    · exact h _ named
    · rfl
  params := rfl
  sequences := rfl
  bench := rfl
  inUse := rfl

private theorem rehung_log (log : Log) : Rehung child name r { r with log } :=
  ⟨rfl, fun _ _ => rfl, fun _ => rfl, rfl, rfl, rfl, rfl⟩

end Registry

namespace NodeId

variable {r : Registry} {child n : NodeId} {name : String}

private theorem joinParent_rehung (child n : NodeId) (name : String) :
    (child.joinParent n name : Act RegistryError Unit).Keeps (Rehung child name) := by
  have noted {level : LogLevel} {text : Act RegistryError String} (h : text.Keeps (Rehung child name)) :
      (Act.writeLog level text).Keeps (Rehung child name) :=
    .writeLog h fun _ _ => rehung_log _
  have named (first : Bool) :
      (child.takeName n name first : Act RegistryError Unit).Keeps (Rehung child name) := by
    refine .bind (.read fun _ => rfl) fun node => ?_
    split
    · exact noted (.bind (.orEndless _) fun _ => .pure _)
    · refine .bind (.change fun r => rehung_change fun node named => ?_) fun _ => ?_
      · rw [Node.orphan, Node.orphan, named]
      · split
        · exact noted (.bind (.bind (.orEndless _) fun _ => .pure _) fun _ => .pure _)
        · exact .pure _
  refine .bind (.read fun _ => rfl) fun parent => ?_
  dsimp only
  split
  · exact .bind (.change fun r => rehung_change fun _ _ => rfl) fun _ => named _
  · exact named _

theorem leaveParent_rehung (child n : NodeId) (name : String) :
    (child.leaveParent n : Act RegistryError Unit).Keeps (Rehung child name) := by
  refine .bind (.read fun _ => rfl) fun node => ?_
  split
  · exact .change fun r => rehung_change fun _ _ => rfl
  · exact .pure _

theorem addChild_run (n child : NodeId) (name : String) (r : Registry) :
    ∃ mid, Rehung child name r mid ∧ ((∃ halt, n.addChild name child r = (.error halt, mid)) ∨
      (r.node n).Admits .parameterNode name ∧ n.addChild name child r = (.ok (), { mid with
        nodes := mid.nodes.change n.index fun node =>
          { node with children := node.children.insert name child } })) := by
  by_cases admits : (r.node n).Admits .parameterNode name
  · by_cases enclosed : r.Encloses child n
    · exact ⟨r, refl r, .inl ⟨_, attach_cyclic admits enclosed⟩⟩
    · have joined := joinParent_rehung child n name r
      rw [addChild, attach, Act.bind_run, requireFree_of_admits admits]
      dsimp only
      rw [Act.bind_run, requireNoCycle_of_not_encloses enclosed]
      dsimp only
      rw [Act.bind_run]
      rcases run : (child.joinParent n name : Act RegistryError Unit) r with ⟨halt | done, mid⟩
      all_goals rw [run] at joined
      · exact ⟨mid, joined, .inl ⟨halt, rfl⟩⟩
      · exact ⟨mid, joined, .inr ⟨admits, rfl⟩⟩
  · obtain ⟨existing, -, taken⟩ := attach_taken child (fun node =>
      { node with children := node.children.insert name child }) admits
    exact ⟨r, refl r, .inl ⟨_, taken⟩⟩

theorem addChild_free_run (admits : (r.node n).Admits .parameterNode name) (leaf : r.held child = [])
    (inside : child.index < r.nodes.size) (other : child ≠ n) (free : (r.node child).parent = none)
    (top : (r.node n).parent = none) :
    ∃ mid, Rehung child name r mid ∧
      (∀ p, (mid.node child).parent = some p → p = n) ∧
      n.addChild name child r = (.ok (), { mid with
        nodes := mid.nodes.change n.index fun node =>
          { node with children := node.children.insert name child } }) := by
  obtain ⟨lines, run⟩ := n.attach_free_run .parameterNode name child
    (fun node => { node with children := node.children.insert name child }) admits
    (not_encloses_of_leaf leaf other) inside free top
  let adopted : Registry := { r with nodes := r.nodes.change child.index ({ · with parent := some n }) }
  let named : Registry := { adopted with
    nodes := adopted.nodes.change child.index ({ · with name := some name }) }
  have hung : Rehung child name r adopted := rehung_change fun _ _ => rfl
  have called : Rehung child name adopted named :=
    rehung_change fun node same => by rw [Node.orphan, Node.orphan, same]
  have moved : Rehung child name r { named with log := { r.log with lines } } :=
    IsTrans.trans _ _ _ (IsTrans.trans _ _ _ hung called) (rehung_log _)
  refine ⟨_, moved, fun p above => ?_, run⟩
  have joined : (adopted.node child).parent = some n := by rw [node_change, if_pos ⟨rfl, inside⟩]
  have inside' : child.index < adopted.nodes.size := inside.trans_eq (Arena.size_change _ _ _).symm
  have above : (named.node child).parent = some p := above
  rw [node_change, if_pos ⟨rfl, inside'⟩] at above
  exact (Option.some.inj (joined.symm.trans above)).symm

theorem removeChild_run (found : (r.node n).children.get? name = some child) (other : n ≠ child)
    (top : (r.node n).parent = none) :
    ∃ after, n.removeChild name r = (.ok child, after) ∧ Rehung child name { r with
      nodes := r.nodes.change n.index fun node =>
        { node with children := node.children.erase name } } after := by
  let erased : Registry := { r with nodes := r.nodes.change n.index fun node =>
    { node with children := node.children.erase name } }
  have left := leaveParent_rehung child n name erased
  have leaves : ∃ mid, (child.leaveParent n : Act RegistryError Unit) erased = (.ok (), mid) := by
    rw [leaveParent, Act.bind_run, state_run]
    dsimp only
    split <;> exact ⟨_, rfl⟩
  obtain ⟨mid, run⟩ := leaves
  rw [run] at left
  have parent : (mid.node n).parent = none := by
    rw [left.others n other, node_change]
    split <;> exact top
  obtain ⟨shown, named⟩ := Option.isSome_iff_exists.mp (displayName?_of_top parent)
  have composed : (do return "removed node '" ++ name ++ "' from '" ++ (← n.displayName) ++ "'" :
      Act RegistryError String) mid =
        (.ok ("removed node '" ++ name ++ "' from '" ++ shown ++ "'"), mid) := by
    rw [Act.bind_run, displayName, Act.orEndless_run, named]
    rfl
  obtain ⟨lines, logged⟩ := Act.debug_ok composed
  refine ⟨_, ?_, IsTrans.trans _ _ _ left (rehung_log { mid.log with lines })⟩
  rw [removeChild, Act.bind_run, state_run]
  dsimp only
  rw [found]
  dsimp only
  rw [Act.bind_run, change_run]
  dsimp only
  rw [Act.bind_run, run]
  dsimp only
  rw [Act.bind_run, logged]
  rfl

end NodeId

namespace Parameter.Numbered

variable {param : Parameter} (h : param.Numbered)

include h

private theorem listener_eq {id : ListenerId} {first second : Listener}
    (mem : (id, first) ∈ param.listeners)
    (mem' : (id, second) ∈ param.listeners) : first = second := by
  have same := List.inj_on_of_nodup_map h.once mem mem' rfl
  exact (Prod.mk.inj same).2

end Parameter.Numbered

namespace Registry

variable {r after : Registry} {s t : SequenceId} {n pulse : NodeId} {name : String}
  {pulses : Set NodeId} {children : OrderedMap NodeId} {links : OrderedMap ListenerId}
  {edit : Parameter → Parameter}

/-! ## Editing a sequence -/

/-- A sequence got other children and links, and the stop of a pulse other listeners. -/
structure Edited (r : Registry) (s : SequenceId) (pulse : NodeId) (children : OrderedMap NodeId)
    (links : OrderedMap ListenerId) (edit : Parameter → Parameter) (after : Registry) : Prop where
  nodes : after.nodes.size = r.nodes.size
  node : ∀ n, n ≠ r.nodeOf s → (after.node n).orphan = (r.node n).orphan
  others : ∀ n, n ≠ r.nodeOf s → n ≠ pulse → after.node n = r.node n
  owner : after.node (r.nodeOf s) = { r.node (r.nodeOf s) with children }
  params : after.params.size = r.params.size
  param : ∀ p, p ≠ r.stopOf pulse → after.param p = r.param p
  stop : after.param (r.stopOf pulse) = edit (r.param (r.stopOf pulse))
  sequences : after.sequences.size = r.sequences.size
  sequence : ∀ t, t ≠ s → after.sequence t = r.sequence t
  self : after.sequence s = { r.sequence s with stopLinks := links }
  roots : after.roots = r.roots

def rewire (r : Registry) (s : SequenceId) (pulse : NodeId)
    (children : OrderedMap NodeId → OrderedMap NodeId)
    (links : OrderedMap ListenerId → OrderedMap ListenerId) (edit : Parameter → Parameter) :
    Registry :=
  { r with
    nodes := r.nodes.change (r.nodeOf s).index fun node =>
      { node with children := children node.children }
    params := r.params.change (r.stopOf pulse).index edit
    sequences := r.sequences.change s.index fun seq =>
      { seq with stopLinks := links seq.stopLinks } }

theorem edited_rewire (hs : s.index < r.sequences.size)
    (owner : (r.nodeOf s).index < r.nodes.size) (stop : (r.stopOf pulse).index < r.params.size)
    (f : OrderedMap NodeId → OrderedMap NodeId) (g : OrderedMap ListenerId → OrderedMap ListenerId)
    (edit : Parameter → Parameter) :
    r.Edited s pulse (f (r.node (r.nodeOf s)).children) (g (r.sequence s).stopLinks) edit
      (r.rewire s pulse f g edit) := by
  have node (n : NodeId) : (r.rewire s pulse f g edit).node n =
      if n = r.nodeOf s ∧ (r.nodeOf s).index < r.nodes.size
        then { r.node n with children := f (r.node n).children } else r.node n :=
    node_change r (r.nodeOf s) n fun node => { node with children := f node.children }
  have param (p : ParamId) : (r.rewire s pulse f g edit).param p =
      if p = r.stopOf pulse ∧ (r.stopOf pulse).index < r.params.size
        then edit (r.param p) else r.param p :=
    param_change r (r.stopOf pulse) p edit
  have sequence (t : SequenceId) : (r.rewire s pulse f g edit).sequence t =
      if t = s ∧ s.index < r.sequences.size
        then { r.sequence t with stopLinks := g (r.sequence t).stopLinks } else r.sequence t :=
    sequence_change r s t fun seq => { seq with stopLinks := g seq.stopLinks }
  exact {
    nodes := Arena.size_change _ _ _
    node := fun n ne => by rw [node, if_neg fun both => ne both.1]
    others := fun n ne _ => by rw [node, if_neg fun both => ne both.1]
    owner := by rw [node, if_pos ⟨rfl, owner⟩]
    params := Arena.size_change _ _ _
    param := fun p ne => by rw [param, if_neg fun both => ne both.1]
    stop := by rw [param, if_pos ⟨rfl, stop⟩]
    sequences := Arena.size_change _ _ _
    sequence := fun t ne => by rw [sequence, if_neg fun both => ne both.1]
    self := by rw [sequence, if_pos ⟨rfl, hs⟩]
    roots := roots_of_eq rfl rfl fun t => by
      rw [sequence]
      split <;> rfl }

namespace Rehung

variable {mid : Registry} (rehung : Rehung pulse name r after)

include rehung

theorem param (p : ParamId) : after.param p = r.param p := by
  rw [Registry.param, rehung.params, Registry.param]

theorem sequence (t : SequenceId) : after.sequence t = r.sequence t := by
  rw [Registry.sequence, rehung.sequences, Registry.sequence]

theorem nodeOf (t : SequenceId) : after.nodeOf t = r.nodeOf t := by
  rw [Registry.nodeOf, rehung.sequence, Registry.nodeOf]

theorem roots : after.roots = r.roots :=
  roots_of_eq rehung.inUse (by rw [rehung.bench]) fun t => by rw [rehung.sequence]

variable (named : (r.node pulse).name = some name)

include named

theorem orphan (n : NodeId) : (after.node n).orphan = (r.node n).orphan := by
  by_cases same : n = pulse
  · rw [same, rehung.self named]
  · rw [rehung.others n same]

theorem stopOf : after.stopOf pulse = r.stopOf pulse :=
  stopOf_of_node (congrArg (·.parameters) (rehung.self named))

theorem preserves (other : ∀ t : SequenceId, t.index < r.sequences.size → r.nodeOf t ≠ pulse) :
    r.Preserves ∅ ∅ after where
  nodes := rehung.size.ge
  node n _ _ := rehung.orphan named n
  params := by rw [rehung.params]
  setup p _ := by rw [rehung.param]
  param p _ _ := by rw [rehung.param]
  sequences := by rw [rehung.sequences]
  owner t _ := rehung.nodeOf t
  owned t ht := by rw [rehung.others _ (other t ht)]
  links t _ _ := by rw [rehung.sequence]

end Rehung

namespace Edited

theorem of_rehung {mid : Registry} (rehung : Rehung pulse name r mid)
    (named : (r.node pulse).name = some name) (other : r.nodeOf s ≠ pulse)
    (h : mid.Edited s pulse children links edit after) :
    r.Edited s pulse children links edit after where
  nodes := h.nodes.trans rehung.size
  node n ne := (h.node n (rehung.nodeOf s ▸ ne)).trans (rehung.orphan named n)
  others n ne away := (h.others n (rehung.nodeOf s ▸ ne) away).trans (rehung.others n away)
  owner := by rw [← rehung.nodeOf, h.owner, rehung.nodeOf, rehung.others _ other]
  params := h.params.trans (by rw [rehung.params])
  param p ne := (h.param p (rehung.stopOf named ▸ ne)).trans (rehung.param p)
  stop := by rw [← rehung.stopOf named, h.stop, rehung.param]
  sequences := h.sequences.trans (by rw [rehung.sequences])
  sequence t ne := (h.sequence t ne).trans (rehung.sequence t)
  self := by rw [h.self, rehung.sequence]
  roots := h.roots.trans rehung.roots

theorem rehang {mid : Registry} (h : r.Edited s pulse children links edit mid)
    (named : (r.node pulse).name = some name) (other : r.nodeOf s ≠ pulse)
    (rehung : Rehung pulse name mid after) : r.Edited s pulse children links edit after := by
  have named' : (mid.node pulse).name = some name :=
    (congrArg (·.name) (h.node pulse other.symm)).trans named
  exact {
    nodes := rehung.size.trans h.nodes
    node := fun n ne => (rehung.orphan named' n).trans (h.node n ne)
    others := fun n ne away => (rehung.others n away).trans (h.others n ne away)
    owner := by rw [rehung.others _ other, h.owner]
    params := by rw [rehung.params, h.params]
    param := fun p ne => (rehung.param p).trans (h.param p ne)
    stop := (rehung.param _).trans h.stop
    sequences := by rw [rehung.sequences, h.sequences]
    sequence := fun t ne => (rehung.sequence t).trans (h.sequence t ne)
    self := (rehung.sequence s).trans h.self
    roots := rehung.roots.trans h.roots }

variable (h : r.Edited s pulse children links edit after)

include h

theorem nodeOf (t : SequenceId) : after.nodeOf t = r.nodeOf t := by
  by_cases same : t = s
  · rw [same, Registry.nodeOf, h.self, Registry.nodeOf]
  · rw [Registry.nodeOf, h.sequence t same, Registry.nodeOf]

private theorem fixedDuration (t : SequenceId) :
    (after.sequence t).fixedDuration = (r.sequence t).fixedDuration := by
  by_cases same : t = s
  · rw [same, h.self]
  · rw [h.sequence t same]

private theorem listeners (p : ParamId) : (after.param p).listeners = (r.param p).listeners ∨
    p = r.stopOf pulse ∧ (after.param p).listeners = (edit (r.param p)).listeners := by
  by_cases same : p = r.stopOf pulse
  · rw [same, h.stop]
    exact .inr ⟨rfl, rfl⟩
  · rw [h.param p same]
    exact .inl rfl

theorem parameters (n : NodeId) : (after.node n).parameters = (r.node n).parameters := by
  by_cases self : n = r.nodeOf s
  · rw [self, h.owner]
  · exact congrArg (·.parameters) (h.node n self)

variable (arranged : r.Arranged guests pulses) (hs : s.index < r.sequences.size) (hn : pulse ∈ pulses)
  (setup : ∀ param : Parameter, (edit param).setup = param.setup)

include arranged hs hn setup

private theorem preserves : r.Preserves {s} {r.stopOf pulse} after where
  nodes := h.nodes.ge
  node n _ free := h.node n (free s rfl)
  params := h.params.ge
  setup p _ := by
    by_cases same : p = r.stopOf pulse
    · rw [same, h.stop, setup]
    · rw [h.param p same]
  param p _ free := by rw [h.param p free]
  sequences := h.sequences.ge
  owner t _ := h.nodeOf t
  owned t ht := by
    by_cases same : t = s
    · subst same
      rw [h.owner]
    · have ne : r.nodeOf t ≠ r.nodeOf s := fun equal => same (arranged.nodeOf_inj ht hs equal)
      rw [h.others _ ne (arranged.ne_nodeOf hn ht).symm]
  links t _ free := by rw [h.sequence t free]

private theorem spares {written : Set ParamId} (settled : r.Settled pulses)
    (value : ∀ param : Parameter, (edit param).value = param.value)
    (numbered : ∀ param : Parameter, param.Numbered → (edit param).Numbered)
    (relistened : (r.param (r.stopOf pulse)).Relistened {r.refresher s}
      (edit (r.param (r.stopOf pulse))))
    (kept : ∀ n ∈ r.membersOf s, n ∈ r.roots ∨ n ∈ children.values)
    (member : ∀ name n, (name, n) ∈ children.entries →
      n ∈ pulses ∧ (r.node n).name = some name ∧
        ∃ link, links.get? name = some link ∧
          (link, r.refresher s) ∈ (after.param (r.stopOf n)).listeners)
    (linked : ∀ name link, links.get? name = some link → name ∈ children.keys)
    (apart : ∀ name ∈ children.keys, name ∉ SequenceId.plans.map (·.name))
    (heard : ∀ n ∈ pulses, ∀ entry ∈ (after.param (r.stopOf n)).listeners,
      entry.2 = r.refresher s →
        ∃ name, (name, n) ∈ children.entries ∧ links.get? name = some entry.1) :
    r.Spares guests pulses {s} written after := by
  have same := h.preserves arranged hs hn setup
  have nodes {t : SequenceId} (ht : t.index < r.sequences.size) (self : t ≠ s) :
      after.node (r.nodeOf t) = r.node (r.nodeOf t) :=
    h.others _ (fun equal => self (arranged.nodeOf_inj ht hs equal)) (arranged.ne_nodeOf hn ht).symm
  have retains : r.Retains pulses after := by
    refine arranged.retains (fun n kept => h.roots ▸ kept) h.sequences.ge fun t ht n mem => ?_
    rw [membersOf, h.nodeOf, h.roots]
    by_cases self : t = s
    · subst self
      rw [h.owner]
      exact kept n mem
    · rw [nodes ht self]
      exact .inr mem
  have arranged' : after.Arranged guests pulses := by
    refine arranged.of_preserves same retains ?_ ?_ ?_ ?_ ?_ ?_ ?_ ?_
    · rintro _ rfl
      rw [h.stop]
      exact numbered _ (arranged.numbered _ hn)
    · rintro _ rfl
      exact ⟨pulse, hn, rfl⟩
    · rintro _ rfl
      exact hs
    · intro t outside inside
      rw [h.sequences] at inside
      omega
    · intro t ht name n mem
      by_cases self : t = s
      · subst self
        rw [h.owner] at mem
        rw [h.self]
        exact member name n mem
      · rw [nodes ht self] at mem
        obtain ⟨hm, named, link, found, told⟩ := arranged.member t ht name n mem
        rw [h.sequence t self]
        refine ⟨hm, named, link, found, ?_⟩
        rcases h.listeners (r.stopOf n) with kept | ⟨at_pulse, edited⟩
        · rwa [kept]
        · rw [at_pulse] at told
          rw [edited, at_pulse]
          refine (relistened.mem_iff fun equal => self ?_).mpr told
          exact (arranged.sequence t ht).refresher_inj (arranged.sequence s hs) equal
    · intro t ht name link found
      by_cases self : t = s
      · subst self
        rw [h.self] at found
        rw [h.owner]
        exact linked name link found
      · rw [h.sequence t self] at found
        rw [nodes ht self]
        exact arranged.linked t ht name link found
    · intro t ht name mem
      by_cases self : t = s
      · subst self
        rw [h.owner] at mem
        exact apart name mem
      · rw [nodes ht self] at mem
        exact arranged.apart t ht name mem
    · intro n hm entry mem native
      by_cases own : entry.2 = r.refresher s
      · refine ⟨s, hs, own, ?_⟩
        rw [h.owner, h.self]
        exact heard n hm entry mem own
      · -- The listener was there before, and belongs to another sequence.
        have before : entry ∈ (r.param (r.stopOf n)).listeners := by
          rcases h.listeners (r.stopOf n) with kept | ⟨at_pulse, edited⟩
          · rwa [kept] at mem
          · rw [edited, at_pulse] at mem
            rw [at_pulse]
            exact (relistened.mem_iff own).mp mem
        obtain ⟨t, ht, told, name, among, link⟩ := arranged.heard n hm entry before native
        have self : t ≠ s := by
          rintro rfl
          exact own told
        exact ⟨t, ht, told, name, by rwa [nodes ht self], by rwa [h.sequence t self]⟩
  refine .of_preserves same arranged settled arranged' (fun t equal => equal ▸ hs) h.nodes
    h.parameters h.sequences h.nodeOf h.params (fun p => ?_) (fun p => ?_)
    (fun t _ => h.fixedDuration t) fun t duration fixed => ?_
  · by_cases at_pulse : p = r.stopOf pulse
    · rw [at_pulse, h.stop, value]
    · rw [h.param p at_pulse]
  · by_cases at_pulse : p = r.stopOf pulse
    · rw [at_pulse, h.stop]
      exact relistened.mono (Set.singleton_subset_iff.mpr ⟨s, rfl, rfl⟩)
    · rw [h.param p at_pulse]
      exact .of_uncached rfl
  · rw [h.fixedDuration] at fixed
    exact settled.fixed t duration fixed

end Edited

variable (arranged : r.Arranged guests pulses) (settled : r.Settled pulses)
  (hs : s.index < r.sequences.size)

include arranged settled hs

theorem Edited.spares_enter {written : Set ParamId} (hn : pulse ∈ pulses)
    (named : (r.node pulse).name = some name)
    (free : (r.node (r.nodeOf s)).kindOf name = none)
    (h : r.Edited s pulse ((r.node (r.nodeOf s)).children.insert name pulse)
      ((r.sequence s).stopLinks.insert name ⟨(r.param (r.stopOf pulse)).nextListener⟩)
      (·.addListener (r.refresher s)) after) : r.Spares guests pulses {s} written after := by
  have absent : name ∉ Entries.keys (r.node (r.nodeOf s)).children.entries := by
    intro mem
    have taken := OrderedMap.contains_iff_mem_keys.mpr mem
    rw [Node.kindOf] at free
    split_ifs at free
  have unused : name ∉ SequenceId.plans.map (·.name) := by
    intro mem
    have taken : (r.node (r.nodeOf s)).parameters.contains name = true := by
      rw [OrderedMap.contains_iff_mem_keys, OrderedMap.keys, (arranged.sequence s hs).fitted.entries,
        ParameterPlan.keys_entries]
      exact mem
    rw [Node.kindOf, if_pos taken] at free
    cases free
  have differs {other : String} {n : NodeId}
      (old : (other, n) ∈ (r.node (r.nodeOf s)).children.entries) : other ≠ name := by
    rintro rfl
    exact absent (List.mem_map_of_mem old)
  have entries : ((r.node (r.nodeOf s)).children.insert name pulse).entries =
      (r.node (r.nodeOf s)).children.entries ++ [(name, pulse)] :=
    Entries.insert_of_notMem absent
  refine h.spares arranged hs hn (fun _ => rfl) settled (fun _ => rfl)
    (fun _ numbered => numbered.addListener _) (.addListener _ rfl) (fun n mem => .inr ?_)
    (fun other n mem => ?_) (fun other link found => ?_) (fun other mem => ?_) fun n hm entry mem own => ?_
  · rw [OrderedMap.values, entries, List.map_append]
    exact List.mem_append_left _ mem
  · rw [entries] at mem
    rcases List.mem_append.mp mem with old | new
    · obtain ⟨hm, told, link, found, listens⟩ := arranged.member s hs other n old
      refine ⟨hm, told, link, by rw [OrderedMap.get?_insert, if_neg (differs old), found], ?_⟩
      rcases h.listeners (r.stopOf n) with kept | ⟨-, edited⟩
      · rwa [kept]
      · rw [edited]
        exact List.mem_append_left _ listens
    · obtain ⟨rfl, rfl⟩ := Prod.mk.inj (List.mem_singleton.mp new)
      refine ⟨hn, named, _, by rw [OrderedMap.get?_insert, if_pos rfl], ?_⟩
      rw [h.stop]
      exact List.mem_append_right _ List.mem_cons_self
  · rw [OrderedMap.keys, entries, Entries.keys, List.map_append]
    rw [OrderedMap.get?_insert] at found
    split at found
    case isTrue same =>
      rw [same]
      exact List.mem_append_right _ List.mem_cons_self
    case isFalse => exact List.mem_append_left _ (arranged.linked s hs other link found)
  · rw [OrderedMap.keys, entries, Entries.keys, List.map_append] at mem
    rcases List.mem_append.mp mem with old | new
    · exact arranged.apart s hs other old
    · exact List.mem_singleton.mp new ▸ unused
  · have known (old : entry ∈ (r.param (r.stopOf n)).listeners) : ∃ name',
        (name', n) ∈ ((r.node (r.nodeOf s)).children.insert name pulse).entries ∧
          ((r.sequence s).stopLinks.insert name
            ⟨(r.param (r.stopOf pulse)).nextListener⟩).get? name' = some entry.1 := by
      obtain ⟨t, ht, told, name', among, link⟩ :=
        arranged.heard n hm entry old (own ▸ arranged.refresher_notMem s)
      obtain rfl := (arranged.sequence t ht).refresher_inj (arranged.sequence s hs)
        (told.symm.trans own)
      refine ⟨name', ?_, by rw [OrderedMap.get?_insert, if_neg (differs among), link]⟩
      rw [entries]
      exact List.mem_append_left _ among
    rcases h.listeners (r.stopOf n) with kept | ⟨at_pulse, edited⟩
    · exact known (kept ▸ mem)
    · rw [edited] at mem
      rcases List.mem_append.mp mem with old | new
      · exact known old
      · have self : n = pulse := by
          by_contra other
          exact (arranged.pulse n hm).param_ne (i := 3) (j := 3) (arranged.pulse pulse hn) other
            (by decide) (by decide) at_pulse
        subst self
        rw [List.mem_singleton.mp new]
        refine ⟨name, ?_, by rw [OrderedMap.get?_insert, if_pos rfl]⟩
        rw [entries]
        exact List.mem_append_right _ List.mem_cons_self

theorem Edited.spares_leave {written : Set ParamId} {link : ListenerId}
    (found : (r.node (r.nodeOf s)).children.get? name = some pulse)
    (linked : (r.sequence s).stopLinks.get? name = some link) (held : pulse ∈ r.roots)
    (h : r.Edited s pulse ((r.node (r.nodeOf s)).children.erase name)
      ((r.sequence s).stopLinks.erase name) (·.removeListener link) after) :
    r.Spares guests pulses {s} written after := by
  have entry := Entries.mem_of_get? found
  obtain ⟨hn, named, link', same, told⟩ := arranged.member s hs name pulse entry
  obtain rfl : link = link' := Option.some.inj (linked.symm.trans same)
  have remains {other : String} {n : NodeId}
      (old : (other, n) ∈ (r.node (r.nodeOf s)).children.entries) (ne : other ≠ name) :
      (other, n) ∈ ((r.node (r.nodeOf s)).children.erase name).entries :=
    List.mem_filter.mpr ⟨old, by simpa using ne⟩
  -- The pulse is in the sequence under its own name only.
  have unique {other : String} (old : (other, pulse) ∈ (r.node (r.nodeOf s)).children.entries) :
      other = name :=
    Option.some.inj ((arranged.member s hs other pulse old).2.1.symm.trans named)
  have stop_ne {n : NodeId} (hm : n ∈ pulses) (away : n ≠ pulse) : r.stopOf n ≠ r.stopOf pulse :=
    (arranged.pulse n hm).param_ne (i := 3) (j := 3) (arranged.pulse pulse hn) away (by decide)
      (by decide)
  refine h.spares arranged hs hn (fun _ => rfl) settled (fun _ => rfl)
    (fun _ numbered => numbered.removeListener _) (.removeListener fun entry mem same => ?_)
    (fun n mem => ?_) (fun other n mem => ?_) (fun other link' found' => ?_)
    (fun other mem => ?_) fun n hm entry mem own => ?_
  · subst same
    exact (arranged.numbered _ hn).listener_eq mem told
  · obtain ⟨⟨other, _⟩, old, rfl⟩ := List.mem_map.mp mem
    by_cases same : other = name
    · subst same
      rw [Option.some.inj ((Entries.get?_of_mem (r.node (r.nodeOf s)).children.nodup_keys old).symm.trans
        found)]
      exact .inl held
    · exact .inr (List.mem_map.mpr ⟨_, remains old same, rfl⟩)
  · obtain ⟨old, differs⟩ := List.mem_filter.mp mem
    have ne : other ≠ name := by simpa using differs
    obtain ⟨hm, named', link', found', listens⟩ := arranged.member s hs other n old
    refine ⟨hm, named', link', by rw [OrderedMap.get?_erase, if_neg ne, found'], ?_⟩
    have away : n ≠ pulse := by
      rintro rfl
      exact ne (unique old)
    rwa [h.param _ (stop_ne hm away)]
  · rw [OrderedMap.get?_erase] at found'
    split at found'
    case isTrue => cases found'
    case isFalse ne =>
      obtain ⟨⟨_, n⟩, old, rfl⟩ := List.mem_map.mp (arranged.linked s hs other link' found')
      exact List.mem_map.mpr ⟨_, remains old ne, rfl⟩
  · obtain ⟨entry, remained, rfl⟩ := List.mem_map.mp mem
    exact arranged.apart s hs entry.1 (List.mem_map_of_mem (List.mem_of_mem_filter remained))
  · have before : entry ∈ (r.param (r.stopOf n)).listeners ∧ (n = pulse → entry.1 ≠ link) := by
      by_cases self : n = pulse
      · subst self
        rw [h.stop] at mem
        obtain ⟨old, differs⟩ := List.mem_filter.mp mem
        exact ⟨old, fun _ => by simpa using differs⟩
      · rw [h.param _ (stop_ne hm self)] at mem
        exact ⟨mem, fun same => absurd same self⟩
    obtain ⟨t, ht, told', name', among, link'⟩ :=
      arranged.heard n hm entry before.1 (own ▸ arranged.refresher_notMem s)
    obtain rfl := (arranged.sequence t ht).refresher_inj (arranged.sequence s hs)
      (told'.symm.trans own)
    have ne : name' ≠ name := by
      rintro rfl
      have self : n = pulse := Option.some.inj
        ((Entries.get?_of_mem (r.node (r.nodeOf t)).children.nodup_keys among).symm.trans found)
      exact before.2 self (Option.some.inj (link'.symm.trans linked))
    exact ⟨name', remains among ne, by rw [OrderedMap.get?_erase, if_neg ne, link']⟩

end Registry
end LabRegistry

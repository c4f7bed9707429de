import LabRegistry.Proofs.Sequence.Creation

/-!
# Intact pulses and sequences

A pulse or a sequence is intact if its node has the parameters, the configuration and the delegates
that it was made with, whatever its name, its parent, its values and its listeners are. Other nodes
may get new members and delegates, and any node may be bound below them. So pulses and sequences are
intact whatever was bound and whichever listeners failed meanwhile.
-/
namespace LabRegistry

open Registry

/-- The node with nothing but its configuration, its parameters and its delegates. -/
def Node.fittings (node : Node) : Node :=
  { config := node.config, parameters := node.parameters, delegates := node.delegates }

variable {r after base : Registry} {n m : NodeId} {s : SequenceId} {count : Nat}
  {hosts plain : Set NodeId}

namespace Registry

/-- A pulse with the parameters and the delegates that it was made with, which holds nothing. -/
structure PulseIntact (r : Registry) (n : NodeId) : Prop extends r.Placed n where
  config : (r.node n).config = Pulse.config
  fitted : r.Fitted n (r.firstParam n) Pulse.plans
  delegates : (r.node n).delegatesFor "t_stop" = ⟨some .pulseStop, some .setPulseStop⟩
  leaf : r.held n = []

/-- A sequence with the parameters and the delegates that it was made with. -/
structure SequenceIntact (r : Registry) (s : SequenceId) : Prop extends r.Placed (r.nodeOf s) where
  config : (r.node (r.nodeOf s)).config = SequenceId.config
  fitted : r.Fitted (r.nodeOf s) (r.firstParam (r.nodeOf s)) SequenceId.plans
  delegates : (r.node (r.nodeOf s)).delegatesFor "duration" =
    ⟨some (.sequenceDuration s), some (.fixDuration s)⟩
  lists : ∀ name ∈ ["t_start", "t_stop"],
    ((r.node (r.nodeOf s)).delegatesFor (name ++ "_list")).getter = some (.pulseTimes name)

/-- All pulses and all sequences are intact. -/
structure Intact (r : Registry) : Prop where
  pulse : ∀ n, r.isPulse n = true → r.PulseIntact n
  sequence : ∀ s : SequenceId, s.index < r.sequences.size → r.SequenceIntact s

/-- All is intact. There are some sequences, some nodes that are no pulses, and among these some that
are no nodes of sequences either. -/
structure IntactBeside (r : Registry) (count : Nat) (hosts plain : Set NodeId) : Prop
    extends r.Intact where
  many : count ≤ r.sequences.size
  host : ∀ n ∈ hosts, n.index < r.nodes.size ∧ r.isPulse n = false
  among : plain ⊆ hosts
  unused : ∀ n ∈ plain, ∀ s : SequenceId, s.index < r.sequences.size → r.nodeOf s ≠ n

/-! ## Intact pulses and sequences -/

theorem isPulse_of_config (config : (r.node n).config = Pulse.config) : r.isPulse n = true := by
  rw [isPulse, config]
  rfl

theorem PulseIntact.wired (h : r.PulseIntact n) (alive : r.isAlive n = true) :
    r.PulseWired n (r.firstParam n) where
  fitted := h.fitted
  delegates := h.delegates
  config := h.config
  leaf := h.leaf
  alive := alive

theorem SequenceIntact.isPulse_eq_false (h : r.SequenceIntact s) : r.isPulse (r.nodeOf s) = false := by
  rw [isPulse, h.config]
  rfl

private theorem Placed.refitted {plans : List ParameterPlan} (placed : r.Placed n)
    (fitted : r.Fitted n (r.firstParam n) plans) (five : plans.length = 5)
    (nodes : r.nodes.size ≤ after.nodes.size)
    (parameters : (after.node n).parameters = (r.node n).parameters)
    (params : r.params.size ≤ after.params.size)
    (setup : ∀ p : ParamId, p.index < r.params.size → (r.param p).owner = some n →
      (after.param p).setup = (r.param p).setup) :
    after.Placed n ∧ after.Fitted n (after.firstParam n) plans := by
  have first := firstParam_of_node parameters
  have own (i : Nat) (hi : i < 5) : (after.param ⟨r.firstParam n + i⟩).setup =
      (r.param ⟨r.firstParam n + i⟩).setup := by
    have planned := List.getElem?_eq_getElem (five ▸ hi)
    exact setup ⟨_⟩ (fitted.lt_size planned) (fitted.owner planned)
  have quiet (i : Nat) (hi : i < 5) : (after.param ⟨r.firstParam n + i⟩).logsChanges = false :=
    (congrArg (·.logsChanges) (own i hi)).trans (placed.quiet i hi)
  refine ⟨⟨placed.inside.trans_le nodes, first ▸ quiet⟩, ?_⟩
  rw [first]
  exact {
    entries := by rw [parameters, fitted.entries]
    inside := fitted.inside.trans params
    setup := fun i plan hi => (congrArg Parameter.muted
      (own i (five ▸ (List.getElem?_eq_some_iff.mp hi).1))).trans (fitted.setup i plan hi)
    speaks := fun i hi => .inl (quiet i (five ▸ hi)) }

private theorem PulseIntact.transfer (h : r.PulseIntact n) (nodes : r.nodes.size ≤ after.nodes.size)
    (fittings : (after.node n).fittings = (r.node n).fittings) (leaf : after.held n = [])
    (params : r.params.size ≤ after.params.size)
    (setup : ∀ p : ParamId, p.index < r.params.size → (r.param p).owner = some n →
      (after.param p).setup = (r.param p).setup) : after.PulseIntact n := by
  obtain ⟨placed, fitted⟩ := h.toPlaced.refitted h.fitted rfl nodes
    (congrArg (·.parameters) fittings) params setup
  exact {
    toPlaced := placed
    config := (congrArg (·.config) fittings).trans h.config
    fitted := fitted
    delegates := (congrArg (·.delegatesFor "t_stop") fittings).trans h.delegates
    leaf := leaf }

private theorem SequenceIntact.transfer (h : r.SequenceIntact s)
    (owner : after.nodeOf s = r.nodeOf s)
    (nodes : r.nodes.size ≤ after.nodes.size)
    (fittings : (after.node (r.nodeOf s)).fittings = (r.node (r.nodeOf s)).fittings)
    (params : r.params.size ≤ after.params.size)
    (setup : ∀ p : ParamId, p.index < r.params.size → (r.param p).owner = some (r.nodeOf s) →
      (after.param p).setup = (r.param p).setup) : after.SequenceIntact s := by
  obtain ⟨placed, fitted⟩ := h.toPlaced.refitted h.fitted rfl nodes
    (congrArg (·.parameters) fittings) params setup
  constructor
  · rw [owner]
    exact placed
  · rw [owner]
    exact (congrArg (·.config) fittings).trans h.config
  · rw [owner]
    exact fitted
  · rw [owner]
    exact (congrArg (·.delegatesFor "duration") fittings).trans h.delegates
  · intro name mem
    rw [owner]
    exact (congrArg (fun node => (node.delegatesFor (name ++ "_list")).getter) fittings).trans
      (h.lists name mem)

theorem SameNodes.pulses (h : r.SameNodes after) (n : NodeId) : after.pulses n = r.pulses n := by
  have tag : after.isPulse = r.isPulse := by
    funext m
    rw [isPulse, h.node, isPulse]
  rw [Registry.pulses, h.node, tag, Registry.pulses]

private theorem isAlive_of_mem_held (alive : r.isAlive n = true) (mem : m ∈ r.held n) :
    r.isAlive m = true := by
  obtain ⟨root, kept, encloses⟩ := isAlive_iff.mp alive
  exact isAlive_iff.mpr ⟨root, kept, encloses.tail mem⟩

theorem Intact.wired_of_mem_pulses (h : r.Intact) (alive : r.isAlive n = true) (mem : m ∈ r.pulses n) :
    r.PulseWired m (r.firstParam m) := by
  obtain ⟨child, pulse⟩ := List.mem_filter.mp mem
  exact (h.pulse m pulse).wired (isAlive_of_mem_held alive (List.mem_append_left _ child))

/-! ## Changes of what there is -/

/-- The same objects. Nodes keep their class tags, pulses that hold nothing go on so, and nodes that
are not plain keep their fittings and the parameters that belong to them. -/
structure Respects (r : Registry) (plain : Set NodeId) (after : Registry) : Prop where
  nodes : after.nodes.size = r.nodes.size
  tag : ∀ n, (after.node n).config.classTag = (r.node n).config.classTag
  fittings : ∀ n ∉ plain, (after.node n).fittings = (r.node n).fittings
  leaf : ∀ n, r.isPulse n = true → r.held n = [] → after.held n = []
  params : r.params.size ≤ after.params.size
  setup : ∀ p n, p.index < r.params.size → (r.param p).owner = some n → n ∉ plain →
    (after.param p).setup = (r.param p).setup
  sequences : after.sequences.size = r.sequences.size
  owner : ∀ s, after.nodeOf s = r.nodeOf s

private theorem Respects.isPulse (h : r.Respects plain after) (n : NodeId) :
    after.isPulse n = r.isPulse n := by
  rw [Registry.isPulse, h.tag, Registry.isPulse]

private theorem IntactBeside.not_plain (h : r.IntactBeside count hosts plain)
    (pulse : r.isPulse n = true) :
    n ∉ plain := by
  intro mem
  rw [(h.host n (h.among mem)).2] at pulse
  cases pulse

theorem IntactBeside.respects (h : r.IntactBeside count hosts plain) (same : r.Respects plain after) :
    after.IntactBeside count hosts plain where
  pulse n pulse := by
    rw [same.isPulse] at pulse
    have away := h.not_plain pulse
    have intact := h.pulse n pulse
    exact intact.transfer same.nodes.ge (same.fittings n away) (same.leaf n pulse intact.leaf)
      same.params fun p inside owner => same.setup p n inside owner away
  sequence s hs := by
    rw [same.sequences] at hs
    have away : r.nodeOf s ∉ plain := fun mem => h.unused _ mem s hs rfl
    exact (h.sequence s hs).transfer (same.owner s) same.nodes.ge (same.fittings _ away) same.params
      fun p inside owner => same.setup p _ inside owner away
  many := same.sequences ▸ h.many
  host n mem := by
    rw [same.nodes, same.isPulse]
    exact h.host n mem
  among := h.among
  unused n mem s hs := by
    rw [same.sequences] at hs
    rw [same.owner]
    exact h.unused n mem s hs

private theorem Respects.of_same (nodes : r.SameNodes after) (setups : r.SameSetups after)
    (size : after.sequences.size = r.sequences.size) (owner : ∀ s, after.nodeOf s = r.nodeOf s) :
    r.Respects plain after where
  nodes := by rw [nodes.nodes]
  tag n := by rw [nodes.node]
  fittings n _ := by rw [nodes.node]
  leaf n _ leaf := by rwa [held, nodes.node, ← held]
  params := setups.size.ge
  setup p _ _ _ _ := setups.setup p
  sequences := size
  owner := owner

theorem SameWiring.intact (same : r.SameWiring after) (h : r.Intact) : after.Intact := by
  have beside : r.IntactBeside 0 ∅ ∅ :=
    { h with
      many := Nat.zero_le _
      host := nofun
      among := subset_rfl
      unused := nofun }
  exact (beside.respects (.of_same same.nodes same.setups (by rw [same.sequences]) same.nodeOf)).toIntact

/-! ## New objects -/

theorem IntactBeside.extended (h : r.IntactBeside count hosts plain) (extension : r.Extends after)
    (pulse : ∀ n : NodeId, r.nodes.size ≤ n.index → after.isPulse n = true → after.PulseIntact n)
    (sequence : ∀ s : SequenceId, r.sequences.size ≤ s.index → s.index < after.sequences.size →
      after.SequenceIntact s ∧ r.nodes.size ≤ (after.nodeOf s).index) :
    after.IntactBeside count hosts plain := by
  have owner (s : SequenceId) (hs : s.index < r.sequences.size) : after.nodeOf s = r.nodeOf s := by
    rw [nodeOf, extension.sequence s hs, nodeOf]
  have tag (n : NodeId) (hn : n.index < r.nodes.size) : after.isPulse n = r.isPulse n := by
    rw [isPulse, extension.node n hn, isPulse]
  exact {
    pulse := fun n isPulse => by
      by_cases old : n.index < r.nodes.size
      · have intact := h.pulse n (tag n old ▸ isPulse)
        refine intact.transfer extension.nodes (by rw [extension.node n old]) ?_ extension.params
          fun p inside _ => by rw [extension.param p inside]
        rw [held, extension.node n old]
        exact intact.leaf
      · exact pulse n (not_lt.mp old) isPulse
    sequence := fun s hs => by
      by_cases old : s.index < r.sequences.size
      · have intact := h.sequence s old
        exact intact.transfer (owner s old) extension.nodes (by rw [extension.node _ intact.inside])
          extension.params fun p inside _ => by rw [extension.param p inside]
      · exact (sequence s (not_lt.mp old) hs).1
    many := h.many.trans extension.sequences
    host := fun n mem => by
      obtain ⟨inside, noPulse⟩ := h.host n mem
      exact ⟨inside.trans_le extension.nodes, (tag n inside).trans noPulse⟩
    among := h.among
    unused := fun n mem s hs => by
      by_cases old : s.index < r.sequences.size
      · rw [owner s old]
        exact h.unused n mem s old
      · rintro rfl
        have new := (sequence s (not_lt.mp old) hs).2
        exact not_lt.mpr new (h.host _ (h.among mem)).1 }

/-- What is intact stays so. -/
def StaysIntact (count : Nat) (hosts plain : Set NodeId) (r after : Registry) : Prop :=
  r.IntactBeside count hosts plain → after.IntactBeside count hosts plain

instance : IsPreorder Registry (StaysIntact count hosts plain) where
  refl _ := id
  trans _ _ _ h h' := h' ∘ h

/-! ## Single changes -/

theorem Respects.of_eq (nodes : after.nodes = r.nodes) (params : after.params = r.params)
    (sequences : after.sequences = r.sequences) : r.Respects plain after where
  nodes := by rw [nodes]
  tag n := by rw [node, nodes, node]
  fittings n _ := by rw [node, nodes, node]
  leaf n _ leaf := by rwa [held, node, nodes, ← node, ← held]
  params := by rw [params]
  setup p n _ _ _ := by rw [param, params, param]
  sequences := by rw [sequences]
  owner s := by rw [nodeOf, sequence, sequences, ← sequence, nodeOf]

theorem Respects.of_node {f : Node → Node}
    (tag : ∀ node, (f node).config.classTag = node.config.classTag)
    (fittings : n ∉ plain → ∀ node, (f node).fittings = node.fittings)
    (leaf : r.isPulse n = true → ∀ node, node.held = [] → (f node).held = []) :
    r.Respects plain { r with nodes := r.nodes.change n.index f } where
  nodes := Arena.size_change _ _ _
  tag m := by
    rw [node_change]
    split
    · exact tag _
    · rfl
  fittings m free := by
    rw [node_change]
    split
    case isTrue both => exact fittings (both.1 ▸ free) _
    case isFalse => rfl
  leaf m pulse none := by
    rw [held, node_change]
    split
    case isTrue both => exact leaf (both.1 ▸ pulse) _ none
    case isFalse => exact none
  params := le_rfl
  setup _ _ _ _ _ := rfl
  sequences := rfl
  owner _ := rfl

theorem Respects.of_param {p : ParamId} {f : Parameter → Parameter}
    (setup : ∀ n, (r.param p).owner = some n → n ∉ plain → (f (r.param p)).setup = (r.param p).setup) :
    r.Respects plain { r with params := r.params.change p.index f } where
  nodes := rfl
  tag _ := rfl
  fittings _ _ := rfl
  leaf _ _ none := none
  params := (Arena.size_change _ _ _).ge
  setup q n _ owner free := by
    rw [param_change]
    split
    case isTrue both =>
      obtain ⟨rfl, -⟩ := both
      exact setup n owner free
    case isFalse => rfl
  sequences := rfl
  owner _ := rfl

theorem Respects.of_push (param : Parameter) (now : Instant) :
    r.Respects plain { r with params := r.params.push param, now } where
  nodes := rfl
  tag _ := rfl
  fittings _ _ := rfl
  leaf _ _ none := none
  params := by simp
  setup q _ inside _ _ := congrArg Parameter.setup (Arena.get_push_of_lt inside _)
  sequences := rfl
  owner _ := rfl

theorem Respects.of_sequence {f : Sequence → Sequence}
    (owner : ∀ sequence, (f sequence).node = sequence.node) :
    r.Respects plain { r with sequences := r.sequences.change s.index f } where
  nodes := rfl
  tag _ := rfl
  fittings _ _ := rfl
  leaf _ _ none := none
  params := le_rfl
  setup _ _ _ _ _ := rfl
  sequences := Arena.size_change _ _ _
  owner t := by
    rw [nodeOf, sequence_change]
    split
    · exact owner _
    · rfl

end Registry

private theorem Effects.sameOwners (h : Effects r after) :
    after.sequences.size = r.sequences.size ∧ ∀ s, after.nodeOf s = r.nodeOf s := by
  induction h with
  | refl => exact ⟨rfl, fun _ => rfl⟩
  | tail _ effect ih =>
    obtain ⟨size, owner⟩ := ih
    cases effect with
    | duration s fixedDuration =>
      refine ⟨(Arena.size_change _ _ _).trans size, fun t => ?_⟩
      rw [← owner t, nodeOf, sequence_change]
      split <;> rfl
    | _ => exact ⟨size, owner⟩

theorem Effects.respects (h : Effects r after) : r.Respects plain after :=
  .of_same h.sameNodes h.sameSetups h.sameOwners.1 h.sameOwners.2

end LabRegistry

import LabRegistry.Registry.Containment
import Mathlib.Algebra.BigOperators.Group.Finset.Basic
import Mathlib.Logic.Relation

/-!
# The search for contained nodes

A search takes one pending node after the other and opens every node at most once. Whichever node
it takes next, it ends after as many rounds as there are edges and one more, and finds its target
exactly if the target can be reached, also where nodes hold each other in circles. `Registry.search`
is such a search, and its fuel never runs out.
-/
namespace LabRegistry.Registry

variable {r : Registry}

/-- One step of containment: `n` holds `m` as a child or as a submodule. -/
def Holds (r : Registry) (n m : NodeId) : Prop := m ∈ r.held n

/-- `m` is `n` or is contained in it. -/
abbrev Encloses (r : Registry) : NodeId → NodeId → Prop := Relation.ReflTransGen r.Holds

theorem node_of_size_le {n : NodeId} (h : r.nodes.size ≤ n.index) : r.node n = default := by
  have hn : ¬ n.index < r.nodes.cells.size := Nat.not_lt.mpr h
  simp [node, Arena.get, Array.getD, hn]

theorem held_of_size_le {n : NodeId} (h : r.nodes.size ≤ n.index) : r.held n = [] := by
  rw [held, node_of_size_le h]
  rfl

theorem Holds.lt_size {n m : NodeId} (h : r.Holds n m) : n.index < r.nodes.size := by
  by_contra hn
  rw [Holds, held_of_size_le (Nat.le_of_not_lt hn)] at h
  exact List.not_mem_nil h

/-! ## Fuel -/

/-- The number of edges that leave the nodes that are not open yet. -/
def unopened (r : Registry) (visited : List NodeId) : Nat :=
  ∑ i ∈ Finset.range r.nodes.size with ⟨i⟩ ∉ visited, (r.held ⟨i⟩).length

private theorem unopened_nil (r : Registry) : r.unopened [] = r.edgeCount := by
  have cells : r.nodes.cells.toList = (List.range r.nodes.size).map fun i => r.nodes.get i := by
    apply List.ext_getElem
    · simp [Arena.size]
    · intro i hi _
      have hi' : i < r.nodes.cells.size := by simpa using hi
      simp [Arena.get, Array.getD, hi']
  have total : r.edgeCount = (r.nodes.cells.toList.map fun node => node.held.length).sum := by
    rw [edgeCount, ← Array.foldl_toList, List.sum_eq_foldl, List.foldl_map]
  rw [total, cells, List.map_map]
  simp only [unopened, List.not_mem_nil, not_false_eq_true, Finset.filter_true]
  rfl

private theorem unopened_cons {visited : List NodeId} {n : NodeId} (h : n ∉ visited) :
    r.unopened (n :: visited) + (r.held n).length = r.unopened visited := by
  by_cases hn : n.index < r.nodes.size
  · have opened : (Finset.range r.nodes.size).filter (fun i => (⟨i⟩ : NodeId) ∉ n :: visited) =
        ((Finset.range r.nodes.size).filter fun i => (⟨i⟩ : NodeId) ∉ visited).erase n.index := by
      ext i
      have index : (⟨i⟩ : NodeId) = n ↔ i = n.index := by
        cases n
        simp
      simp only [List.mem_cons, Finset.mem_filter, Finset.mem_erase, not_or, index]
      tauto
    have mem : n.index ∈ (Finset.range r.nodes.size).filter fun i => (⟨i⟩ : NodeId) ∉ visited := by
      simpa [hn] using h
    rw [unopened, unopened, opened]
    exact Finset.sum_erase_add _ _ mem
  · have outside : ∀ i ∈ Finset.range r.nodes.size, (⟨i⟩ : NodeId) ≠ n := by
      intro i hi same
      rw [← same] at hn
      exact hn (Finset.mem_range.mp hi)
    rw [held_of_size_le (Nat.le_of_not_lt hn), List.length_nil, Nat.add_zero, unopened, unopened]
    congr 1
    apply Finset.filter_congr
    intro i hi
    simp [outside i hi]

/-! ## Rounds -/

/-- A search under way: the nodes opened so far and those still to be looked at. -/
structure Search where
  visited : List NodeId
  pending : List NodeId

namespace Search

variable {starts : List NodeId} {target : NodeId} {s next : Search}

/-- One round takes a pending node other than the target, whichever it is: one that was opened
before is dropped, and what a new one holds becomes pending. -/
inductive Round (r : Registry) (target : NodeId) : Search → Search → Prop
  | dropped {visited pending left : List NodeId} {n : NodeId} (taken : pending.Perm (n :: left))
      (other : n ≠ target) (seen : n ∈ visited) :
      Round r target ⟨visited, pending⟩ ⟨visited, left⟩
  | opened {visited pending left next : List NodeId} {n : NodeId} (taken : pending.Perm (n :: left))
      (other : n ≠ target) (fresh : n ∉ visited) (added : next.Perm (r.held n ++ left)) :
      Round r target ⟨visited, pending⟩ ⟨n :: visited, next⟩

/-- The search is over: the target was taken, or nothing is left to take. -/
inductive Answers (target : NodeId) : Search → Bool → Prop
  | found {visited pending : List NodeId} (mem : target ∈ pending) :
      Answers target ⟨visited, pending⟩ true
  | missing {visited : List NodeId} : Answers target ⟨visited, []⟩ false

/-- The rounds a search can still take: one for each pending node and one for each edge that is
not yet followed. -/
def remaining (r : Registry) (s : Search) : Nat := s.pending.length + r.unopened s.visited

private theorem Round.remaining (h : Round r target s next) :
    next.remaining r + 1 = s.remaining r := by
  cases h with
  | dropped taken =>
    have length := taken.length_eq
    simp only [Search.remaining, List.length_cons] at length ⊢
    omega
  | opened taken other fresh added =>
    have length := taken.length_eq
    have longer := added.length_eq
    have edges := unopened_cons (r := r) fresh
    simp only [Search.remaining, List.length_cons, List.length_append] at length longer ⊢
    omega

private theorem length_le_remaining {states : List Search}
    (h : List.IsChain (Round r target) (s :: states)) : states.length ≤ s.remaining r := by
  induction states generalizing s with
  | nil => exact Nat.zero_le _
  | cons next states ih =>
    obtain ⟨round, chain⟩ := List.isChain_cons_cons.mp h
    have fewer := round.remaining
    have rest := ih chain
    rw [List.length_cons]
    omega

private theorem round_or_answers (r : Registry) (target : NodeId) (s : Search) :
    (∃ next, Round r target s next) ∨ ∃ answer, s.Answers target answer := by
  obtain ⟨visited, pending⟩ := s
  cases pending with
  | nil => exact .inr ⟨false, .missing⟩
  | cons n left =>
    by_cases same : n = target
    · exact .inr ⟨true, .found (same ▸ List.mem_cons_self)⟩
    by_cases seen : n ∈ visited
    · exact .inl ⟨_, .dropped (.refl _) same seen⟩
    · exact .inl ⟨_, .opened (.refl _) same seen (.refl _)⟩

/-! ## What a search has covered -/

/-- Everything pending can be reached, and an open node leads to open or pending nodes only. -/
structure Covers (r : Registry) (starts : List NodeId) (target : NodeId) (s : Search) : Prop where
  reached : ∀ n ∈ s.pending, ∃ start ∈ starts, r.Encloses start n
  started : ∀ start ∈ starts, start ∈ s.visited ∨ start ∈ s.pending
  passed : target ∉ s.visited
  closed : ∀ n ∈ s.visited, ∀ m, r.Holds n m → m ∈ s.visited ∨ m ∈ s.pending

private theorem Covers.start (r : Registry) (starts : List NodeId) (target : NodeId) :
    Covers r starts target ⟨[], starts⟩ where
  reached n hn := ⟨n, hn, .refl⟩
  started _ hstart := .inr hstart
  passed := List.not_mem_nil
  closed _ hn := absurd hn List.not_mem_nil

private theorem Covers.round (h : Covers r starts target s) (round : Round r target s next) :
    Covers r starts target next := by
  cases round with
  | @dropped visited pending left n taken other seen =>
    have known : ∀ m, m ∈ visited ∨ m ∈ pending → m ∈ visited ∨ m ∈ left := by
      intro m hm
      rw [taken.mem_iff, List.mem_cons] at hm
      rcases hm with hm | rfl | hm
      · exact .inl hm
      · exact .inl seen
      · exact .inr hm
    exact {
      reached := fun m hm => h.reached m (taken.mem_iff.mpr (List.mem_cons_of_mem n hm))
      started := fun start hstart => known start (h.started start hstart)
      passed := h.passed
      closed := fun v hv m edge => known m (h.closed v hv m edge) }
  | @opened visited pending left next n taken other fresh added =>
    have known : ∀ m, m ∈ visited ∨ m ∈ pending → m ∈ n :: visited ∨ m ∈ next := by
      intro m hm
      rw [taken.mem_iff, List.mem_cons] at hm
      rcases hm with hm | rfl | hm
      · exact .inl (List.mem_cons_of_mem n hm)
      · exact .inl List.mem_cons_self
      · exact .inr (added.mem_iff.mpr (List.mem_append_right _ hm))
    refine ⟨?reached, fun start hstart => known start (h.started start hstart), ?passed, ?closed⟩
    case reached =>
      intro m hm
      rcases List.mem_append.mp (added.mem_iff.mp hm) with edge | hm
      · obtain ⟨start, hstart, path⟩ := h.reached n (taken.mem_iff.mpr List.mem_cons_self)
        exact ⟨start, hstart, path.tail edge⟩
      · exact h.reached m (taken.mem_iff.mpr (List.mem_cons_of_mem n hm))
    case passed =>
      intro mem
      rcases List.mem_cons.mp mem with same | mem
      · exact other same.symm
      · exact h.passed mem
    case closed =>
      intro v hv m edge
      rcases List.mem_cons.mp hv with rfl | hv
      · exact .inr (added.mem_iff.mpr (List.mem_append_left _ edge))
      · exact known m (h.closed v hv m edge)

private theorem Covers.run (h : Covers r starts target s)
    (run : Relation.ReflTransGen (Round r target) s next) : Covers r starts target next := by
  induction run with
  | refl => exact h
  | tail _ round ih => exact ih.round round

private theorem Covers.answer (h : Covers r starts target s) {answer : Bool}
    (answers : s.Answers target answer) :
    answer = true ↔ ∃ start ∈ starts, r.Encloses start target := by
  cases answers with
  | found mem => exact iff_of_true rfl (h.reached target mem)
  | @missing visited =>
    refine iff_of_false Bool.false_ne_true ?_
    rintro ⟨start, hstart, path⟩
    -- With nothing pending the open nodes are closed under containment.
    have stays : ∀ n, r.Encloses start n → n ∈ visited := by
      intro n path
      induction path with
      | refl => simpa using h.started start hstart
      | tail _ edge ih => simpa using h.closed _ ih _ edge
    exact h.passed (stays target path)

end Search

/-! ## Exactness -/

private theorem search_answers {target : NodeId} {fuel : Nat} {visited pending : List NodeId}
    (hfuel : Search.remaining r ⟨visited, pending⟩ < fuel) :
    ∃ last, Relation.ReflTransGen (Search.Round r target) ⟨visited, pending⟩ last ∧
      last.Answers target (r.search target fuel visited pending) := by
  induction fuel generalizing visited pending with
  | zero => exact absurd hfuel (Nat.not_lt_zero _)
  | succ fuel ih =>
    cases pending with
    | nil => exact ⟨_, .refl, .missing⟩
    | cons n left =>
      rw [search]
      split
      case isTrue same => exact ⟨_, .refl, .found (same ▸ List.mem_cons_self)⟩
      case isFalse other =>
      split
      case isTrue seen =>
        have round : Search.Round r target ⟨visited, n :: left⟩ ⟨visited, left⟩ :=
          .dropped (.refl _) other (List.contains_iff_mem.mp seen)
        rw [← round.remaining] at hfuel
        obtain ⟨last, run, answers⟩ := ih (Nat.lt_of_succ_lt_succ hfuel)
        exact ⟨last, .head round run, answers⟩
      case isFalse fresh =>
        have round : Search.Round r target ⟨visited, n :: left⟩ ⟨n :: visited, r.held n ++ left⟩ :=
          .opened (.refl _) other (mt List.contains_iff_mem.mpr fresh) (.refl _)
        rw [← round.remaining] at hfuel
        obtain ⟨last, run, answers⟩ := ih (Nat.lt_of_succ_lt_succ hfuel)
        exact ⟨last, .head round run, answers⟩

private theorem remaining_start (r : Registry) (starts : List NodeId) :
    Search.remaining r ⟨[], starts⟩ = starts.length + r.edgeCount := by
  rw [Search.remaining, unopened_nil]

private theorem reaches_answers (r : Registry) (starts : List NodeId) (target : NodeId) :
    ∃ last, Relation.ReflTransGen (Search.Round r target) ⟨[], starts⟩ last ∧
      last.Answers target (r.reaches starts target) :=
  search_answers (by rw [remaining_start]; exact Nat.lt_succ_self _)

private theorem reaches_iff {starts : List NodeId} {target : NodeId} :
    r.reaches starts target = true ↔ ∃ n ∈ starts, r.Encloses n target := by
  obtain ⟨last, run, answers⟩ := r.reaches_answers starts target
  exact ((Search.Covers.start r starts target).run run).answer answers

theorem contains_iff {n target : NodeId} : r.contains n target = true ↔ r.Encloses n target := by
  simp [contains, reaches_iff]

theorem isAlive_iff {n : NodeId} : r.isAlive n = true ↔ ∃ root ∈ r.roots, r.Encloses root n :=
  reaches_iff

/-- Whatever holds what, `contains` ends with an answer and changes nothing, and the answer is yes
exactly if the target is the node itself or can be reached from it through one edge or several. The
same holds of every search from the node, in whatever order it takes what is pending: it has at most
one round more than there are edges, never gets stuck, and ends with that answer. -/
theorem contains_settled {ε : Type} (r : Registry) (a t : NodeId) :
    (∃ answer last, (a.contains t : Act ε Bool) r = (.ok answer, r) ∧
      (answer = true ↔ t = a ∨ Relation.TransGen r.Holds a t) ∧
      Relation.ReflTransGen (Search.Round r t) ⟨[], [a]⟩ last ∧ last.Answers t answer) ∧
    (∀ states, List.IsChain (Search.Round r t) (⟨[], [a]⟩ :: states) →
      states.length ≤ r.edgeCount + 1) ∧
    ∀ s, Relation.ReflTransGen (Search.Round r t) ⟨[], [a]⟩ s →
      ((∃ next, Search.Round r t s next) ∨ ∃ answer, s.Answers t answer) ∧
      ∀ answer, s.Answers t answer →
        (answer = true ↔ t = a ∨ Relation.TransGen r.Holds a t) := by
  have exact_answer : ∀ s answer, Relation.ReflTransGen (Search.Round r t) ⟨[], [a]⟩ s →
      s.Answers t answer → (answer = true ↔ t = a ∨ Relation.TransGen r.Holds a t) := by
    intro s answer run answers
    rw [((Search.Covers.start r [a] t).run run).answer answers]
    simp only [List.mem_singleton, exists_eq_left]
    exact Relation.reflTransGen_iff_eq_or_transGen
  refine ⟨?runs, ?bounded, ?settled⟩
  case runs =>
    obtain ⟨last, run, answers⟩ := r.reaches_answers [a] t
    exact ⟨_, last, rfl, exact_answer last _ run answers, run, answers⟩
  case bounded =>
    intro states chain
    have bound := Search.length_le_remaining chain
    rwa [remaining_start, List.length_singleton, Nat.add_comm] at bound
  case settled =>
    intro s run
    exact ⟨Search.round_or_answers r t s, fun answer answers => exact_answer s answer run answers⟩

end LabRegistry.Registry

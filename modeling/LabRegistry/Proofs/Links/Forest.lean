import LabRegistry.Proofs.Containment.Extent
import LabRegistry.Registry.State
import Mathlib.Data.List.Nodup
import Mathlib.Data.Set.Defs

/-!
# Forests of links

Links that do not go round and do not meet form a forest over the parameters that they connect. A
value set on one of these parameters visits it first and then, link by link, everything below, each
parameter once.
-/
namespace LabRegistry

def Listener.link? : Listener → Option (ParamId × Link)
  | .link target onTheWay => some (target, onTheWay)
  | .callback _ => none

namespace Registry

open Relation

/-- The links of a parameter in the order in which they were made. -/
def linksOf (r : Registry) (p : ParamId) : List (ParamId × Link) :=
  (r.param p).listeners.filterMap (·.2.link?)

/-- A link leads from `p`, which is one of the family, to `q`. -/
def Feeds (r : Registry) (family : Set ParamId) (p q : ParamId) : Prop :=
  p ∈ family ∧ ∃ link, (q, link) ∈ r.linksOf p

/-- A family of parameters that keep their values in their caches, some of them for reading only,
and whose links form a forest. -/
structure LinkForest (r : Registry) (family : Set ParamId) : Prop where
  inside : ∀ p ∈ family, p.index < r.params.size
  getSource : ∀ p ∈ family, (r.param p).getSource = .cache
  setSource : ∀ p ∈ family, (r.param p).setSource = .cache ∨ (r.param p).setSource = .nowhere
  getParser : ∀ p ∈ family, (r.param p).getParser = none
  setParser : ∀ p ∈ family, (r.param p).setParser = none
  /-- There are no listeners but links within the family. -/
  links : ∀ p ∈ family, ∀ entry ∈ (r.param p).listeners,
    ∃ next, entry.2.link? = some next ∧ next.1 ∈ family
  /-- No two links of a parameter lead to the same target. -/
  once : ∀ p ∈ family, ((r.linksOf p).map Prod.fst).Nodup
  /-- Links of two parameters do not meet. -/
  single : ∀ {p q target}, r.Feeds family p target → r.Feeds family q target → p = q
  acyclic : ∀ p, ¬ TransGen (r.Feeds family) p p

/-- The parameters that hear of a value set on `p`, in this order, each with what it is set to. -/
def tour (r : Registry) : Nat → ParamId → Value → List (ParamId × Value)
  | 0, _, _ => []
  | fuel + 1, p, v => (p, v) :: (r.linksOf p).flatMap fun next => r.tour fuel next.1 (next.2.apply v)

/-- Links `l₁` to `lₖ` lead from `p` to `q` and change `v` into `w = lₖ.apply (… (l₁.apply v))`. -/
inductive Receives (r : Registry) (p : ParamId) (v : Value) : ParamId → Value → Prop
  | self : Receives r p v p v
  | link {q target : ParamId} {w : Value} {link : Link} (before : Receives r p v q w)
      (next : (target, link) ∈ r.linksOf q) : Receives r p v target (link.apply w)

variable {r : Registry} {family : Set ParamId} {p q : ParamId} {v w : Value} {fuel : Nat}

private theorem Receives.head {next : ParamId × Link} (first : next ∈ r.linksOf p)
    (h : r.Receives next.1 (next.2.apply v) q w) : r.Receives p v q w := by
  induction h with
  | self => exact .link .self first
  | link _ next ih => exact .link ih next

private theorem mem_tour_succ {entry : ParamId × Value} :
    entry ∈ r.tour (fuel + 1) p v ↔ entry = (p, v) ∨
      ∃ next ∈ r.linksOf p, entry ∈ r.tour fuel next.1 (next.2.apply v) := by
  rw [tour, List.mem_cons, List.mem_flatMap]

private theorem Receives.of_mem_tour (h : (q, w) ∈ r.tour fuel p v) : r.Receives p v q w := by
  induction fuel generalizing p v with
  | zero => cases h
  | succ fuel ih =>
    rcases mem_tour_succ.mp h with same | ⟨next, first, below⟩
    · cases same
      exact .self
    · exact (ih below).head first

namespace LinkForest

variable (h : r.LinkForest family)

include h

theorem target_mem (hp : p ∈ family) {next : ParamId × Link} (first : next ∈ r.linksOf p) :
    next.1 ∈ family := by
  obtain ⟨entry, mem, some⟩ := List.mem_filterMap.mp first
  obtain ⟨next, isLink, hNext⟩ := h.links p hp entry mem
  rw [isLink] at some
  cases some
  exact hNext

omit h in
private theorem feeds (hp : p ∈ family) {next : ParamId × Link} (first : next ∈ r.linksOf p) :
    r.Feeds family p next.1 :=
  ⟨hp, next.2, first⟩

theorem mem_of_reach (hp : p ∈ family) (reach : ReflTransGen (r.Feeds family) p q) :
    q ∈ family := by
  induction reach with
  | refl => exact hp
  | tail _ step ih =>
    obtain ⟨link, mem⟩ := step.2
    exact h.target_mem ih mem

theorem reach_of_mem_tour (hp : p ∈ family) (mem : (q, w) ∈ r.tour fuel p v) :
    ReflTransGen (r.Feeds family) p q := by
  induction fuel generalizing p v with
  | zero => cases mem
  | succ fuel ih =>
    rcases mem_tour_succ.mp mem with same | ⟨next, first, below⟩
    · cases same
      exact .refl
    · exact .head (feeds hp first) (ih (h.target_mem hp first) below)

/-! ## Depth -/

/-- How many parameters hear of what is set on one of them; no chain of links is longer. -/
noncomputable abbrev depth (_ : r.LinkForest family) (p : ParamId) : Nat :=
  reachCount ParamId.mk r.params.size (r.Feeds family) p

theorem depth_pos (hp : p ∈ family) : 0 < h.depth p :=
  reachCount_pos (h.inside p hp) .refl

theorem depth_lt (hp : p ∈ family) {next : ParamId × Link} (first : next ∈ r.linksOf p) :
    h.depth next.1 < h.depth p := by
  have step := feeds hp first
  exact reachCount_lt (h.inside p hp) rfl step fun back => h.acyclic p (.head' step back)

theorem tour_eq {fuel' : Nat} (hp : p ∈ family) (hf : h.depth p ≤ fuel) (hf' : h.depth p ≤ fuel') :
    r.tour fuel p v = r.tour fuel' p v := by
  induction fuel generalizing fuel' p v with
  | zero => exact absurd (h.depth_pos hp) (by omega)
  | succ fuel ih =>
    cases fuel' with
    | zero => exact absurd (h.depth_pos hp) (by omega)
    | succ fuel' =>
      have below (next : ParamId × Link) (first : next ∈ r.linksOf p) :
          r.tour fuel next.1 (next.2.apply v) = r.tour fuel' next.1 (next.2.apply v) := by
        have lower := h.depth_lt hp first
        exact ih (h.target_mem hp first) (by omega) (by omega)
      rw [tour, tour, List.flatMap_congr below]

private theorem self_mem_tour (hp : p ∈ family) (hf : h.depth p ≤ fuel) :
    (p, v) ∈ r.tour fuel p v := by
  have positive := h.depth_pos hp
  obtain ⟨fuel, rfl⟩ := Nat.exists_eq_add_one_of_ne_zero (n := fuel) (by omega)
  exact mem_tour_succ.mpr (.inl rfl)

private theorem mem_tour_link (hp : p ∈ family) (hf : h.depth p ≤ fuel) {target : ParamId}
    {link : Link}
    (mem : (q, w) ∈ r.tour fuel p v) (next : (target, link) ∈ r.linksOf q) :
    (target, link.apply w) ∈ r.tour fuel p v := by
  induction fuel generalizing p v with
  | zero => cases mem
  | succ fuel ih =>
    have lower (next : ParamId × Link) (first : next ∈ r.linksOf p) : h.depth next.1 ≤ fuel := by
      have less := h.depth_lt hp first
      omega
    rcases mem_tour_succ.mp mem with same | ⟨first, isFirst, below⟩
    · cases same
      have self := h.self_mem_tour (v := link.apply w) (h.target_mem hp next) (lower _ next)
      exact mem_tour_succ.mpr (.inr ⟨_, next, self⟩)
    · have there := ih (h.target_mem hp isFirst) (lower first isFirst) below
      exact mem_tour_succ.mpr (.inr ⟨first, isFirst, there⟩)

theorem mem_tour_iff (hp : p ∈ family) (hf : h.depth p ≤ fuel) :
    (q, w) ∈ r.tour fuel p v ↔ r.Receives p v q w := by
  refine ⟨Receives.of_mem_tour, fun receives => ?_⟩
  induction receives with
  | self => exact h.self_mem_tour hp hf
  | link _ next ih => exact h.mem_tour_link hp hf ih next

/-! ## Every parameter once -/

private theorem reach_total {a b : ParamId} (ha : ReflTransGen (r.Feeds family) a q)
    (hb : ReflTransGen (r.Feeds family) b q) :
    ReflTransGen (r.Feeds family) a b ∨ ReflTransGen (r.Feeds family) b a := by
  have unique : Relator.RightUnique (Function.swap (r.Feeds family)) := fun _ _ _ => h.single
  rcases ReflTransGen.total_of_right_unique unique (ReflTransGen.swap _ _ ha)
    (ReflTransGen.swap _ _ hb) with above | above
  · exact .inr (ReflTransGen.swap _ _ above)
  · exact .inl (ReflTransGen.swap _ _ above)

private theorem disjoint_below {next other : ParamId × Link} (hp : p ∈ family)
    (hn : next ∈ r.linksOf p) (ho : other ∈ r.linksOf p) (ne : next.1 ≠ other.1)
    (below : ReflTransGen (r.Feeds family) next.1 q) :
    ¬ ReflTransGen (r.Feeds family) other.1 q := by
  have apart {a b : ParamId × Link} (ha : a ∈ r.linksOf p) (hb : b ∈ r.linksOf p)
      (ne : a.1 ≠ b.1) : ¬ ReflTransGen (r.Feeds family) a.1 b.1 := by
    intro reach
    rcases ReflTransGen.cases_tail reach with same | ⟨c, up, last⟩
    · exact ne same.symm
    · have same : c = p := h.single last (feeds hp hb)
      subst same
      exact h.acyclic c (.head' (feeds hp ha) up)
  intro also
  rcases h.reach_total below also with through | through
  · exact apart hn ho ne through
  · exact apart ho hn ne.symm through

theorem nodup_tour (hp : p ∈ family) : ((r.tour fuel p v).map Prod.fst).Nodup := by
  induction fuel generalizing p v with
  | zero => exact List.nodup_nil
  | succ fuel ih =>
    rw [tour, List.map_cons, List.map_flatMap, List.nodup_cons, List.nodup_flatMap]
    refine ⟨fun mem => ?_, fun next first => ih (h.target_mem hp first), ?_⟩
    · obtain ⟨next, first, again⟩ := List.mem_flatMap.mp mem
      obtain ⟨⟨q, w⟩, below, same⟩ := List.mem_map.mp again
      cases same
      exact h.acyclic p (.head' (feeds hp first)
        (h.reach_of_mem_tour (h.target_mem hp first) below))
    · have distinct : (r.linksOf p).Pairwise fun next other => next.1 ≠ other.1 :=
        List.pairwise_map.mp (h.once p hp)
      refine distinct.imp_of_mem fun {next other} hn ho ne => ?_
      intro q hq hq'
      obtain ⟨⟨q, w⟩, mem, rfl⟩ := List.mem_map.mp hq
      obtain ⟨⟨q', w'⟩, mem', same⟩ := List.mem_map.mp hq'
      cases same
      exact h.disjoint_below hp hn ho ne (h.reach_of_mem_tour (h.target_mem hp hn) mem)
        (h.reach_of_mem_tour (h.target_mem hp ho) mem')

end LinkForest
end Registry
end LabRegistry

import LabRegistry.Proofs.Pulse.Times
import LabRegistry.Proofs.Sequence.Operated
import Mathlib.Data.Rat.Cast.Order
import Mathlib.Tactic.Linarith

/-!
# Overlapping pulses have a time in common

Whether two pulses overlap is decided by comparing the start of each with the stop of the other. That
is whether they have a time in common, unless one of them lasts no time at all and starts within the
other.
-/
namespace LabRegistry

open Registry

/-- The number that a double stands for. -/
def FiniteDouble.toRat (x : FiniteDouble) : ℚ := x.units / unitsPerOne

private theorem FiniteDouble.toRat_lt {x y : FiniteDouble} :
    x.toRat < y.toRat ↔ x.units < y.units := by
  have positive : (0 : ℚ) < unitsPerOne := by
    rw [Nat.cast_pos]
    decide
  rw [toRat, toRat, div_lt_div_iff_of_pos_right positive, Int.cast_lt]

namespace Pulse

def Spans (r : Registry) (n : NodeId) (start stop : FiniteDouble) : Prop :=
  (start? n r).1 = .ok (some (.finite start)) ∧ (stop? n r).1 = .ok (some (.finite stop))

/-- The pulse starts at this time or before and stops after it. -/
def Covers (r : Registry) (n : NodeId) (t : ℚ) : Prop :=
  ∃ start stop, Spans r n start stop ∧ start.toRat ≤ t ∧ t < stop.toRat

/-- The pulse lasts no time, and the other starts before it stops and stops after it starts. -/
def EmptyWithin (r : Registry) (n m : NodeId) : Prop :=
  ∃ start stop start' stop', Spans r n start stop ∧ Spans r m start' stop' ∧
    stop.toRat ≤ start.toRat ∧ start'.toRat < stop.toRat ∧ start.toRat < stop'.toRat

def Crosses (r : Registry) (n m : NodeId) : Prop :=
  ∃ start stop start' stop', Spans r n start stop ∧ Spans r m start' stop' ∧
    start.toRat < stop'.toRat ∧ start'.toRat < stop.toRat

variable {r : Registry} {n m : NodeId} {log : Log} {now : Instant}

private theorem Spans.unique {start stop start' stop' : FiniteDouble} (h : Spans r n start stop)
    (h' : Spans r n start' stop') : start = start' ∧ stop = stop' := by
  obtain ⟨started, stopped⟩ := h
  rw [h'.1] at started
  rw [h'.2] at stopped
  cases started
  cases stopped
  exact ⟨rfl, rfl⟩

private theorem exists_common_iff : (∃ t, Covers r n t ∧ Covers r m t) ↔
    Crosses r n m ∧ ¬ EmptyWithin r n m ∧ ¬ EmptyWithin r m n := by
  constructor
  · rintro ⟨t, ⟨start, stop, spans, after, before⟩, start', stop', spans', after', before'⟩
    refine ⟨⟨start, stop, start', stop', spans, spans', by linarith, by linarith⟩, ?_, ?_⟩
    · rintro ⟨a, b, a', b', is, -, empty, -⟩
      obtain ⟨rfl, rfl⟩ := spans.unique is
      linarith
    · rintro ⟨a, b, a', b', is, -, empty, -⟩
      obtain ⟨rfl, rfl⟩ := spans'.unique is
      linarith
  · rintro ⟨⟨start, stop, start', stop', spans, spans', first, second⟩, lasts, lasts'⟩
    have some : start.toRat < stop.toRat := by
      by_contra empty
      exact lasts ⟨_, _, _, _, spans, spans', not_lt.mp empty, second, first⟩
    have some' : start'.toRat < stop'.toRat := by
      by_contra empty
      exact lasts' ⟨_, _, _, _, spans', spans, not_lt.mp empty, first, second⟩
    -- The later one of the starts is common to both.
    refine ⟨max start.toRat start'.toRat, ⟨_, _, spans, le_max_left _ _, max_lt some second⟩, _, _,
      spans', le_max_right _ _, max_lt first some'⟩

end Pulse

namespace Registry.PulseWired

variable {r : Registry} {n m : NodeId}

private theorem spans_iff (h : r.PulseWired n (r.firstParam n)) {start stop : FiniteDouble} :
    Pulse.Spans r n start stop ↔ r.times n = some (.finite start, .finite stop) := by
  obtain ⟨_, started, -⟩ := h.start?_rereads
  obtain ⟨_, stopped, -⟩ := h.stop?_rereads
  rw [Pulse.Spans, started, stopped, times]
  simp [Option.bind_eq_some_iff, Except.ok.injEq]

private theorem times_finite {span : Double × Double} (h : r.times n = some span) :
    ∃ start stop, span = (.finite start, .finite stop) := by
  obtain ⟨start, started, h⟩ := Option.bind_eq_some_iff.mp h
  obtain ⟨stop, stopped, rfl⟩ := Option.map_eq_some_iff.mp h
  obtain ⟨x, rfl⟩ := Value.toDouble?_finite started
  obtain ⟨y, rfl⟩ := Value.toDouble?_finite stopped
  exact ⟨x, y, rfl⟩

/-- Whether two pulses overlap is whether each starts before the other one stops. -/
theorem meet_iff_crosses (h : r.PulseWired n (r.firstParam n)) (h' : r.PulseWired m (r.firstParam m)) :
    Pulse.intervalsMeet (r.times n) (r.times m) = true ↔ Pulse.Crosses r n m := by
  constructor
  · intro meet
    cases mine : r.times n with
    | none =>
      rw [mine] at meet
      cases meet
    | some span =>
      cases theirs : r.times m with
      | none =>
        rw [mine, theirs] at meet
        cases meet
      | some span' =>
        obtain ⟨start, stop, rfl⟩ := times_finite mine
        obtain ⟨start', stop', rfl⟩ := times_finite theirs
        rw [mine, theirs] at meet
        obtain ⟨first, second⟩ := Bool.and_eq_true_iff.mp meet
        exact ⟨start, stop, start', stop', h.spans_iff.mpr mine, h'.spans_iff.mpr theirs,
          FiniteDouble.toRat_lt.mpr (of_decide_eq_true first),
          FiniteDouble.toRat_lt.mpr (of_decide_eq_true second)⟩
  · rintro ⟨start, stop, start', stop', spans, spans', first, second⟩
    rw [h.spans_iff.mp spans, h'.spans_iff.mp spans']
    exact Bool.and_eq_true_iff.mpr ⟨decide_eq_true (FiniteDouble.toRat_lt.mp first),
      decide_eq_true (FiniteDouble.toRat_lt.mp second)⟩

end Registry.PulseWired

namespace Pulse

variable {r : Registry} {n m : NodeId} {log : Log} {now : Instant}

private theorem EmptyWithin.crosses (h : EmptyWithin r n m) : Crosses r n m := by
  obtain ⟨start, stop, start', stop', spans, spans', -, second, first⟩ := h
  exact ⟨start, stop, start', stop', spans, spans', first, second⟩

private theorem Crosses.symm (h : Crosses r n m) : Crosses r m n := by
  obtain ⟨start, stop, start', stop', spans, spans', first, second⟩ := h
  exact ⟨start', stop', start, stop, spans', spans, second, first⟩

/-- Overlapping is symmetric. It tells whether the pulses have a time in common if and only if neither
of them lasts no time and lies within the other. -/
theorem overlaps_iff_common_time (operated : Operated log now r) (pulse : r.isPulse n = true)
    (pulse' : r.isPulse m = true) (alive : r.isAlive n = true) (alive' : r.isAlive m = true) :
    ∃ overlap, (overlaps n m r).1 = .ok overlap ∧ (overlaps m n r).1 = .ok overlap ∧
      ((overlap = true ↔ ∃ t, Covers r n t ∧ Covers r m t) ↔
        ¬ EmptyWithin r n m ∧ ¬ EmptyWithin r m n) := by
  have wired := (operated.intact.pulse n pulse).wired alive
  have wired' := (operated.intact.pulse m pulse').wired alive'
  obtain ⟨_, run, -⟩ := wired.overlaps_rereads wired'
  obtain ⟨_, run', -⟩ := wired'.overlaps_rereads wired
  rw [intervalsMeet_comm] at run'
  refine ⟨intervalsMeet (r.times n) (r.times m), by rw [run], by rw [run'], ?_⟩
  · rw [wired.meet_iff_crosses wired', exists_common_iff]
    refine ⟨fun exact => ⟨fun empty => ?_, fun empty => ?_⟩, fun lasting => ?_⟩
    · exact (exact.mp empty.crosses).2.1 empty
    · exact (exact.mp empty.crosses.symm).2.2 empty
    · exact ⟨fun crosses => ⟨crosses, lasting⟩, And.left⟩

/-- A pulse from zero to two and one from one to three overlap, and they have a time in common. -/
theorem overlaps_with_common_time :
    let plan (name : String) (start : Integer) : PulsePlan := {
      name := some name
      start := some (.ofInteger start)
      duration := some (.ofInteger { val := 2 }) }
    let made := (Activity.sequence (.createPulse "a" (plan "a" { val := 0 }))).run (start {} default)
    let r := (Activity.sequence (.createPulse "b" (plan "b" { val := 1 }))).run made
    (overlaps ⟨0⟩ ⟨1⟩ r).1.toOption = some true ∧ ∃ t, Covers r ⟨0⟩ t ∧ Covers r ⟨1⟩ t := by
  intro plan made r
  have operated : Operated {} default r := .step _ (.step _ .start nofun) nofun
  obtain ⟨overlap, run, -, exact⟩ := overlaps_iff_common_time (n := ⟨0⟩) (m := ⟨1⟩) operated
    (by decide +kernel) (by decide +kernel) (by decide +kernel) (by decide +kernel)
  have found : (overlaps ⟨0⟩ ⟨1⟩ r).1.toOption = some true := by decide +kernel
  have lasts (n : NodeId) (ordered : ((start? n r).1.toOption.join.bind fun start =>
      (stop? n r).1.toOption.join.map start.lt) = some true) (m : NodeId) : ¬ EmptyWithin r n m := by
    rintro ⟨start, stop, start', stop', spans, -, empty, -⟩
    rw [spans.1, spans.2] at ordered
    have before := Option.some.inj ordered
    exact not_lt.mpr empty (FiniteDouble.toRat_lt.mpr (of_decide_eq_true before))
  refine ⟨found, (exact.mpr ⟨lasts ⟨0⟩ (by decide +kernel) _, lasts ⟨1⟩ (by decide +kernel) _⟩).mp ?_⟩
  rw [run] at found
  exact Option.some.inj found

/-- A pulse at time one that lasts no time overlaps with one from zero to two, and they have no time in
common. -/
theorem overlaps_without_common_time :
    let plan (name : String) (start duration : Integer) : PulsePlan := {
      name := some name
      start := some (.ofInteger start)
      duration := some (.ofInteger duration) }
    let empty := plan "a" { val := 1 } { val := 0 }
    let made := (Activity.sequence (.createPulse "a" empty)).run (start {} default)
    let r := (Activity.sequence (.createPulse "b" (plan "b" { val := 0 } { val := 2 }))).run made
    (overlaps ⟨0⟩ ⟨1⟩ r).1.toOption = some true ∧ ¬ ∃ t, Covers r ⟨0⟩ t ∧ Covers r ⟨1⟩ t := by
  intro plan empty made r
  refine ⟨by decide +kernel, ?_⟩
  rintro ⟨t, ⟨start, stop, spans, after, before⟩, -⟩
  have same : (start? ⟨0⟩ r).1.toOption = (stop? ⟨0⟩ r).1.toOption := by decide +kernel
  rw [spans.1, spans.2] at same
  cases same
  exact not_lt.mpr after before

end Pulse
end LabRegistry

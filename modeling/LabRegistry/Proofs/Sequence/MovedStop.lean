import LabRegistry.Proofs.Pulse.Given
import LabRegistry.Proofs.Sequence.History
import LabRegistry.Proofs.Sequence.Operated
import LabRegistry.Proofs.Sequence.Stops
import LabRegistry.Proofs.Validation.Bounds

/-!
# Moving the stop of a pulse

The sequences of a pulse hear of its stop and renew their durations, which leaves the pulse as it is. So
if nobody else hears of it, setting the stop gives the pulse the duration that ends there, or it fails and
changes nothing. With integers the stop is met exactly.
-/
namespace LabRegistry

open Registry

variable {r after : Registry} {n m : NodeId} {p : ParamId} {t : SequenceId} {fuel : Nat} {v : Value}
  {log : Log} {now : Instant}

namespace Registry

namespace PulseWired

variable (h : r.PulseWired n (r.firstParam n))

include h

private theorem leaves_of_reread (same : r.Reread after) : r.Leaves n after where
  wiring := same.wiring
  value i hi other := by
    have planned := List.getElem?_eq_getElem (show i < Pulse.plans.length from hi)
    refine (same.value_of_owner (h.fitted.owner planned)).resolve_right fun ⟨stop, _⟩ => other ?_
    rw [stopOf, Pulse.stopAt, ParamId.mk.injEq] at stop
    omega
  current current := by
    rw [StopCurrent, same.wiring.firstParam, same.wiring.stopOf, h.stopValue_reread same]
    rcases same.value_of_owner (h.fitted.owner (i := 3) rfl) with kept | ⟨-, value⟩
    · exact kept.trans current
    · exact value

private theorem leaves_of_took (took : r.Took p v after) (owner : (r.param p).owner = some m)
    (other : m ≠ n) :
    r.Leaves n after := by
  have away (i : Nat) (hi : i < 5) :
      (after.param ⟨r.firstParam n + i⟩).value = (r.param ⟨r.firstParam n + i⟩).value := by
    have planned := List.getElem?_eq_getElem (show i < Pulse.plans.length from hi)
    refine took.others _ ?_
    rintro rfl
    rw [h.fitted.owner planned] at owner
    exact other (Option.some.inj owner).symm
  exact ⟨took.wiring, fun i hi _ => away i hi,
    fun current => took.wiring.stopCurrent current fun i _ hi => away i (by omega)⟩

end PulseWired

/-! ## Sequences that hear of a stop -/

namespace Intact

variable (h : r.Intact) (ht : t.index < r.sequences.size)
  (unheard : (r.param (r.durationOf t)).listeners = [])

include h

private theorem duration_getter_rereads (alive : r.isAlive (r.nodeOf t) = true) :
    ∃ v, ∀ fuel, 3 ≤ fuel → (t.duration (engine fuel) (r.nodeOf t)).Rereads r v := by
  cases fixed : (r.sequence t).fixedDuration with
  | none =>
    obtain ⟨x, -, called⟩ := h.duration_rereads alive fixed
    exact ⟨_, called⟩
  | some duration =>
    refine ⟨.ofDouble duration, fun fuel _ => ?_⟩
    rw [Act.Rereads, duration_getter_run, fixed]
    exact Act.Rereads.pure _

include ht unheard

private theorem refresher_run (wired : r.PulseWired n (r.firstParam n)) (enough : 6 ≤ fuel)
    (v : Value) :
    ∃ after, ParamId.tell (engine fuel) v (r.refresher t) r = (.ok (), after) ∧ r.Leaves n after := by
  obtain ⟨fuel, rfl⟩ : ∃ k, fuel = k + 3 := ⟨fuel - 3, by omega⟩
  have sequence := h.sequence t ht
  have owner : (r.param (r.durationOf t)).owner = some (r.nodeOf t) := sequence.fitted.owner (i := 2) rfl
  cases alive : r.isAlive (r.nodeOf t) with
  | false =>
    have gone : r.owner? (r.durationOf t) = none := by
      rw [Registry.owner?, owner, Option.filter_some, alive, if_neg Bool.false_ne_true]
    exact ⟨r, ParamId.tell_refreshOwned_of_dead gone v, refl r⟩
  | true =>
    have delegate : ((r.node (r.nodeOf t)).delegatesFor "duration").getter =
        some (.sequenceDuration t) := congrArg (·.getter) sequence.delegates
    obtain ⟨x, called⟩ := h.duration_getter_rereads alive
    obtain ⟨mid, after, same, took, got⟩ := sequence.fitted.getWith_run_of_owner (i := 2) rfl alive rfl
      rfl delegate (called fuel (by omega))
    have silent : (after.param (r.durationOf t)).listeners = [] := by
      rw [took.wiring.listeners, same.wiring.listeners, unheard]
    have updated : engine (fuel + 2) (.update (r.durationOf t)) r = (.ok x, after) :=
      ParamId.updateWith_silent got silent
    have other : r.nodeOf t ≠ n := by
      intro node
      have noPulse := sequence.isPulse_eq_false
      rw [node, isPulse_of_config wired.config] at noPulse
      cases noPulse
    have kept : (mid.param (r.durationOf t)).owner = some (r.nodeOf t) :=
      (congrArg (·.owner) (same.wiring.params _)).trans owner
    exact ⟨after, ParamId.tell_refreshOwned (sequence.fitted.owner? (i := 2) rfl alive) updated v,
      IsTrans.trans _ _ _ (wired.leaves_of_reread same)
        ((same.wiring.pulseWired wired).leaves_of_took took kept other)⟩

end Intact

/-- Nobody hears of the duration and the stop of a pulse but the pulse itself and sequences of whose
durations nobody hears. -/
structure HeardByOwn (r : Registry) (n : NodeId) : Prop where
  duration : r.OnlyFeeds n 2
  stop : ∀ entry ∈ (r.param (r.stopOf n)).listeners, ∃ t : SequenceId, t.index < r.sequences.size ∧
    entry.2 = r.refresher t ∧ (r.param (r.durationOf t)).listeners = []

private theorem Arranged.heardByOwn {pulses : Set NodeId} (h : r.Arranged ∅ pulses)
    (hn : n ∈ pulses) :
    r.HeardByOwn n where
  duration := (h.pulse n hn).onlyFeeds (by decide) (by decide)
  stop entry mem := by
    obtain ⟨t, ht, told⟩ := Arranged.onlyRefreshes h hn entry mem
    exact ⟨t, ht, told, (h.sequence t ht).silent 2 (by decide)⟩

private theorem HeardByOwn.calm (own : r.HeardByOwn n) (intact : r.Intact)
    (wired : r.PulseWired n (r.firstParam n)) : r.Calm n := by
  intro mid fuel same enough
  refine ParamId.tell_all_leaves fun entry mem mid' same' => ?_
  have wiring : r.SameWiring mid' := IsTrans.trans _ _ _ same same'
  rw [same.stopOf, same.listeners] at mem
  obtain ⟨t, ht, listener, unheard⟩ := own.stop entry mem
  have duration : mid'.durationOf t = r.durationOf t :=
    durationOf_of_node (wiring.nodeOf t) (by rw [wiring.nodes.node])
  rw [listener, refresher, ← duration]
  exact (wiring.intact intact).refresher_run (wiring.sequences ▸ ht)
    (by rw [duration, wiring.listeners, unheard]) (wiring.pulseWired wired) enough _

end Registry
end LabRegistry

import LabRegistry.Proofs.Double.Order
import LabRegistry.Proofs.Sequence.Operated
import LabRegistry.Proofs.Sequence.Stops
import LabRegistry.Proofs.Sorting
import LabRegistry.Sequence.Selection

/-!
# Pulses in the order of their starts

The enabled pulses of a sequence come in the order of their starts, and where the starts give no order
they come as they were added. The list of starts is made in another way, which sorts the starts without
the pulses and leaves out missing ones, and has the same starts in the same order.
-/
namespace LabRegistry

open Registry

variable {r after : Registry} {n : NodeId} {s : SequenceId} {log : Log} {now : Instant}

namespace Registry

def start? (r : Registry) (n : NodeId) : Option Double := (r.cached n "t_start").toDouble?

def sortedStart (r : Registry) (n : NodeId) : Double := (r.start? n).getD (.infinite false)

/-- Sorting by starts may leave the first pulse before the second one. -/
def startsBefore (r : Registry) (n m : NodeId) : Bool := (r.sortedStart n).totalLe (r.sortedStart m)

private theorem startsBefore_trans (r : Registry) (n m k : NodeId) (h : r.startsBefore n m = true)
    (h' : r.startsBefore m k = true) : r.startsBefore n k = true :=
  Double.totalLe_trans _ _ _ h h'

private theorem startsBefore_total (r : Registry) (n m : NodeId) :
    (r.startsBefore n m || r.startsBefore m n) = true :=
  Double.totalLe_total _ _

/-- The enabled pulses of a sequence as they were added, each once for every name that it has there. -/
def enabledMembers (r : Registry) (s : SequenceId) : List NodeId :=
  (r.pulses (r.nodeOf s)).filter r.isEnabled

/-- The enabled pulses of a sequence in the order of their starts. -/
def startOrder (r : Registry) (s : SequenceId) : List NodeId :=
  (r.enabledMembers s).mergeSort r.startsBefore

end Registry

/-- The order of starts, in which a missing one is the last. -/
def StartsBy : Option Double → Option Double → Prop
  | some x, some y => x.totalLe y = true
  | none, some _ => False
  | _, none => True

namespace Registry

private theorem startsBy_of_startsBefore {m : NodeId} (h : r.startsBefore n m = true) :
    StartsBy (r.start? n) (r.start? m) := by
  cases theirs : r.start? m with
  | none => cases r.start? n <;> trivial
  | some y =>
    cases mine : r.start? n with
    | some x => rwa [startsBefore, sortedStart, mine, sortedStart, theirs] at h
    | none =>
      obtain ⟨y, rfl⟩ := Value.toDouble?_finite theirs
      rw [startsBefore, sortedStart, mine, sortedStart, theirs] at h
      cases h

private theorem startOrder_pairwise (r : Registry) (s : SequenceId) :
    (r.startOrder s).Pairwise fun n m => StartsBy (r.start? n) (r.start? m) :=
  (List.pairwise_mergeSort r.startsBefore_trans r.startsBefore_total _).imp startsBy_of_startsBefore

private theorem startOrder_stable (r : Registry) (s : SequenceId) (start : Option Double) :
    (r.startOrder s).filter (r.start? · = start) = (r.enabledMembers s).filter (r.start? · = start) := by
  refine filter_mergeSort r.startsBefore_trans r.startsBefore_total fun n m hn hm => ?_
  have same : r.sortedStart n = r.sortedStart m := by
    rw [sortedStart, of_decide_eq_true hn, sortedStart, of_decide_eq_true hm]
  have either := r.startsBefore_total n m
  rw [startsBefore, startsBefore, same, Bool.or_self] at either
  rwa [startsBefore, same]

private theorem filterMap_startOrder (r : Registry) (s : SequenceId) :
    (r.startOrder s).filterMap r.start? =
      ((r.pulses (r.nodeOf s)).filterMap (r.activeTime "t_start")).mergeSort Double.totalLe := by
  have starts : (r.pulses (r.nodeOf s)).filterMap (r.activeTime "t_start") =
      (r.enabledMembers s).filterMap r.start? := by
    rw [enabledMembers, List.filterMap_filter]
    rfl
  rw [starts]
  refine Double.eq_mergeSort ((List.mergeSort_perm _ _).filterMap _) ?_
  refine List.pairwise_filterMap.mpr ((r.startOrder_pairwise s).imp fun startsBy x hx y hy => ?_)
  rwa [hx, hy] at startsBy

/-- The order does not depend on what the caches of the stops hold. -/
theorem startOrder_reread (all : ∀ n ∈ r.pulses (r.nodeOf s), r.PulseWired n (r.firstParam n))
    (same : r.Reread after) : after.startOrder s = r.startOrder s := by
  have members : after.enabledMembers s = r.enabledMembers s := by
    rw [enabledMembers, same.wiring.nodeOf, same.wiring.nodes.pulses, enabledMembers]
    exact List.filter_congr fun n mem => (all n mem).isEnabled_reread same
  have start (n : NodeId) (mem : n ∈ r.enabledMembers s) : after.sortedStart n = r.sortedStart n := by
    rw [sortedStart, start?, (all n (List.mem_filter.mp mem).1).cached_reread same (by decide),
      sortedStart, start?]
  rw [startOrder, members, startOrder]
  refine mergeSort_congr fun n hn m hm => ?_
  rw [startsBefore, start n hn, start m hm, startsBefore]

namespace SameState

variable (h : r.SameState after)

include h

private theorem start? (n : NodeId) : after.start? n = r.start? n := by
  rw [Registry.start?, h.cached, Registry.start?]

private theorem sortedStart (n : NodeId) : after.sortedStart n = r.sortedStart n := by
  rw [Registry.sortedStart, h.start?, Registry.sortedStart]

end SameState
end Registry

namespace SequenceId

private theorem enabledStarts_reads {members : List NodeId}
    (h : ∀ n ∈ members, r.PulseWired n (r.firstParam n)) : (enabledStarts members).Reads r
      ((members.filter r.isEnabled).map fun n => (r.sortedStart n, n)) False := by
  induction members generalizing r with
  | nil => exact .pure _
  | cons n rest ih =>
    -- The rest is read after the start of the first one was.
    have others {mid : Registry} (same : r.SameState mid) : (enabledStarts rest).Reads mid
        ((rest.filter r.isEnabled).map fun n => (r.sortedStart n, n)) False := by
      have reads := @ih mid fun m mem =>
        same.wiring.pulseWired (h m (List.mem_cons_of_mem _ mem))
      simpa only [funext same.isEnabled, same.sortedStart] using reads
    refine .bind (x := r.isEnabled n) (.of_run (h n List.mem_cons_self).isEnabled_run) fun mid same => ?_
    rw [List.filter_cons]
    cases r.isEnabled n with
    | false => exact others same
    | true =>
      have read : (n.get "t_start").Reads mid (r.cached n "t_start") False := by
        rw [← same.cached]
        exact (same.wiring.pulseWired (h n List.mem_cons_self)).get_reads (i := 1) rfl (by decide)
      have start : (Pulse.start? n).Reads mid (r.start? n) False := .bind read.lift fun _ _ => .pure _
      exact .bind start fun mid' same' =>
        .bind (others (IsTrans.trans _ _ _ same same')) fun _ _ => .pure _

theorem enabledPulses_reads (intact : r.Intact) (alive : r.isAlive (r.nodeOf s) = true) :
    s.enabledPulses.Reads r (r.startOrder s) False := by
  refine .bind (x := r.pulses (r.nodeOf s)) (.of_run rfl) fun mid same => ?_
  have starts := enabledStarts_reads fun n mem =>
    same.wiring.pulseWired (intact.wired_of_mem_pulses alive mem)
  simp only [funext same.isEnabled, same.sortedStart] at starts
  refine .bind starts fun _ _ => ?_
  rw [map_snd_mergeSort]
  exact .pure _

end SequenceId

namespace Registry

/-- The starts of the enabled pulses, in ascending order. -/
theorem Intact.get_startList_run (intact : r.Intact) (hs : s.index < r.sequences.size)
    (alive : r.isAlive (r.nodeOf s) = true) : ∃ after, (r.nodeOf s).get "t_start_list" r =
      (.ok (.array (((r.startOrder s).filterMap r.start?).map .ofDouble)), after) := by
  have sequence := intact.sequence s hs
  have delegate : ((r.node (r.nodeOf s)).delegatesFor "t_start_list").getter =
      some (.pulseTimes "t_start") := sequence.lists "t_start" (by decide)
  refine sequence.fitted.get_run_of_owner (i := 3) rfl alive rfl rfl delegate fun fuel enough => ?_
  have listed : (do return .array ((← (r.nodeOf s).pulseTimes (engine fuel) "t_start").map .ofDouble) :
      Act RegistryError Value).Rereads r
      (.array (((r.startOrder s).filterMap r.start?).map .ofDouble)) := by
    rw [filterMap_startOrder]
    exact .bind (intact.pulseTimes_rereads alive (i := 1) rfl enough) fun _ _ => .pure _
  exact listed

end Registry
end LabRegistry

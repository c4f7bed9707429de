import LabRegistry.Proofs.Engine.Effects
import Mathlib.Data.List.Nodup

/-!
# What requests leave of parameters

Apart from its cache and its listeners a parameter stays as it is. Numbers of listeners are never
given out twice, so a listener that is gone does not come back.
-/
namespace LabRegistry

namespace Parameter

def uncached (param : Parameter) : Parameter :=
  { param with value := .null, raw := .null, stamp := none }

def setup (param : Parameter) : Parameter :=
  { param.uncached with listeners := [], nextListener := 0 }

/-- The parameter as it is whether it logs its changes or not. -/
def muted (param : Parameter) : Parameter := { param with logsChanges := false }

@[simp] theorem setup_addListener (param : Parameter) (listener : Listener) :
    (param.addListener listener).setup = param.setup := rfl

@[simp] theorem setup_removeListener (param : Parameter) (id : ListenerId) :
    (param.removeListener id).setup = param.setup := rfl

@[simp] theorem setup_clearListeners (param : Parameter) :
    param.clearListeners.setup = param.setup := rfl

/-- Listeners are numbered in the order in which they come. -/
structure Numbered (param : Parameter) : Prop where
  below : ∀ entry ∈ param.listeners, entry.1.number < param.nextListener
  once : (param.listeners.map (·.1)).Nodup

namespace Numbered

variable {param : Parameter}

theorem of_unheard (unheard : param.listeners = []) : param.Numbered where
  below := by
    rw [unheard]
    exact nofun
  once := by
    rw [unheard]
    exact .nil

variable (h : param.Numbered)

include h

theorem of_same {after : Parameter} (listeners : after.listeners = param.listeners)
    (next : after.nextListener = param.nextListener) : after.Numbered where
  below := by
    rw [listeners, next]
    exact h.below
  once := by
    rw [listeners]
    exact h.once

theorem addListener (listener : Listener) : (param.addListener listener).Numbered where
  below entry mem := by
    rcases List.mem_append.mp mem with old | new
    · exact Nat.lt_succ_of_lt (h.below entry old)
    · obtain rfl := List.mem_singleton.mp new
      exact Nat.lt_succ_self _
  once := by
    rw [Parameter.addListener, List.map_append, List.map_singleton]
    refine List.nodup_append.mpr ⟨h.once, List.nodup_singleton _, ?_⟩
    intro id old other new same
    obtain ⟨entry, mem, rfl⟩ := List.mem_map.mp old
    have before := h.below entry mem
    rw [same, List.mem_singleton.mp new] at before
    exact Nat.lt_irrefl _ before

theorem removeListener (id : ListenerId) : (param.removeListener id).Numbered where
  below entry mem := h.below entry (List.mem_of_mem_filter mem)
  once := h.once.sublist (List.filter_sublist.map _)

end Numbered

end Parameter

namespace Registry

/-- The same parameters, which differ in their caches and listeners only. -/
structure SameSetups (r after : Registry) : Prop where
  size : after.params.size = r.params.size
  setup : ∀ p, (after.param p).setup = (r.param p).setup

instance : IsPreorder Registry SameSetups where
  refl _ := ⟨rfl, fun _ => rfl⟩
  trans _ _ _ h h' := ⟨h'.size.trans h.size, fun p => (h'.setup p).trans (h.setup p)⟩

variable {r after : Registry}

private theorem SameSetups.of_params (h : after.params = r.params) : r.SameSetups after :=
  ⟨by rw [h], fun p => by rw [param, h, param]⟩

theorem SameSetups.of_change {p : ParamId} {f : Parameter → Parameter}
    (h : ∀ param, (f param).setup = param.setup) :
    r.SameSetups { r with params := r.params.change p.index f } where
  size := Arena.size_change _ _ _
  setup q := by
    rw [param_change]
    split
    · exact h _
    · rfl

section

variable (h : r.SameSetups after) (p : ParamId)

include h

theorem SameSetups.name : (after.param p).name = (r.param p).name :=
  congrArg (·.name) (h.setup p)

theorem SameSetups.unit : (after.param p).unit = (r.param p).unit :=
  congrArg (·.unit) (h.setup p)

theorem SameSetups.setSource : (after.param p).setSource = (r.param p).setSource :=
  congrArg (·.setSource) (h.setup p)

theorem SameSetups.inSnapshot : (after.param p).inSnapshot = (r.param p).inSnapshot :=
  congrArg (·.inSnapshot) (h.setup p)

end

end Registry

theorem Effect.sameSetups {r after : Registry} (h : Effect r after) : r.SameSetups after := by
  cases h with
  | cache => exact .of_change fun _ => rfl
  | stamp => exact .of_change fun _ => rfl
  | listen => exact .of_change fun _ => rfl
  | disconnect => exact .of_change fun _ => rfl
  | disconnectAll => exact .of_change fun _ => rfl
  | _ => exact .of_params rfl

theorem Effects.sameSetups {r after : Registry} (h : Effects r after) : r.SameSetups after := by
  induction h with
  | refl => exact refl r
  | tail _ effect ih => exact IsTrans.trans _ _ _ ih effect.sameSetups

end LabRegistry

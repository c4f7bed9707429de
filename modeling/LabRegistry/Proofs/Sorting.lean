/-!
# Sorted lists

Sorting is stable and looks at nothing but how the elements compare.
-/
namespace LabRegistry

/-- Sorting leaves those elements in their order that are all in order with each other. -/
theorem filter_mergeSort {α : Type} {le : α → α → Bool} {p : α → Bool} {xs : List α}
    (trans : ∀ x y z, le x y = true → le y z = true → le x z = true)
    (total : ∀ x y, (le x y || le y x) = true)
    (tied : ∀ x y, p x = true → p y = true → le x y = true) :
    (xs.mergeSort le).filter p = xs.filter p := by
  have ordered : (xs.filter p).Pairwise fun x y => le x y = true :=
    (List.pairwise_filter (R := fun x y => le x y = true)).mpr
      (List.pairwise_of_forall fun x y hx hy => tied x y hx hy)
  have within : (xs.filter p).Sublist (xs.mergeSort le) :=
    List.sublist_mergeSort trans total ordered List.filter_sublist
  have filtered := within.filter p
  simp only [List.filter_filter, Bool.and_self] at filtered
  exact (filtered.eq_of_length ((xs.mergeSort_perm le).filter p).length_eq.symm).symm

/-- Sorting by keys does not depend on how the keys are carried along. -/
theorem map_snd_mergeSort {α κ : Type} (key : α → κ) (le : κ → κ → Bool) (xs : List α) :
    ((xs.map fun x => (key x, x)).mergeSort fun a b => le a.1 b.1).map (·.2) =
      xs.mergeSort fun x y => le (key x) (key y) := by
  have tagged : (xs.mergeSort fun x y => le (key x) (key y)).map (fun x => (key x, x)) =
      (xs.map fun x => (key x, x)).mergeSort fun a b => le a.1 b.1 :=
    List.map_mergeSort fun _ _ _ _ => rfl
  rw [← tagged, List.map_map]
  exact List.map_id _

theorem mergeSort_congr {α : Type} {le le' : α → α → Bool} {xs : List α}
    (same : ∀ x ∈ xs, ∀ y ∈ xs, le x y = le' x y) : xs.mergeSort le = xs.mergeSort le' := by
  have mapped := List.map_mergeSort (f := id) same
  rwa [List.map_id, List.map_id] at mapped

end LabRegistry

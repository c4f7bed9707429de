/-!
# Arenas

An arena keeps every object ever made at the index at which it was made, so that objects can
refer to each other by index. An index that was never given out reads as the default object.
-/
namespace LabRegistry

structure Arena (α : Type) where
  cells : Array α := #[]

namespace Arena

variable {α : Type}

instance : Inhabited (Arena α) := ⟨{}⟩

def size (arena : Arena α) : Nat := arena.cells.size

def get [Inhabited α] (arena : Arena α) (index : Nat) : α := arena.cells.getD index default

/-- Changes the object at an index; nothing happens at an index never given out. -/
def change (arena : Arena α) (index : Nat) (f : α → α) : Arena α :=
  ⟨arena.cells.modify index f⟩

/-- Adds an object; its index is the former size. -/
def push (arena : Arena α) (object : α) : Arena α := ⟨arena.cells.push object⟩

@[simp] theorem size_change (arena : Arena α) (index : Nat) (f : α → α) :
    (arena.change index f).size = arena.size := by
  simp [change, size]

@[simp] theorem size_push (arena : Arena α) (object : α) :
    (arena.push object).size = arena.size + 1 := by
  simp [push, size]

theorem get_change_self [Inhabited α] {arena : Arena α} {index : Nat} (h : index < arena.size)
    (f : α → α) : (arena.change index f).get index = f (arena.get index) := by
  simp only [size] at h
  simp [get, change, Array.getD, h, Array.getElem_modify]

theorem get_change_of_ne [Inhabited α] {i j : Nat} (h : i ≠ j) (arena : Arena α) (f : α → α) :
    (arena.change i f).get j = arena.get j := by
  by_cases hj : j < arena.cells.size
  · simp [get, change, Array.getD, hj, Array.getElem_modify, h]
  · simp [get, change, Array.getD, hj]

theorem get_change [Inhabited α] (arena : Arena α) (i j : Nat) (f : α → α) :
    (arena.change i f).get j = if i = j ∧ i < arena.size then f (arena.get j) else arena.get j := by
  by_cases same : i = j
  · subst same
    by_cases inside : i < arena.size
    · simp [get_change_self inside, inside]
    · have outside : ¬ i < arena.cells.size := inside
      simp [get, change, Array.getD, size, outside]
  · simp [get_change_of_ne same, same]

theorem change_congr [Inhabited α] {arena : Arena α} {index : Nat} {f g : α → α}
    (h : f (arena.get index) = g (arena.get index)) :
    arena.change index f = arena.change index g := by
  simp only [change, mk.injEq]
  apply Array.ext
  · simp
  · intro i hi _
    simp only [Array.size_modify] at hi
    simp only [Array.getElem_modify]
    split
    case isTrue same =>
      subst same
      simpa [get, Array.getD, hi] using h
    case isFalse => rfl

theorem change_eq_self [Inhabited α] {arena : Arena α} {index : Nat} {f : α → α}
    (h : f (arena.get index) = arena.get index) : arena.change index f = arena := by
  rw [change_congr (g := id) h]
  obtain ⟨cells⟩ := arena
  simp only [change, mk.injEq]
  apply Array.ext
  · simp
  · intro i _ _
    simp [Array.getElem_modify]

theorem get_push_of_lt [Inhabited α] {arena : Arena α} {index : Nat} (h : index < arena.size)
    (object : α) : (arena.push object).get index = arena.get index := by
  simp only [size] at h
  simp [get, push, Array.getD, h, Nat.lt_succ_of_lt h, Array.getElem_push]

@[simp] theorem get_push_size [Inhabited α] (arena : Arena α) (object : α) :
    (arena.push object).get arena.size = object := by
  simp [get, push, size, Array.getD]

theorem get_push [Inhabited α] (arena : Arena α) (index : Nat) (object : α) :
    (arena.push object).get index = if index = arena.size then object else arena.get index := by
  split
  case isTrue last =>
    rw [last, get_push_size]
  case isFalse other =>
    by_cases inside : index < arena.size
    · exact get_push_of_lt inside object
    · simp only [size] at inside other
      have beyond : ¬ index < arena.cells.size + 1 := by omega
      simp [get, push, Array.getD, inside, beyond]

end Arena
end LabRegistry

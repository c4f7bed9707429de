import LabRegistry.Text.Blank
import Mathlib.Data.List.TakeWhile

/-!
# Trimmed text

Trimming takes white space away at both ends and nothing else. What is left is the only part of a
text with nothing but white space around it and none at its ends, so white space that is added
around a text does not change it.
-/
namespace LabRegistry.Text

def Blank (chars : List Char) : Prop := ∀ c ∈ chars, isBlank c = true

/-- There is only white space around the core, and none at its ends. -/
structure Trims (chars core : List Char) : Prop where
  around : ∃ left right, chars = left ++ core ++ right ∧ Blank left ∧ Blank right
  first : ∀ c ∈ core.head?, isBlank c = false
  last : ∀ c ∈ core.getLast?, isBlank c = false

variable {chars core left right : List Char}

private theorem Blank.reverse (h : Blank chars) : Blank chars.reverse :=
  fun c mem => h c (List.mem_reverse.mp mem)

private theorem trimLeft_blank_append (h : Blank left) :
    trimLeft (left ++ chars) = trimLeft chars :=
  List.dropWhile_append_of_pos h

private theorem trimRight_append_blank (h : Blank right) :
    trimRight (chars ++ right) = trimRight chars := by
  rw [trimRight, List.reverse_append, List.dropWhile_append_of_pos h.reverse, trimRight]

private theorem trimLeft_blank (h : Blank chars) : trimLeft chars = [] := by
  rw [trimLeft, List.dropWhile_eq_nil_iff]
  exact h

/-- White space around a text does not matter. -/
theorem trim_pad (chars : List Char) (hleft : Blank left) (hright : Blank right) :
    trim (left ++ chars ++ right) = trim chars := by
  rw [List.append_assoc, trim, trimLeft_blank_append hleft, trim]
  by_cases rest : trimLeft chars = []
  · have blank : Blank chars := List.dropWhile_eq_nil_iff.mp rest
    rw [trimLeft_blank_append blank, trimLeft_blank hright, rest]
  · have inside : trimLeft (chars ++ right) = trimLeft chars ++ right := by
      rw [trimLeft, List.dropWhile_append, if_neg, ← trimLeft]
      rwa [List.isEmpty_iff]
    rw [inside, trimRight_append_blank hright]

private theorem trimLeft_eq_self (first : ∀ c ∈ core.head?, isBlank c = false) :
    trimLeft core = core := by
  cases core with
  | nil => rfl
  | cons c rest => exact List.dropWhile_cons_of_neg (by simp [first c rfl])

private theorem trimRight_eq_self (last : ∀ c ∈ core.getLast?, isBlank c = false) :
    trimRight core = core := by
  rw [trimRight, ← trimLeft, trimLeft_eq_self, List.reverse_reverse]
  rwa [List.head?_reverse]

theorem Trims.trim_eq (h : Trims chars core) : trim chars = core := by
  obtain ⟨left, right, rfl, hleft, hright⟩ := h.around
  rw [trim_pad core hleft hright, trim, trimLeft_eq_self h.first, trimRight_eq_self h.last]

private theorem exists_trimLeft (chars : List Char) :
    ∃ left, chars = left ++ trimLeft chars ∧ Blank left :=
  ⟨chars.takeWhile isBlank, List.takeWhile_append_dropWhile.symm, fun _ => List.mem_takeWhile_imp⟩

private theorem exists_trimRight (chars : List Char) :
    ∃ right, chars = trimRight chars ++ right ∧ Blank right := by
  obtain ⟨left, split, blank⟩ := exists_trimLeft chars.reverse
  refine ⟨left.reverse, ?_, blank.reverse⟩
  rw [trimRight, ← trimLeft, ← List.reverse_append, ← split, List.reverse_reverse]

private theorem head?_trimLeft (chars : List Char) :
    ∀ c ∈ (trimLeft chars).head?, isBlank c = false := by
  intro c mem
  rw [trimLeft, Option.mem_def] at mem
  have stop := List.head?_dropWhile_not isBlank chars
  rw [mem] at stop
  exact stop

theorem trims_trim (chars : List Char) : Trims chars (trim chars) := by
  obtain ⟨left, cut, hleft⟩ := exists_trimLeft chars
  obtain ⟨right, split, hright⟩ := exists_trimRight (trimLeft chars)
  refine ⟨⟨left, right, ?_, hleft, hright⟩, ?_, ?_⟩
  · rw [trim, List.append_assoc, ← split, ← cut]
  · intro c mem
    have leading : (trimLeft chars).head? = some c := by
      rw [split, List.head?_append]
      exact congrArg (Option.or · _) mem
    exact head?_trimLeft chars c leading
  · intro c mem
    rw [trim, trimRight, List.getLast?_reverse] at mem
    exact head?_trimLeft _ c mem

end LabRegistry.Text

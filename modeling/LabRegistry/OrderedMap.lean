/-!
# Maps in insertion order

A map from names lists its entries in the order in which their names were first inserted:
replacing a value keeps its place, and erasing closes the gap. No name occurs twice.
-/
namespace LabRegistry

/-! ## Lists of named entries -/

namespace Entries

variable {α : Type}

/-- Replaces the value of `key` in place, or appends it. -/
def insert (key : String) (value : α) : List (String × α) → List (String × α)
  | [] => [(key, value)]
  | (k, v) :: rest => if k = key then (k, value) :: rest else (k, v) :: insert key value rest

def get? (key : String) : List (String × α) → Option α
  | [] => none
  | (k, v) :: rest => if k = key then some v else get? key rest

def keys (entries : List (String × α)) : List String := entries.map Prod.fst

theorem get?_insert (key k : String) (value : α) (entries : List (String × α)) :
    get? k (insert key value entries) = if k = key then some value else get? k entries := by
  induction entries with
  | nil => by_cases h : key = k <;> simp [insert, get?, h, eq_comm]
  | cons entry rest ih =>
    obtain ⟨k', v⟩ := entry
    by_cases hk : k' = key
    · subst hk
      by_cases h : k' = k
      · simp [insert, get?, h]
      · simp [insert, get?, h, Ne.symm h]
    · by_cases h : k' = k
      · subst h
        simp [insert, get?, hk]
      · simp [insert, get?, hk, h, ih]

theorem isSome_get?_iff {key : String} {entries : List (String × α)} :
    (get? key entries).isSome ↔ key ∈ keys entries := by
  induction entries with
  | nil => simp [get?, keys]
  | cons entry rest ih =>
    obtain ⟨k, v⟩ := entry
    by_cases h : k = key
    · simp [get?, keys, h]
    · simp only [keys, List.map_cons, List.mem_cons] at ih ⊢
      simp [get?, h, ih, Ne.symm h]

theorem get?_filter_ne (key k : String) (entries : List (String × α)) :
    get? k (entries.filter (·.1 ≠ key)) = if k = key then none else get? k entries := by
  induction entries with
  | nil => simp [get?]
  | cons entry rest ih =>
    obtain ⟨k', v⟩ := entry
    by_cases hk : k' = key
    · subst hk
      by_cases h : k = k'
      · simpa [h] using ih
      · simpa [get?, h, Ne.symm h] using ih
    · by_cases h : k' = k
      · subst h
        simp [get?, hk]
      · simpa [get?, hk, h] using ih

theorem mem_keys_insert {key k : String} {value : α} {entries : List (String × α)} :
    k ∈ keys (insert key value entries) ↔ k = key ∨ k ∈ keys entries := by
  induction entries with
  | nil => simp [insert, keys]
  | cons entry rest ih =>
    obtain ⟨k', v⟩ := entry
    simp only [keys, List.map_cons, List.mem_cons] at ih ⊢
    by_cases h : k' = key
    · subst h; simp [insert]
    · simp only [insert, if_neg h, List.map_cons, List.mem_cons, ih]
      constructor
      · rintro (rfl | rfl | hk)
        · exact .inr (.inl rfl)
        · exact .inl rfl
        · exact .inr (.inr hk)
      · rintro (rfl | rfl | hk)
        · exact .inr (.inl rfl)
        · exact .inl rfl
        · exact .inr (.inr hk)

theorem nodup_keys_insert (key : String) (value : α) {entries : List (String × α)}
    (h : (keys entries).Nodup) : (keys (insert key value entries)).Nodup := by
  induction entries with
  | nil => simp [insert, keys]
  | cons entry rest ih =>
    obtain ⟨k, v⟩ := entry
    simp only [keys, List.map_cons, List.nodup_cons] at h ih
    by_cases hk : k = key
    · subst hk
      simp only [insert, if_true, keys, List.map_cons, List.nodup_cons]
      exact h
    · simp only [insert, if_neg hk, keys, List.map_cons, List.nodup_cons]
      refine ⟨fun mem => ?_, ih h.2⟩
      rcases mem_keys_insert.1 mem with eq | mem
      · exact hk eq
      · exact h.1 mem

theorem mem_insert_self (key : String) (value : α) (entries : List (String × α)) :
    (key, value) ∈ insert key value entries := by
  induction entries with
  | nil => simp [insert]
  | cons entry rest ih =>
    obtain ⟨k, v⟩ := entry
    rw [insert]
    split
    case isTrue same => simp [same]
    case isFalse => exact List.mem_cons_of_mem _ ih

theorem mem_of_mem_insert {key : String} {value : α} {entry : String × α}
    {entries : List (String × α)} (h : entry ∈ insert key value entries) :
    entry.2 = value ∨ entry ∈ entries := by
  induction entries with
  | nil =>
    rw [insert, List.mem_singleton] at h
    exact .inl (h ▸ rfl)
  | cons first rest ih =>
    obtain ⟨k, v⟩ := first
    rw [insert] at h
    split at h
    · rcases List.mem_cons.mp h with rfl | h
      · exact .inl rfl
      · exact .inr (List.mem_cons_of_mem _ h)
    · rcases List.mem_cons.mp h with rfl | h
      · exact .inr List.mem_cons_self
      · rcases ih h with value | old
        · exact .inl value
        · exact .inr (List.mem_cons_of_mem _ old)

theorem mem_of_get? {key : String} {value : α} {entries : List (String × α)}
    (h : get? key entries = some value) : (key, value) ∈ entries := by
  induction entries with
  | nil => cases h
  | cons first rest ih =>
    obtain ⟨k, v⟩ := first
    rw [get?] at h
    split at h
    case isTrue same =>
      cases h
      rw [same]
      exact List.mem_cons_self
    case isFalse => exact List.mem_cons_of_mem _ (ih h)

theorem get?_of_mem {entry : String × α} {entries : List (String × α)}
    (nodup : (keys entries).Nodup) (h : entry ∈ entries) : get? entry.1 entries = some entry.2 := by
  induction entries with
  | nil => cases h
  | cons first rest ih =>
    rw [keys, List.map_cons, List.nodup_cons] at nodup
    rcases List.mem_cons.mp h with rfl | h
    · rw [get?, if_pos rfl]
    · have differ : first.1 ≠ entry.1 := by
        intro same
        exact nodup.1 (same ▸ List.mem_map_of_mem h)
      rw [get?, if_neg differ]
      exact ih nodup.2 h

theorem insert_of_notMem {key : String} {value : α} {entries : List (String × α)}
    (h : key ∉ keys entries) : insert key value entries = entries ++ [(key, value)] := by
  induction entries with
  | nil => rfl
  | cons first rest ih =>
    rw [keys, List.map_cons, List.mem_cons, not_or] at h
    rw [insert, if_neg (Ne.symm h.1), ih h.2, List.cons_append]

end Entries

/-! ## Ordered maps -/

/-- A map from names to values that remembers the order of first insertion. -/
structure OrderedMap (α : Type) where
  entries : List (String × α)
  nodup_keys : (Entries.keys entries).Nodup

namespace OrderedMap

variable {α : Type}

def empty : OrderedMap α := ⟨[], List.nodup_nil⟩

instance : Inhabited (OrderedMap α) := ⟨empty⟩

def get? (map : OrderedMap α) (key : String) : Option α := Entries.get? key map.entries

def contains (map : OrderedMap α) (key : String) : Bool := (map.get? key).isSome

def keys (map : OrderedMap α) : List String := Entries.keys map.entries

def values (map : OrderedMap α) : List α := map.entries.map Prod.snd

def insert (map : OrderedMap α) (key : String) (value : α) : OrderedMap α :=
  ⟨Entries.insert key value map.entries, Entries.nodup_keys_insert key value map.nodup_keys⟩

def erase (map : OrderedMap α) (key : String) : OrderedMap α where
  entries := map.entries.filter (·.1 ≠ key)
  nodup_keys := map.nodup_keys.sublist (List.filter_sublist.map _)

/-- Changes the value of `key`, starting from `fresh` where there is none. -/
def upsert (map : OrderedMap α) (key : String) (fresh : α) (change : α → α) : OrderedMap α :=
  map.insert key (change ((map.get? key).getD fresh))

/-! ## What each operation does to the entries read -/

@[simp] theorem get?_empty (key : String) : (empty : OrderedMap α).get? key = none := rfl

theorem get?_insert (map : OrderedMap α) (key k : String) (value : α) :
    (map.insert key value).get? k = if k = key then some value else map.get? k :=
  Entries.get?_insert key k value map.entries

theorem get?_erase (map : OrderedMap α) (key k : String) :
    (map.erase key).get? k = if k = key then none else map.get? k :=
  Entries.get?_filter_ne key k map.entries

theorem contains_iff_mem_keys {map : OrderedMap α} {key : String} :
    map.contains key ↔ key ∈ map.keys :=
  Entries.isSome_get?_iff

/-! ## What each operation does to the values -/

theorem mem_values_insert_self (map : OrderedMap α) (key : String) (value : α) :
    value ∈ (map.insert key value).values :=
  List.mem_map.mpr ⟨(key, value), Entries.mem_insert_self key value map.entries, rfl⟩

theorem mem_of_mem_values_insert {map : OrderedMap α} {key : String} {value v : α}
    (h : v ∈ (map.insert key value).values) : v = value ∨ v ∈ map.values := by
  obtain ⟨entry, hentry, rfl⟩ := List.mem_map.mp h
  rcases Entries.mem_of_mem_insert hentry with new | old
  · exact .inl new
  · exact .inr (List.mem_map_of_mem old)

theorem mem_of_mem_values_erase {map : OrderedMap α} {key : String} {v : α}
    (h : v ∈ (map.erase key).values) : v ∈ map.values := by
  obtain ⟨entry, hentry, rfl⟩ := List.mem_map.mp h
  exact List.mem_map_of_mem (List.mem_filter.mp hentry).1

theorem mem_values_erase {map : OrderedMap α} {key : String} {v : α} (h : v ∈ map.values)
    (other : map.get? key ≠ some v) : v ∈ (map.erase key).values := by
  obtain ⟨entry, hentry, rfl⟩ := List.mem_map.mp h
  have differ : entry.1 ≠ key := by
    rintro rfl
    exact other (Entries.get?_of_mem map.nodup_keys hentry)
  apply List.mem_map_of_mem
  rw [erase, List.mem_filter]
  exact ⟨hentry, by simpa using differ⟩

end OrderedMap
end LabRegistry

import LabRegistry.Value.Printer

/-!
# Contents of values

Two values have the same content if they differ at most in the order of the keys of their
objects, at any depth. Induction on values goes through the items of arrays and the members of
objects.
-/
namespace LabRegistry

def Number.SameKind : Number → Number → Prop
  | .integer _, .integer _ => True
  | .float _, .float _ => True
  | _, _ => False

namespace Value

theorem induction {P : Value → Prop} (null : P .null) (bool : ∀ b, P (.bool b))
    (number : ∀ n, P (.number n)) (string : ∀ s, P (.string s))
    (array : ∀ items : List Value, (∀ item ∈ items, P item) → P (.array items))
    (object : ∀ members : List (String × Value), (∀ member ∈ members, P member.2) →
      P (.object members)) (v : Value) : P v :=
  -- Lists of values, lists of members and single members have statements of their own.
  @Value.rec P (fun items => ∀ item ∈ items, P item) (fun members => ∀ member ∈ members, P member.2)
    (fun member => P member.2) null bool number string array object
    (List.forall_mem_nil P) (fun _ _ first rest => List.forall_mem_cons.mpr ⟨first, rest⟩)
    (List.forall_mem_nil _) (fun _ _ first rest => List.forall_mem_cons.mpr ⟨first, rest⟩)
    (fun _ _ second => second) v

/-- No object in the value, at any depth, has a key twice. -/
inductive KeysDistinct : Value → Prop
  | null : KeysDistinct .null
  | bool (b : Bool) : KeysDistinct (.bool b)
  | number (n : Number) : KeysDistinct (.number n)
  | string (s : String) : KeysDistinct (.string s)
  | array {items : List Value} (h : ∀ item ∈ items, KeysDistinct item) : KeysDistinct (.array items)
  | object {members : List (String × Value)} (keys : (Entries.keys members).Nodup)
      (h : ∀ member ∈ members, KeysDistinct member.2) : KeysDistinct (.object members)

private theorem eqItems_self {items : List Value} (h : ∀ item ∈ items, item.eq item = true) :
    eqItems items items = true := by
  induction items with
  | nil => rfl
  | cons item rest ih =>
    rw [eqItems, h item List.mem_cons_self, ih fun other mem => h other (List.mem_cons_of_mem _ mem)]
    rfl

private theorem eqMembers_of_subset {members all : List (String × Value)}
    (keys : (Entries.keys all).Nodup)
    (among : members ⊆ all) (h : ∀ member ∈ members, member.2.eq member.2 = true) :
    eqMembers members all = true := by
  induction members with
  | nil => rfl
  | cons member rest ih =>
    obtain ⟨key, value⟩ := member
    have found : Entries.get? key all = some value :=
      Entries.get?_of_mem keys (among List.mem_cons_self)
    have self : value.eq value = true := h (key, value) List.mem_cons_self
    have others := ih (fun _ mem => among (List.mem_cons_of_mem _ mem))
      fun other mem => h other (List.mem_cons_of_mem _ mem)
    rw [eqMembers, found, others]
    simpa using self

theorem KeysDistinct.eq_self {v : Value} (h : v.KeysDistinct) : (v == v) = true := by
  change v.eq v = true
  induction h with
  | null => rfl
  | bool b => simp [eq]
  | number n => cases n <;> simp [eq, Number.eq]
  | string s => simp [eq]
  | array _ ih =>
    rw [eq]
    exact eqItems_self ih
  | object keys _ ih =>
    rw [eq, eqMembers_of_subset keys (List.Subset.refl _) ih]
    simp

/-- The values are the same up to the order of the keys of objects: their kinds are the same, their
strings, the items of their arrays in order, the keys of their objects with what belongs to each,
and numbers are of one kind and printed with one text. -/
inductive SameContent : Value → Value → Prop
  | null : SameContent .null .null
  | bool (b : Bool) : SameContent (.bool b) (.bool b)
  | number {m n : Number} (kind : m.SameKind n) (text : m.toChars = n.toChars) :
      SameContent (.number m) (.number n)
  | string (s : String) : SameContent (.string s) (.string s)
  | array {xs ys : List Value} (length : xs.length = ys.length)
      (items : ∀ (i : Nat) (x y : Value), xs[i]? = some x → ys[i]? = some y → SameContent x y) :
      SameContent (.array xs) (.array ys)
  | object {ms ns : List (String × Value)}
      (keys : ∀ key, key ∈ Entries.keys ms ↔ key ∈ Entries.keys ns)
      (members : ∀ key x y, Entries.get? key ms = some x → Entries.get? key ns = some y →
        SameContent x y) :
      SameContent (.object ms) (.object ns)

end Value
end LabRegistry

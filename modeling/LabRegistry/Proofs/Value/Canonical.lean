import LabRegistry.Digest.Fingerprint
import LabRegistry.Proofs.Value.Text
import Mathlib.Data.List.Forall2

/-!
# Canonical texts

The canonical text of a value tells its content and nothing else: two values whose objects have
no key twice have the same canonical text exactly if they have the same content. The text of every
part tells where it ends, so no two contents are written alike, and sorting the keys takes their
order away.
-/
namespace LabRegistry.Value

/-! ## Joined texts -/

section Joined

variable {α : Type} (text : α → List Char) (Fit : α → Prop) (R : α → α → Prop)

/-- Before anything that does not go on with a number, the text of `x` tells `x` up to `R` and
where it ends. -/
def TextTells (x : α) : Prop := ∀ y, Fit y → ∀ u v, StopsNumber u → StopsNumber v →
  text x ++ u = text y ++ v → R x y ∧ u = v

variable {text Fit R}

private theorem joinWith_cons (first : List Char) (rest : List (List Char)) :
    joinWith [','] (first :: rest) = first ++ rest.flatMap (',' :: ·) := by
  induction rest generalizing first with
  | nil => simp [joinWith]
  | cons second rest ih =>
    rw [joinWith, ih, List.flatMap_cons]
    · simp
    · exact List.cons_ne_nil second rest

variable {close : Char} (hclose : isNumberChar close = false) (comma : close ≠ ',')

include hclose

private theorem stopsNumber_rest (xs : List α) (u : List Char) :
    StopsNumber ((xs.map text).flatMap (',' :: ·) ++ close :: u) := by
  cases xs with
  | nil =>
    intro c hc
    cases hc
    exact hclose
  | cons x xs =>
    intro c hc
    cases hc
    rfl

include comma

private theorem rest_tells {xs ys : List α} {u v : List Char}
    (tells : ∀ x ∈ xs, TextTells text Fit R x) (fit : ∀ y ∈ ys, Fit y)
    (h : (xs.map text).flatMap (',' :: ·) ++ close :: u =
      (ys.map text).flatMap (',' :: ·) ++ close :: v) : List.Forall₂ R xs ys ∧ u = v := by
  induction xs generalizing ys with
  | nil =>
    cases ys with
    | nil => exact ⟨.nil, (List.cons_eq_cons.mp h).2⟩
    | cons y ys => exact absurd (List.cons_eq_cons.mp h).1 comma
  | cons x xs ih =>
    cases ys with
    | nil => exact absurd (List.cons_eq_cons.mp h).1.symm comma
    | cons y ys =>
      simp only [List.map_cons, List.flatMap_cons, List.cons_append, List.append_assoc] at h
      obtain ⟨first, rest⟩ := tells x List.mem_cons_self y (fit y List.mem_cons_self) _ _
        (stopsNumber_rest hclose xs u) (stopsNumber_rest hclose ys v) (List.cons_eq_cons.mp h).2
      obtain ⟨others, ends⟩ := ih (fun x hx => tells x (List.mem_cons_of_mem _ hx))
        (fun y hy => fit y (List.mem_cons_of_mem _ hy)) rest
      exact ⟨.cons first others, ends⟩

private theorem joined_tells {xs ys : List α} {u v : List Char}
    (tells : ∀ x ∈ xs, TextTells text Fit R x) (fit : ∀ y ∈ ys, Fit y)
    (starts : ∀ x u v, text x ++ u ≠ close :: v)
    (h : joinWith [','] (xs.map text) ++ close :: u = joinWith [','] (ys.map text) ++ close :: v) :
    List.Forall₂ R xs ys ∧ u = v := by
  cases xs with
  | nil =>
    cases ys with
    | nil => exact ⟨.nil, (List.cons_eq_cons.mp h).2⟩
    | cons y ys =>
      rw [List.map_cons, joinWith_cons, List.append_assoc] at h
      exact absurd h.symm (starts _ _ _)
  | cons x xs =>
    cases ys with
    | nil =>
      rw [List.map_cons, joinWith_cons, List.append_assoc] at h
      exact absurd h (starts _ _ _)
    | cons y ys =>
      rw [List.map_cons, List.map_cons, joinWith_cons, joinWith_cons, List.append_assoc,
        List.append_assoc] at h
      obtain ⟨first, rest⟩ := tells x List.mem_cons_self y (fit y List.mem_cons_self) _ _
        (stopsNumber_rest hclose xs u) (stopsNumber_rest hclose ys v) h
      obtain ⟨others, ends⟩ := rest_tells hclose comma
        (fun x hx => tells x (List.mem_cons_of_mem _ hx))
        (fun y hy => fit y (List.mem_cons_of_mem _ hy)) rest
      exact ⟨.cons first others, ends⟩

end Joined

/-! ## Members in order -/

def memberChars (member : String × Value) : List Char :=
  stringChars member.1 ++ ':' :: canonicalChars member.2

private theorem canonicalItems_eq_map (items : List Value) :
    canonicalItems items = items.map canonicalChars := by
  induction items with
  | nil => rfl
  | cons item rest ih => rw [canonicalItems, ih, List.map_cons]

private theorem canonicalMembers_eq_map (members : List (String × Value)) :
    canonicalMembers members = members.map fun member => (member.1, canonicalChars member.2) := by
  induction members with
  | nil => rfl
  | cons member rest ih => rw [canonicalMembers, ih, List.map_cons]

private theorem canonicalChars_array (items : List Value) : canonicalChars (.array items) =
    '[' :: (joinWith [','] (items.map canonicalChars) ++ [']']) := by
  rw [canonicalChars, canonicalItems_eq_map]

/-- Sorting the members before or after writing their values is the same. -/
theorem canonicalChars_object (members : List (String × Value)) : canonicalChars (.object members) =
    '\x7b' :: (joinWith [','] ((sortByKey members).map memberChars) ++ ['\x7d']) := by
  have sorted : sortByKey (canonicalMembers members) =
      (sortByKey members).map fun member => (member.1, canonicalChars member.2) := by
    rw [canonicalMembers_eq_map, sortByKey, sortByKey]
    symm
    apply List.map_mergeSort
    intro a _ b _
    rfl
  rw [canonicalChars, sorted, List.map_map]
  rfl

private theorem mem_sortByKey {α : Type} {member : String × α} {members : List (String × α)} :
    member ∈ sortByKey members ↔ member ∈ members :=
  (List.mergeSort_perm _ _).mem_iff

private theorem keys_sortByKey_eq {α : Type} {ms ns : List (String × α)}
    (hms : (Entries.keys ms).Nodup)
    (hns : (Entries.keys ns).Nodup) (same : ∀ key, key ∈ Entries.keys ms ↔ key ∈ Entries.keys ns) :
    Entries.keys (sortByKey ms) = Entries.keys (sortByKey ns) := by
  have sorted (members : List (String × α)) :
      (Entries.keys (sortByKey members)).Pairwise (· ≤ ·) := by
    have pairwise : (sortByKey members).Pairwise fun a b => decide (a.1 ≤ b.1) = true := by
      apply List.pairwise_mergeSort
      · intro a b c ab bc
        rw [decide_eq_true_iff] at ab bc ⊢
        exact String.le_trans ab bc
      · intro a b
        rw [Bool.or_eq_true, decide_eq_true_iff, decide_eq_true_iff]
        exact String.le_total a.1 b.1
    rw [Entries.keys, List.pairwise_map]
    exact pairwise.imp fun h => decide_eq_true_iff.mp h
  have perm (members : List (String × α)) :
      (Entries.keys (sortByKey members)).Perm (Entries.keys members) :=
    (List.mergeSort_perm _ _).map _
  have keys : (Entries.keys ms).Perm (Entries.keys ns) :=
    (List.perm_ext_iff_of_nodup hms hns).mpr same
  exact ((perm ms).trans (keys.trans (perm ns).symm)).eq_of_pairwise
    (fun _ _ _ _ => String.le_antisymm) (sorted ms) (sorted ns)

/-! ## Same content, same text -/

private def keyChars (members : List (String × Value)) (key : String) : List Char :=
  stringChars key ++ ':' :: ((Entries.get? key members).map canonicalChars).getD []

private theorem memberChars_sorted {members : List (String × Value)}
    (h : (Entries.keys members).Nodup) : (sortByKey members).map memberChars =
      (Entries.keys (sortByKey members)).map (keyChars members) := by
  rw [Entries.keys, List.map_map]
  apply List.map_congr_left
  intro member mem
  have found := Entries.get?_of_mem h (mem_sortByKey.mp mem)
  rw [Function.comp_apply, memberChars, keyChars, found]
  rfl

private theorem array_text {xs ys : List Value} (length : xs.length = ys.length)
    (texts : ∀ (i : Nat) (x y : Value), xs[i]? = some x → ys[i]? = some y →
      canonicalChars x = canonicalChars y) :
    canonicalChars (.array xs) = canonicalChars (.array ys) := by
  have same : xs.map canonicalChars = ys.map canonicalChars := by
    apply List.ext_getElem
    · simpa using length
    · intro i hi hi'
      rw [List.length_map] at hi hi'
      rw [List.getElem_map, List.getElem_map]
      exact texts i _ _ (List.getElem?_eq_getElem hi) (List.getElem?_eq_getElem hi')
  rw [canonicalChars_array, canonicalChars_array, same]

private theorem object_text {ms ns : List (String × Value)} (hms : (Entries.keys ms).Nodup)
    (hns : (Entries.keys ns).Nodup) (keys : ∀ key, key ∈ Entries.keys ms ↔ key ∈ Entries.keys ns)
    (texts : ∀ key x y, (key, x) ∈ ms → (key, y) ∈ ns → canonicalChars x = canonicalChars y) :
    canonicalChars (.object ms) = canonicalChars (.object ns) := by
  have same : (sortByKey ms).map memberChars = (sortByKey ns).map memberChars := by
    rw [memberChars_sorted hms, memberChars_sorted hns, keys_sortByKey_eq hms hns keys]
    apply List.map_congr_left
    intro key hkey
    obtain ⟨⟨key, y⟩, hmember, rfl⟩ := List.mem_map.mp hkey
    have hn := mem_sortByKey.mp hmember
    have hm := (keys key).mpr (List.mem_map_of_mem hn)
    obtain ⟨x, hx⟩ := Option.isSome_iff_exists.mp (Entries.isSome_get?_iff.mpr hm)
    have hy : Entries.get? key ns = some y := Entries.get?_of_mem hns hn
    have text := texts key x y (Entries.mem_of_get? hx) hn
    rw [keyChars, keyChars, hx, hy, Option.map_some, Option.map_some, text]
  rw [canonicalChars_object, canonicalChars_object, same]

private theorem SameContent.canonicalChars_eq {a b : Value} (h : SameContent a b)
    (ha : a.KeysDistinct)
    (hb : b.KeysDistinct) : canonicalChars a = canonicalChars b := by
  revert b
  induction a using Value.induction with
  | null =>
    intro b h hb
    cases h
    rfl
  | bool x =>
    intro b h hb
    cases h
    rfl
  | number n =>
    intro b h hb
    cases h with
    | number kind text =>
      rw [canonicalChars, canonicalChars]
      exact text
  | string s =>
    intro b h hb
    cases h
    rfl
  | array xs ih =>
    intro b h hb
    cases h with
    | array length items =>
      cases ha with
      | array below =>
        cases hb with
        | array below' =>
          refine array_text length fun i x y hx hy => ?_
          have mem := List.mem_of_getElem? hx
          exact ih x mem (below x mem) (items i x y hx hy) (below' y (List.mem_of_getElem? hy))
  | object ms ih =>
    intro b h hb
    cases h with
    | object keys members =>
      cases ha with
      | object distinct below =>
        cases hb with
        | object distinct' below' =>
          refine object_text distinct distinct' keys fun key x y hx hy => ?_
          have content := members key x y (Entries.get?_of_mem distinct hx)
            (Entries.get?_of_mem distinct' hy)
          exact ih (key, x) hx (below _ hx) content (below' _ hy)

/-! ## Same text, same content -/

private def lead : Value → Char
  | .null => 'n'
  | .bool true => 't'
  | .bool false => 'f'
  | .number _ => '0'
  | .string _ => '"'
  | .array _ => '['
  | .object _ => '\x7b'

private theorem canonicalChars_lead (v : Value) : ∃ c rest, canonicalChars v = c :: rest ∧
    lead v = if isNumberChar c then '0' else c := by
  cases v with
  | null => exact ⟨_, _, rfl, rfl⟩
  | bool b => cases b <;> exact ⟨_, _, rfl, rfl⟩
  | number n =>
    rw [canonicalChars]
    cases hn : n.toChars with
    | nil => exact absurd hn n.toChars_ne_nil
    | cons c rest =>
      have number := n.toChars_numberChars c (hn ▸ List.mem_cons_self)
      exact ⟨c, rest, rfl, by rw [number]; rfl⟩
  | string s => exact ⟨_, _, rfl, rfl⟩
  | array items =>
    rw [canonicalChars_array]
    exact ⟨_, _, rfl, rfl⟩
  | object members =>
    rw [canonicalChars_object]
    exact ⟨_, _, rfl, rfl⟩

/-- Both values are of one kind, and the same truth value if they are any. -/
private def SameShape : Value → Value → Prop
  | .null, .null => True
  | .bool x, .bool y => x = y
  | .number _, .number _ => True
  | .string _, .string _ => True
  | .array _, .array _ => True
  | .object _, .object _ => True
  | _, _ => False

private theorem sameShape_of_lead_eq {a b : Value} (h : lead a = lead b) : SameShape a b := by
  rcases a with _ | (_ | _) | _ | _ | _ | _
  all_goals
    rcases b with _ | (_ | _) | _ | _ | _ | _
  all_goals
    first
    | trivial
    | simp [lead] at h

private theorem sameShape {a b : Value} {u v : List Char}
    (h : canonicalChars a ++ u = canonicalChars b ++ v) : SameShape a b := by
  obtain ⟨c, rest, hc, leadC⟩ := canonicalChars_lead a
  obtain ⟨d, rest', hd, leadD⟩ := canonicalChars_lead b
  rw [hc, hd] at h
  have same : c = d := (List.cons_eq_cons.mp h).1
  apply sameShape_of_lead_eq
  rw [leadC, leadD, same]

private theorem canonicalChars_ne_bracket (a : Value) (u v : List Char) :
    canonicalChars a ++ u ≠ ']' :: v := by
  intro h
  obtain ⟨c, rest, hc, leadC⟩ := canonicalChars_lead a
  rw [hc] at h
  have same : c = ']' := (List.cons_eq_cons.mp h).1
  subst same
  cases a with
  | bool b => cases b <;> cases leadC
  | _ => cases leadC

private theorem memberChars_ne_brace (member : String × Value) (u v : List Char) :
    memberChars member ++ u ≠ '\x7d' :: v := by
  intro h
  rw [memberChars, stringChars] at h
  exact absurd (List.cons_eq_cons.mp h).1 (by decide)

private abbrev Tells (a : Value) : Prop := TextTells canonicalChars KeysDistinct SameContent a

private theorem member_tells {m : String × Value} (h : Tells m.2) :
    TextTells memberChars (fun n => n.2.KeysDistinct)
      (fun m n => m.1 = n.1 ∧ SameContent m.2 n.2) m := by
  intro n hn u v hu hv same
  rw [memberChars, memberChars, List.append_assoc, List.append_assoc] at same
  obtain ⟨key, rest⟩ := stringChars_cancel same
  obtain ⟨content, ends⟩ := h n.2 hn u v hu hv (List.cons_eq_cons.mp rest).2
  exact ⟨⟨key, content⟩, ends⟩

private theorem array_content {xs ys : List Value} (h : List.Forall₂ SameContent xs ys) :
    SameContent (.array xs) (.array ys) := by
  refine .array h.length_eq fun i x y hx hy => ?_
  obtain ⟨hi, rfl⟩ := List.getElem?_eq_some_iff.mp hx
  obtain ⟨hi', rfl⟩ := List.getElem?_eq_some_iff.mp hy
  exact h.get hi hi'

private theorem exists_match {α : Type} {R : α → α → Prop} {xs ys : List α}
    (h : List.Forall₂ R xs ys) {x : α} (hx : x ∈ xs) : ∃ y ∈ ys, R x y := by
  induction h with
  | nil => cases hx
  | cons first _ ih =>
    rcases List.mem_cons.mp hx with rfl | hx
    · exact ⟨_, List.mem_cons_self, first⟩
    · obtain ⟨y, hy, related⟩ := ih hx
      exact ⟨y, List.mem_cons_of_mem _ hy, related⟩

private theorem object_content {ms ns : List (String × Value)} (hns : (Entries.keys ns).Nodup)
    (h : List.Forall₂ (fun m n : String × Value => m.1 = n.1 ∧ SameContent m.2 n.2)
      (sortByKey ms) (sortByKey ns)) : SameContent (.object ms) (.object ns) := by
  refine .object (fun key => ⟨fun hkey => ?_, fun hkey => ?_⟩) fun key x y hx hy => ?_
  · obtain ⟨m, hm, rfl⟩ := List.mem_map.mp hkey
    obtain ⟨n, hn, same, _⟩ := exists_match h (mem_sortByKey.mpr hm)
    exact List.mem_map.mpr ⟨n, mem_sortByKey.mp hn, same.symm⟩
  · obtain ⟨n, hn, rfl⟩ := List.mem_map.mp hkey
    obtain ⟨m, hm, same, _⟩ := exists_match h.flip (mem_sortByKey.mpr hn)
    exact List.mem_map.mpr ⟨m, mem_sortByKey.mp hm, same⟩
  · obtain ⟨n, hn, same, content⟩ := exists_match h (mem_sortByKey.mpr (Entries.mem_of_get? hx))
    have found := Entries.get?_of_mem hns (mem_sortByKey.mp hn)
    rw [← same, hy] at found
    cases found
    exact content

private theorem canonicalChars_tells (a : Value) : Tells a := by
  induction a using Value.induction with
  | null =>
    intro b _ u v _ _ h
    have shape := sameShape h
    cases b with
    | null => exact ⟨.null, List.append_cancel_left h⟩
    | _ => cases shape
  | bool x =>
    intro b _ u v _ _ h
    have shape := sameShape h
    cases b with
    | bool y =>
      cases shape
      exact ⟨.bool x, List.append_cancel_left h⟩
    | _ => cases shape
  | number m =>
    intro b _ u v hu hv h
    have shape := sameShape h
    cases b with
    | number n =>
      rw [canonicalChars, canonicalChars] at h
      obtain ⟨text, ends⟩ := Number.toChars_cancel hu hv h
      exact ⟨.number (Number.sameKind_of_toChars_eq text) text, ends⟩
    | _ => cases shape
  | string s =>
    intro b _ u v _ _ h
    have shape := sameShape h
    cases b with
    | string t =>
      rw [canonicalChars, canonicalChars] at h
      obtain ⟨rfl, ends⟩ := stringChars_cancel h
      exact ⟨.string s, ends⟩
    | _ => cases shape
  | array xs ih =>
    intro b hb u v _ _ h
    have shape := sameShape h
    cases hb with
    | @array ys hys =>
      rw [canonicalChars_array, canonicalChars_array, List.cons_append, List.cons_append,
        List.append_assoc, List.append_assoc] at h
      obtain ⟨items, ends⟩ := joined_tells rfl (by decide) ih hys canonicalChars_ne_bracket
        (List.cons_eq_cons.mp h).2
      exact ⟨array_content items, ends⟩
    | _ => cases shape
  | object ms ih =>
    intro b hb u v _ _ h
    have shape := sameShape h
    cases hb with
    | @object ns hns below =>
      rw [canonicalChars_object, canonicalChars_object, List.cons_append, List.cons_append,
        List.append_assoc, List.append_assoc] at h
      obtain ⟨members, ends⟩ := joined_tells rfl (by decide)
        (fun m hm => member_tells (ih m (mem_sortByKey.mp hm)))
        (fun n hn => below n (mem_sortByKey.mp hn)) memberChars_ne_brace
        (List.cons_eq_cons.mp h).2
      exact ⟨object_content hns members, ends⟩
    | _ => cases shape

/-- Two values whose objects have no key twice have the same canonical text, and so the same input
to the digest of their fingerprints, exactly if they have the same content. -/
theorem canonical_eq_iff_sameContent {a b : Value} (ha : a.KeysDistinct) (hb : b.KeysDistinct) :
    (a.canonical = b.canonical ↔ SameContent a b) ∧
      (SameContent a b → a.fingerprint = b.fingerprint) := by
  have same (h : SameContent a b) : a.canonical = b.canonical := by
    rw [canonical, canonical, h.canonicalChars_eq ha hb]
  refine ⟨⟨fun h => ?_, same⟩, fun h => ?_⟩
  · have chars : canonicalChars a ++ [] = canonicalChars b ++ [] := by
      rw [List.append_nil, List.append_nil]
      exact String.ofList_inj.mp h
    have stops : StopsNumber [] := by
      intro c hc
      cases hc
    exact (canonicalChars_tells a b hb [] [] stops stops chars).1
  · rw [fingerprint, fingerprint, same h]

/-- Swapping two members changes neither the canonical text nor the fingerprint. -/
theorem canonical_of_swapped :
    let a := Value.object [("b", .bool true), ("a", .string "s")]
    let b := Value.object [("a", .string "s"), ("b", .bool true)]
    a.KeysDistinct ∧ b.KeysDistinct ∧
      a.canonical = b.canonical ∧ a.fingerprint = b.fingerprint := by
  intro a b
  have ha : a.KeysDistinct := .object (by decide) (List.forall_mem_cons.mpr
    ⟨.bool true, List.forall_mem_singleton.mpr (.string "s")⟩)
  have hb : b.KeysDistinct := .object (by decide) (List.forall_mem_cons.mpr
    ⟨.string "s", List.forall_mem_singleton.mpr (.bool true)⟩)
  have content : SameContent a b := by
    refine .object (fun key => ?_) fun key x y hx hy => ?_
    · rw [Entries.keys, Entries.keys]
      simp [or_comm]
    · simp only [Entries.get?] at hx hy
      split at hx
      case isTrue same =>
        subst same
        cases hx
        cases hy
        exact .bool true
      case isFalse =>
        split at hx
        case isTrue same =>
          subst same
          cases hx
          cases hy
          exact .string "s"
        case isFalse => cases hx
  have both := canonical_eq_iff_sameContent ha hb
  exact ⟨ha, hb, both.1.mpr content, both.2 content⟩

end LabRegistry.Value

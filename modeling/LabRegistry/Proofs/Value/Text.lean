import LabRegistry.Proofs.Value.Content
import LabRegistry.Value.Reader

/-!
# Where texts end

The text of a string ends at the first quote that is not escaped, and the text of a number ends
before the first character that no number has. So both can be told from what follows them, and
neither hides a difference.
-/
namespace LabRegistry

/-! ## Strings -/

namespace Value

private theorem hexDigit_reads : ∀ n < 0x20,
    Reader.hexValue? (hexDigit (n / 16)) = some (n / 16) ∧
      Reader.hexValue? (hexDigit n) = some (n % 16) := by
  decide

private theorem control_reads {c : Char} (h : c.toNat < 0x20) (rest : List Char) :
    Reader.escaped ('u' :: '0' :: '0' :: hexDigit (c.toNat / 16) :: hexDigit c.toNat :: rest) =
      some (c, rest) := by
  obtain ⟨high, low⟩ := hexDigit_reads c.toNat h
  have zero : Reader.hexValue? '0' = some 0 := rfl
  have code : Reader.codeUnit ('0' :: '0' :: hexDigit (c.toNat / 16) :: hexDigit c.toNat :: rest) =
      some (c.toNat, rest) := by
    simp only [Reader.codeUnit, zero, high, low, Option.bind_eq_bind, Option.bind_some]
    congr 2
    omega
  have small : ¬ 0xD800 ≤ c.toNat := by omega
  have small' : ¬ 0xDC00 ≤ c.toNat := by omega
  simp [Reader.escaped, Reader.escapedCode, code, small, small']

private theorem escapeChar_shape (c : Char) :
    (escapeChar c = [c] ∧ c ≠ '"' ∧ c ≠ '\\') ∨
      ∃ code, escapeChar c = '\\' :: code ∧ ∀ rest, Reader.escaped (code ++ rest) = some (c, rest) := by
  unfold escapeChar
  split
  case h_8 c quote backslash _ _ _ _ _ =>
    split
    case isTrue control => exact .inr ⟨_, rfl, control_reads control⟩
    case isFalse => exact .inl ⟨rfl, quote, backslash⟩
  all_goals exact .inr ⟨_, rfl, fun _ => rfl⟩

private theorem escapeChar_cancel {c d : Char} {u v : List Char}
    (h : escapeChar c ++ u = escapeChar d ++ v) : c = d ∧ u = v := by
  rcases escapeChar_shape c with ⟨plain, _, backslash⟩ | ⟨code, written, reads⟩
  · rcases escapeChar_shape d with ⟨plain', _, _⟩ | ⟨code', written', _⟩
    · rw [plain, plain'] at h
      exact List.cons_eq_cons.mp h
    · rw [plain, written'] at h
      exact absurd (List.cons_eq_cons.mp h).1 backslash
  · rcases escapeChar_shape d with ⟨plain', _, backslash'⟩ | ⟨code', written', reads'⟩
    · rw [written, plain'] at h
      exact absurd (List.cons_eq_cons.mp h).1.symm backslash'
    · have codes := reads u
      have same : code ++ u = code' ++ v := by simpa [written, written'] using h
      rw [same, reads' v] at codes
      cases codes
      exact ⟨rfl, rfl⟩

private theorem escapeChar_ne_quote {c : Char} {u v : List Char} :
    escapeChar c ++ u ≠ '"' :: v := by
  intro h
  rcases escapeChar_shape c with ⟨plain, quote, _⟩ | ⟨code, written, _⟩
  · rw [plain] at h
    exact quote (List.cons_eq_cons.mp h).1
  · rw [written] at h
    exact absurd (List.cons_eq_cons.mp h).1 (by decide)

private theorem escapes_cancel {cs ds u v : List Char}
    (h : cs.flatMap escapeChar ++ '"' :: u = ds.flatMap escapeChar ++ '"' :: v) :
    cs = ds ∧ u = v := by
  induction cs generalizing ds with
  | nil =>
    cases ds with
    | nil => exact ⟨rfl, (List.cons_eq_cons.mp h).2⟩
    | cons d ds =>
      rw [List.flatMap_cons, List.append_assoc] at h
      exact absurd h.symm escapeChar_ne_quote
  | cons c cs ih =>
    cases ds with
    | nil =>
      rw [List.flatMap_cons, List.append_assoc] at h
      exact absurd h escapeChar_ne_quote
    | cons d ds =>
      rw [List.flatMap_cons, List.flatMap_cons, List.append_assoc, List.append_assoc] at h
      obtain ⟨rfl, rest⟩ := escapeChar_cancel h
      obtain ⟨rfl, rfl⟩ := ih rest
      exact ⟨rfl, rfl⟩

theorem stringChars_cancel {s t : String} {u v : List Char}
    (h : stringChars s ++ u = stringChars t ++ v) : s = t ∧ u = v := by
  rw [stringChars, stringChars, List.cons_append, List.cons_append, List.append_assoc,
    List.append_assoc] at h
  obtain ⟨chars, rest⟩ := escapes_cancel (List.cons_eq_cons.mp h).2
  exact ⟨String.toList_inj.mp chars, rest⟩

end Value

/-! ## Numbers -/

def isNumberChar (c : Char) : Bool := c.isDigit || c == '-' || c == '+' || c == '.' || c == 'e'

def isFloatChar (c : Char) : Bool := c == '.' || c == 'e'

private theorem digits_numberChars (n : Nat) : ∀ c ∈ Nat.toDigits 10 n, isNumberChar c = true := by
  intro c hc
  have digit := Nat.isDigit_of_mem_toDigits (by decide) (by decide) hc
  simp [isNumberChar, digit]

private theorem digits_not_floatChars (n : Nat) :
    ∀ c ∈ Nat.toDigits 10 n, isFloatChar c = false := by
  intro c hc
  have digit := Nat.isDigit_of_mem_toDigits (by decide) (by decide) hc
  rw [isFloatChar, Bool.or_eq_false_iff, beq_eq_false_iff_ne, beq_eq_false_iff_ne]
  constructor
  · rintro rfl
    cases digit
  · rintro rfl
    cases digit

namespace Layout

private theorem positional_numberChars {digits : List Char} (first : Int)
    (h : ∀ c ∈ digits, isNumberChar c = true) :
    ∀ c ∈ positional true digits first, isNumberChar c = true := by
  have zero : isNumberChar '0' = true := rfl
  have point : isNumberChar '.' = true := rfl
  intro c hc
  cases first with
  | negSucc zeros =>
    simp only [positional, List.mem_cons, List.mem_append, List.mem_replicate] at hc
    rcases hc with rfl | rfl | ⟨_, rfl⟩ | hc
    · exact zero
    · exact point
    · exact zero
    · exact h c hc
  | ofNat n =>
    rw [positional] at hc
    split at hc
    · simp only [if_true, List.mem_cons, List.mem_append, List.mem_replicate, List.not_mem_nil,
        or_false] at hc
      rcases hc with (hc | ⟨_, rfl⟩) | rfl | rfl
      · exact h c hc
      · exact zero
      · exact point
      · exact zero
    · simp only [List.mem_append, List.mem_cons] at hc
      rcases hc with hc | rfl | hc
      · exact h c (List.mem_of_mem_take hc)
      · exact point
      · exact h c (List.mem_of_mem_drop hc)

private theorem point_mem_positional (digits : List Char) (first : Int) :
    '.' ∈ positional true digits first := by
  cases first with
  | negSucc zeros => simp [positional]
  | ofNat n =>
    rw [positional]
    split <;> simp

private theorem scientific_numberChars {digits : List Char} (first : Int)
    (h : ∀ c ∈ digits, isNumberChar c = true) :
    ∀ c ∈ scientific true digits first, isNumberChar c = true := by
  intro c hc
  unfold scientific at hc
  extract_lets mantissa sign at hc
  rcases List.mem_append.mp hc with hc | hc
  · rcases digits with _ | ⟨d, _ | ⟨d', rest⟩⟩
    · exact (List.not_mem_nil hc).elim
    · exact h c hc
    · rcases List.mem_cons.mp hc with rfl | hc
      · exact h c List.mem_cons_self
      · rcases List.mem_cons.mp hc with rfl | hc
        · rfl
        · exact h c (List.mem_cons_of_mem d hc)
  · rcases List.mem_cons.mp hc with rfl | hc
    · rfl
    · rcases List.mem_append.mp hc with hc | hc
      · by_cases negative : first < 0
        · rw [show sign = ['-'] from if_pos negative, List.mem_singleton] at hc
          rw [hc]
          rfl
        · rw [show sign = ['+'] from if_neg negative, List.mem_singleton] at hc
          rw [hc]
          rfl
      · exact digits_numberChars _ c hc

/-- Only zero has a text of its own; other magnitudes lay out the digits of their shortest
decimal. -/
private theorem magnitudeChars_shape (x : Magnitude) :
    value.magnitudeChars x = ['0', '.', '0'] ∨
      ∃ n first, value.magnitudeChars x = positional true (Nat.toDigits 10 n) first ∨
        value.magnitudeChars x = scientific true (Nat.toDigits 10 n) first := by
  rw [magnitudeChars]
  by_cases zero : x.significand = 0
  · rw [if_pos zero]
    exact .inl rfl
  · rw [if_neg zero]
    extract_lets decimal digits first
    refine .inr ⟨decimal.digits, first, ?_⟩
    by_cases positional : value.isPositional first
    · rw [if_pos positional]
      exact .inl rfl
    · rw [if_neg positional]
      exact .inr rfl

private theorem magnitudeChars_numberChars (x : Magnitude) :
    ∀ c ∈ value.magnitudeChars x, isNumberChar c = true := by
  rcases magnitudeChars_shape x with h | ⟨n, first, h | h⟩ <;> rw [h]
  · simp [isNumberChar]
  · exact positional_numberChars first (digits_numberChars n)
  · exact scientific_numberChars first (digits_numberChars n)

private theorem exists_floatChar (x : Magnitude) :
    ∃ c ∈ value.magnitudeChars x, isFloatChar c = true := by
  rcases magnitudeChars_shape x with h | ⟨n, first, h | h⟩ <;> rw [h]
  · exact ⟨'.', by decide, rfl⟩
  · exact ⟨'.', point_mem_positional _ first, rfl⟩
  · exact ⟨'e', by simp [scientific], rfl⟩

end Layout

namespace Number

private theorem float_toChars (x : FiniteDouble) : (Number.float x).toChars =
    if x.negative then '-' :: Layout.value.magnitudeChars x.magnitude
    else Layout.value.magnitudeChars x.magnitude := by
  rw [toChars, Layout.finite, String.toList_ofList]

theorem toChars_numberChars (n : Number) : ∀ c ∈ n.toChars, isNumberChar c = true := by
  cases n with
  | integer n =>
    rw [toChars, integerChars]
    split
    · exact List.forall_mem_cons.mpr ⟨rfl, digits_numberChars _⟩
    · exact digits_numberChars _
  | float x =>
    rw [float_toChars]
    split
    · exact List.forall_mem_cons.mpr ⟨rfl, Layout.magnitudeChars_numberChars _⟩
    · exact Layout.magnitudeChars_numberChars _

private theorem integer_not_floatChars (n : Integer) :
    ∀ c ∈ (Number.integer n).toChars, isFloatChar c = false := by
  rw [toChars, integerChars]
  split
  · exact List.forall_mem_cons.mpr ⟨rfl, digits_not_floatChars _⟩
  · exact digits_not_floatChars _

private theorem float_floatChar (x : FiniteDouble) :
    ∃ c ∈ (Number.float x).toChars, isFloatChar c = true := by
  obtain ⟨c, hc, float⟩ := Layout.exists_floatChar x.magnitude
  rw [float_toChars]
  split
  · exact ⟨c, List.mem_cons_of_mem _ hc, float⟩
  · exact ⟨c, hc, float⟩

theorem toChars_ne_nil (n : Number) : n.toChars ≠ [] := by
  cases n with
  | integer n =>
    rw [toChars, integerChars]
    split
    · exact List.cons_ne_nil _ _
    · exact Nat.toDigits_ne_nil
  | float x =>
    obtain ⟨c, hc, _⟩ := float_floatChar x
    exact List.ne_nil_of_mem hc

theorem sameKind_of_toChars_eq {m n : Number} (h : m.toChars = n.toChars) : m.SameKind n := by
  cases m with
  | integer m =>
    cases n with
    | integer n => trivial
    | float x =>
      obtain ⟨c, hc, float⟩ := float_floatChar x
      rw [integer_not_floatChars m c (h ▸ hc)] at float
      cases float
  | float x =>
    cases n with
    | integer n =>
      obtain ⟨c, hc, float⟩ := float_floatChar x
      rw [integer_not_floatChars n c (h ▸ hc)] at float
      cases float
    | float y => trivial

end Number

/-- What follows the text of a number does not go on with it. -/
def StopsNumber (rest : List Char) : Prop := ∀ c ∈ rest.head?, isNumberChar c = false

private theorem takeWhile_numberChars {text rest : List Char}
    (chars : ∀ c ∈ text, isNumberChar c = true) (stops : StopsNumber rest) :
    (text ++ rest).takeWhile isNumberChar = text := by
  rw [List.takeWhile_append_of_pos chars]
  cases rest with
  | nil => simp
  | cons c rest =>
    have stop : isNumberChar c = false := stops c rfl
    simp [stop]

/-- The text of a number tells where it ends. -/
theorem Number.toChars_cancel {m n : Number} {u v : List Char} (hu : StopsNumber u)
    (hv : StopsNumber v) (h : m.toChars ++ u = n.toChars ++ v) : m.toChars = n.toChars ∧ u = v := by
  have same : m.toChars = n.toChars := by
    rw [← takeWhile_numberChars m.toChars_numberChars hu, h,
      takeWhile_numberChars n.toChars_numberChars hv]
  rw [same] at h
  exact ⟨same, List.append_cancel_left h⟩

end LabRegistry

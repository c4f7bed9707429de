import LabRegistry.Application.Config
import LabRegistry.Proofs.Text.Trimmed
import Mathlib.Data.Nat.Digits.Defs
import Mathlib.Tactic.Ring

/-!
# Configurations that environments give

Each of the three variables has its own language: widths are decimal numbers, switches are words. A
configuration is given exactly if every variable that is set is in its language, whatever white space
stands around it, and it consists of what the variables denote. The first one that is not is an error.
-/
namespace LabRegistry.AppConfig

open Text

/-! ## Languages of the variables -/

def digitOf (c : Char) : Nat := c.toNat - '0'.toNat

/-- Within white space stand an optional plus sign and decimal digits of a number from 1 to
`2^64 - 1`. -/
def DenotesWidth (raw : List Char) (n : Nat) : Prop :=
  ∃ sign digits, Trims raw (sign ++ digits) ∧ (sign = [] ∨ sign = ['+']) ∧
    digits ≠ [] ∧ (∀ c ∈ digits, c.isDigit = true) ∧
    n = Nat.ofDigits 10 (digits.reverse.map digitOf) ∧ 1 ≤ n ∧ n ≤ 2 ^ 64 - 1

def switchWords : Bool → List String
  | true => ["1", "true", "yes", "on"]
  | false => ["0", "false", "no", "off", ""]

/-- Within white space stands one of the words for on or for off, in any ASCII case. -/
def DenotesSwitch (raw : List Char) (on : Bool) : Prop :=
  ∃ word, Trims raw word ∧ String.ofList (word.map Char.toLower) ∈ switchWords on

def keys : List String := [widthVariable, logVariable, simplifyVariable]

/-- A text denotes something as the value of a variable. -/
def Accepts (key raw : String) : Prop :=
  if key = widthVariable then ∃ n, DenotesWidth raw.toList n else ∃ on, DenotesSwitch raw.toList on

/-- The variable is not set, or what it is set to denotes something. -/
def WellFormed (lookup : String → Option String) (key : String) : Prop :=
  ∀ raw, lookup key = some raw → Accepts key raw

/-- The error that shows a malformed variable. -/
def complaint (key raw : String) : AppError :=
  if key = widthVariable then .badWidth key raw else .badSwitch key raw

/-- What the variable denotes, or the default where it is not set. -/
def Gives {α : Type} (lookup : String → Option String) (key : String)
    (Denotes : List Char → α → Prop) (default x : α) : Prop :=
  match lookup key with
  | none => x = default
  | some raw => Denotes raw.toList x

/-- The same variables are set, to the same texts but for white space that is added around them. -/
def Padded (lookup lookup' : String → Option String) : Prop :=
  ∀ key ∈ keys, lookup key = none ∧ lookup' key = none ∨
    ∃ raw left right, lookup key = some raw ∧ Blank left ∧ Blank right ∧
      lookup' key = some (String.ofList (left ++ raw.toList ++ right))

/-! ## Reading numbers and words -/

private theorem foldl_digits (digits : List Char) (total : Nat) :
    digits.foldl (fun total c => 10 * total + digitOf c) total =
      total * 10 ^ digits.length + Nat.ofDigits 10 (digits.reverse.map digitOf) := by
  induction digits generalizing total with
  | nil => simp
  | cons c rest ih =>
    rw [List.foldl_cons, ih, List.reverse_cons, List.map_append, Nat.ofDigits_append, List.length_map,
      List.length_reverse, List.length_cons, List.map_singleton, Nat.ofDigits_singleton]
    ring

/-- The text without a plus sign in front. -/
def unsigned : List Char → List Char
  | '+' :: rest => rest
  | text => text

private theorem unsigned_eq_iff {text digits : List Char} (plain : ∀ c ∈ digits, c.isDigit = true) :
    unsigned text = digits ↔ ∃ sign, text = sign ++ digits ∧ (sign = [] ∨ sign = ['+']) := by
  constructor
  · rintro rfl
    rw [unsigned.eq_def]
    split
    · exact ⟨['+'], rfl, .inr rfl⟩
    · exact ⟨[], rfl, .inl rfl⟩
  · rintro ⟨sign, rfl, rfl | rfl⟩
    · rw [List.nil_append, unsigned.eq_def]
      split
      · exact absurd (plain '+' List.mem_cons_self) (by decide)
      · rfl
    · rfl

private theorem readWidth?_eq (text : List Char) : readWidth? text =
    if (unsigned text).isEmpty || !(unsigned text).all Char.isDigit then none
    else
      let n := (unsigned text).foldl (fun total c => 10 * total + digitOf c) 0
      if 0 < n ∧ n < 0x10000000000000000 then some n else none :=
  rfl

private theorem readWidth?_eq_some {raw : List Char} {n : Nat} :
    readWidth? (trim raw) = some n ↔ DenotesWidth raw n := by
  have value (digits : List Char) : digits.foldl (fun total c => 10 * total + digitOf c) 0 =
      Nat.ofDigits 10 (digits.reverse.map digitOf) := by
    rw [foldl_digits, Nat.zero_mul, Nat.zero_add]
  rw [readWidth?_eq]
  dsimp only
  rw [value]
  constructor
  · intro read
    split at read
    case isTrue => cases read
    case isFalse numeral =>
      split at read
      case isTrue range =>
        cases read
        rw [Bool.or_eq_true, not_or, List.isEmpty_iff, Bool.not_eq_true', Bool.not_eq_false,
          List.all_eq_true] at numeral
        obtain ⟨sign, split, signs⟩ := (unsigned_eq_iff numeral.2).mp rfl
        refine ⟨sign, _, ?_, signs, numeral.1, numeral.2, rfl, range.1, by omega⟩
        rw [← split]
        exact trims_trim raw
      case isFalse => cases read
  · rintro ⟨sign, digits, trims, signs, some, plain, rfl, positive, small⟩
    have digits_eq : unsigned (trim raw) = digits :=
      (unsigned_eq_iff plain).mpr ⟨sign, trims.trim_eq, signs⟩
    have numeral : (digits.isEmpty || !digits.all Char.isDigit) = false := by
      rw [Bool.or_eq_false_iff, List.isEmpty_eq_false_iff, Bool.not_eq_false', List.all_eq_true]
      exact ⟨some, plain⟩
    rw [digits_eq, numeral, if_neg Bool.false_ne_true, if_pos ⟨positive, by omega⟩]

private theorem not_both_words {word : String} (off : word ∈ switchWords false) :
    word ∉ switchWords true := by
  revert word
  decide

private theorem readSwitch?_eq_some {raw : List Char} {on : Bool} :
    readSwitch? (trim raw) = some on ↔ DenotesSwitch raw on := by
  have word : DenotesSwitch raw on ↔
      String.ofList ((trim raw).map Char.toLower) ∈ switchWords on := by
    constructor
    · rintro ⟨word, trims, mem⟩
      rwa [trims.trim_eq]
    · exact fun mem => ⟨_, trims_trim raw, mem⟩
  rw [word]
  change (if (switchWords true).contains _ then some true
    else if (switchWords false).contains _ then some false else none) = some on ↔ _
  by_cases isOn : String.ofList ((trim raw).map Char.toLower) ∈ switchWords true
  · rw [if_pos (List.contains_iff_mem.mpr isOn)]
    cases on with
    | true => exact iff_of_true rfl isOn
    | false => exact iff_of_false nofun fun off => not_both_words off isOn
  · rw [if_neg (mt List.contains_iff_mem.mp isOn)]
    by_cases isOff : String.ofList ((trim raw).map Char.toLower) ∈ switchWords false
    · rw [if_pos (List.contains_iff_mem.mpr isOff)]
      cases on with
      | true => exact iff_of_false nofun isOn
      | false => exact iff_of_true rfl isOff
    · rw [if_neg (mt List.contains_iff_mem.mp isOff)]
      cases on with
      | true => exact iff_of_false nofun isOn
      | false => exact iff_of_false nofun isOff

/-! ## One variable -/

section Variable

variable {α : Type} {lookup lookup' : String → Option String} {key : String}
  {read? : List Char → Option α} {Denotes : List Char → α → Prop}
  {malformed : String → String → AppError} {default x : α}

private theorem readVariable_eq_ok (reads : ∀ raw x, read? (trim raw) = some x ↔ Denotes raw x) :
    readVariable lookup read? malformed default key = .ok x ↔ Gives lookup key Denotes default x := by
  rw [readVariable, Gives]
  cases lookup key with
  | none => rw [Except.ok.injEq, eq_comm]
  | some raw =>
    dsimp only
    rw [← reads]
    cases read? (trim raw.toList) with
    | none => exact iff_of_false nofun nofun
    | some y => rw [Except.ok.injEq, Option.some.injEq]

private theorem readVariable_of_malformed
    (reads : ∀ raw x, read? (trim raw) = some x ↔ Denotes raw x)
    {raw : String} (set : lookup key = some raw) (none : ¬ ∃ x, Denotes raw.toList x) :
    readVariable lookup read? malformed default key = .error (malformed key raw) := by
  have unread : read? (trim raw.toList) = .none :=
    Option.eq_none_iff_forall_ne_some.mpr fun x read => none ⟨x, (reads _ x).mp read⟩
  rw [readVariable, set]
  dsimp only
  rw [unread]

private theorem exists_gives (default : α)
    (h : ∀ raw, lookup key = some raw → ∃ x, Denotes raw.toList x) :
    ∃ x, Gives lookup key Denotes default x := by
  unfold Gives
  cases set : lookup key with
  | none => exact ⟨default, rfl⟩
  | some raw => exact h raw set

private theorem gives_of_padded (pads : ∀ {left right raw} {x : α}, Blank left → Blank right →
      (Denotes (left ++ raw ++ right) x ↔ Denotes raw x))
    (padded : Padded lookup lookup') (mem : key ∈ keys) :
    Gives lookup' key Denotes default x ↔ Gives lookup key Denotes default x := by
  unfold Gives
  rcases padded key mem with ⟨unset, unset'⟩ | ⟨raw, left, right, set, hleft, hright, set'⟩
  · rw [unset, unset']
  · rw [set, set']
    dsimp only
    rw [String.toList_ofList]
    exact pads hleft hright

end Variable

/-! ## All variables -/

variable {lookup lookup' : String → Option String} {config : AppConfig} {key : String}

/-- The configuration consists of what the variables denote. -/
structure Denoted (lookup : String → Option String) (config : AppConfig) : Prop where
  maxChars : Gives lookup widthVariable DenotesWidth 80 config.maxChars
  logsChanges : Gives lookup logVariable DenotesSwitch false config.logsChanges
  shortSnapshots : Gives lookup simplifyVariable DenotesSwitch false config.shortSnapshots

private theorem accepts_width {raw : String} :
    Accepts widthVariable raw ↔ ∃ n, DenotesWidth raw.toList n := by
  rw [Accepts, if_pos rfl]

private theorem accepts_switch {raw : String} (other : key ≠ widthVariable) :
    Accepts key raw ↔ ∃ on, DenotesSwitch raw.toList on := by
  rw [Accepts, if_neg other]

private theorem log_ne_width : logVariable ≠ widthVariable := by decide

private theorem simplify_ne_width : simplifyVariable ≠ widthVariable := by decide

private theorem readVariable_width {n : Nat} :
    readVariable lookup readWidth? .badWidth 80 widthVariable = .ok n ↔
      Gives lookup widthVariable DenotesWidth 80 n :=
  readVariable_eq_ok fun _ _ => readWidth?_eq_some

private theorem readVariable_switch {on : Bool} :
    readVariable lookup readSwitch? .badSwitch false key = .ok on ↔
      Gives lookup key DenotesSwitch false on :=
  readVariable_eq_ok fun _ _ => readSwitch?_eq_some

private theorem exists_width (fine : WellFormed lookup widthVariable) :
    ∃ n, Gives lookup widthVariable DenotesWidth 80 n :=
  exists_gives 80 fun raw set => accepts_width.mp (fine raw set)

private theorem exists_switch (fine : WellFormed lookup key) (other : key ≠ widthVariable) :
    ∃ on, Gives lookup key DenotesSwitch false on :=
  exists_gives false fun raw set => (accepts_switch other).mp (fine raw set)

private theorem exists_denoted (fine : ∀ key ∈ keys, WellFormed lookup key) :
    ∃ config, Denoted lookup config := by
  obtain ⟨maxChars, width⟩ := exists_width (fine widthVariable (by decide))
  obtain ⟨logsChanges, logs⟩ := exists_switch (fine logVariable (by decide)) log_ne_width
  obtain ⟨shortSnapshots, short⟩ :=
    exists_switch (fine simplifyVariable (by decide)) simplify_ne_width
  exact ⟨{ maxChars, logsChanges, shortSnapshots }, width, logs, short⟩

private theorem ofLookup_of_denoted (h : Denoted lookup config) : ofLookup lookup = .ok config := by
  rw [ofLookup, readVariable_width.mpr h.maxChars, readVariable_switch.mpr h.logsChanges,
    readVariable_switch.mpr h.shortSnapshots]
  rfl

private theorem exists_complaint_message (key raw : String) :
    ∃ rest, (complaint key raw).message = "Error de configuración: " ++ key ++ rest := by
  have regroup (shown what quote : String) : shown ++ what ++ raw ++ quote =
      shown ++ (what ++ raw ++ quote) := by
    rw [String.append_assoc, String.append_assoc, String.append_assoc]
  rw [complaint]
  split
  · exact ⟨_, regroup _ _ _⟩
  · exact ⟨_, regroup _ _ _⟩

/-- The variable is the first one that is malformed. -/
structure FirstMalformed (lookup : String → Option String) (key raw : String) : Prop where
  first : ∃ before after, keys = before ++ key :: after ∧ ∀ k ∈ before, WellFormed lookup k
  set : lookup key = some raw
  refused : ¬ Accepts key raw

private theorem exists_firstMalformed (h : ¬ ∀ key ∈ keys, WellFormed lookup key) :
    ∃ key raw, FirstMalformed lookup key raw := by
  have first (xs : List String) (h : ¬ ∀ key ∈ xs, WellFormed lookup key) : ∃ before key after,
      xs = before ++ key :: after ∧ (∀ k ∈ before, WellFormed lookup k) ∧ ¬ WellFormed lookup key := by
    induction xs with
    | nil => exact absurd nofun h
    | cons key xs ih =>
      by_cases fine : WellFormed lookup key
      · have rest : ¬ ∀ key ∈ xs, WellFormed lookup key :=
          fun rest => h (List.forall_mem_cons.mpr ⟨fine, rest⟩)
        obtain ⟨before, refused, after, rfl, others, bad⟩ := ih rest
        exact ⟨key :: before, refused, after, rfl, List.forall_mem_cons.mpr ⟨fine, others⟩, bad⟩
      · exact ⟨[], key, xs, rfl, nofun, fine⟩
  obtain ⟨before, key, after, split, fine, bad⟩ := first keys h
  rw [WellFormed, not_forall] at bad
  obtain ⟨raw, bad⟩ := bad
  rw [Classical.not_imp] at bad
  exact ⟨key, raw, ⟨before, after, split, fine⟩, bad.1, bad.2⟩

private theorem ofLookup_of_malformed {raw : String} (h : FirstMalformed lookup key raw) :
    ofLookup lookup = .error (complaint key raw) := by
  obtain ⟨⟨before, after, split, fine⟩, set, refused⟩ := h
  have stops (other : key ≠ widthVariable) :
      readVariable lookup readSwitch? .badSwitch false key = .error (complaint key raw) := by
    rw [complaint, if_neg other]
    exact readVariable_of_malformed (fun _ _ => readSwitch?_eq_some) set
      (mt (accepts_switch other).mpr refused)
  -- The variable is one of three, and those before it are read.
  rcases before with _ | ⟨first, _ | ⟨second, _ | ⟨third, before⟩⟩⟩
  · obtain ⟨rfl, -⟩ := List.cons.inj split
    rw [ofLookup, complaint, if_pos rfl, readVariable_of_malformed (fun _ _ => readWidth?_eq_some) set
      (mt accepts_width.mpr refused)]
    rfl
  · obtain ⟨isFirst, rest⟩ := List.cons.inj split
    obtain ⟨isKey, -⟩ := List.cons.inj rest
    subst isFirst isKey
    obtain ⟨n, width⟩ := exists_width (fine _ List.mem_cons_self)
    rw [ofLookup, readVariable_width.mpr width, stops log_ne_width]
    rfl
  · obtain ⟨isFirst, rest⟩ := List.cons.inj split
    obtain ⟨isSecond, rest⟩ := List.cons.inj rest
    obtain ⟨isKey, -⟩ := List.cons.inj rest
    subst isFirst isSecond isKey
    obtain ⟨n, width⟩ := exists_width (fine _ List.mem_cons_self)
    obtain ⟨on, logs⟩ :=
      exists_switch (fine _ (List.mem_cons_of_mem _ List.mem_cons_self)) log_ne_width
    rw [ofLookup, readVariable_width.mpr width, readVariable_switch.mpr logs, stops simplify_ne_width]
    rfl
  · exact absurd (congrArg List.length split) (by simp [keys])

private theorem ofLookup_cases (lookup : String → Option String) :
    (∃ config, Denoted lookup config ∧ ofLookup lookup = .ok config) ∨
      ∃ key raw, FirstMalformed lookup key raw ∧ ofLookup lookup = .error (complaint key raw) := by
  by_cases fine : ∀ key ∈ keys, WellFormed lookup key
  · obtain ⟨config, denoted⟩ := exists_denoted fine
    exact .inl ⟨config, denoted, ofLookup_of_denoted denoted⟩
  · obtain ⟨key, raw, first⟩ := exists_firstMalformed fine
    exact .inr ⟨key, raw, first, ofLookup_of_malformed first⟩

private theorem ofLookup_eq_ok : ofLookup lookup = .ok config ↔ Denoted lookup config := by
  refine ⟨fun run => ?_, ofLookup_of_denoted⟩
  rcases ofLookup_cases lookup with ⟨given, denoted, same⟩ | ⟨key, raw, -, same⟩
  · rw [same] at run
    cases run
    exact denoted
  · rw [same] at run
    cases run

private theorem denotesWidth_pad {left right raw : List Char} {n : Nat} (hleft : Blank left)
    (hright : Blank right) : DenotesWidth (left ++ raw ++ right) n ↔ DenotesWidth raw n := by
  rw [← readWidth?_eq_some, trim_pad raw hleft hright, readWidth?_eq_some]

private theorem denotesSwitch_pad {left right raw : List Char} {on : Bool} (hleft : Blank left)
    (hright : Blank right) : DenotesSwitch (left ++ raw ++ right) on ↔ DenotesSwitch raw on := by
  rw [← readSwitch?_eq_some, trim_pad raw hleft hright, readSwitch?_eq_some]

private theorem denoted_of_padded (padded : Padded lookup lookup') :
    Denoted lookup' config ↔ Denoted lookup config := by
  have width := @gives_of_padded _ _ _ _ _ 80 config.maxChars denotesWidth_pad padded
    (by decide : widthVariable ∈ keys)
  have logs := @gives_of_padded _ _ _ _ _ false config.logsChanges denotesSwitch_pad padded
    (by decide : logVariable ∈ keys)
  have short := @gives_of_padded _ _ _ _ _ false config.shortSnapshots denotesSwitch_pad padded
    (by decide : simplifyVariable ∈ keys)
  constructor
  · rintro ⟨first, second, third⟩
    exact ⟨width.mp first, logs.mp second, short.mp third⟩
  · rintro ⟨first, second, third⟩
    exact ⟨width.mpr first, logs.mpr second, short.mpr third⟩

private theorem ofLookup_congr (same : ∀ key ∈ keys, lookup' key = lookup key) :
    ofLookup lookup' = ofLookup lookup := by
  have read {α : Type} (read? : List Char → Option α) (malformed : String → String → AppError)
      (default : α) (key : String) (mem : key ∈ keys) :
      readVariable lookup' read? malformed default key =
        readVariable lookup read? malformed default key := by
    rw [readVariable, same key mem, readVariable]
  rw [ofLookup, read _ _ _ widthVariable (by decide), read _ _ _ logVariable (by decide),
    read _ _ _ simplifyVariable (by decide), ofLookup]

/-- An environment gives a configuration exactly if each of the three variables is not set or denotes
something, and then the one that they denote. Other variables do not matter, and white space around
the values does not either. Else the error shows the first variable that denotes nothing. -/
theorem ofLookup_outcome (lookup : String → Option String) :
    ((∃ config, ofLookup lookup = .ok config) ↔ ∀ key ∈ keys, WellFormed lookup key) ∧
    (∀ config, ofLookup lookup = .ok config ↔
      Gives lookup widthVariable DenotesWidth 80 config.maxChars ∧
      Gives lookup logVariable DenotesSwitch false config.logsChanges ∧
      Gives lookup simplifyVariable DenotesSwitch false config.shortSnapshots) ∧
    (∀ error, ofLookup lookup = .error error ↔ ∃ key raw, FirstMalformed lookup key raw ∧
      error = complaint key raw ∧
      ∃ rest, error.message = "Error de configuración: " ++ key ++ rest) ∧
    (∀ lookup', (∀ key ∈ keys, lookup' key = lookup key) → ofLookup lookup' = ofLookup lookup) ∧
    ∀ lookup', Padded lookup lookup' → ∀ config,
      ofLookup lookup' = .ok config ↔ ofLookup lookup = .ok config := by
  refine ⟨⟨?_, fun fine => ?_⟩, fun config => ⟨fun run => ?_, ?_⟩, fun error => ⟨fun run => ?_, ?_⟩,
    fun _ => ofLookup_congr, fun lookup' padded config => ?_⟩
  · rintro ⟨config, run⟩
    by_contra bad
    obtain ⟨key, raw, first⟩ := exists_firstMalformed bad
    rw [ofLookup_of_malformed first] at run
    cases run
  · obtain ⟨config, denoted⟩ := exists_denoted fine
    exact ⟨config, ofLookup_of_denoted denoted⟩
  · obtain ⟨width, logs, short⟩ := ofLookup_eq_ok.mp run
    exact ⟨width, logs, short⟩
  · rintro ⟨width, logs, short⟩
    exact ofLookup_of_denoted ⟨width, logs, short⟩
  · rcases ofLookup_cases lookup with ⟨config, -, same⟩ | ⟨key, raw, first, same⟩
    · rw [same] at run
      cases run
    · rw [same] at run
      cases run
      exact ⟨key, raw, first, rfl, exists_complaint_message key raw⟩
  · rintro ⟨key, raw, first, rfl, -⟩
    exact ofLookup_of_malformed first
  · rw [ofLookup_eq_ok, ofLookup_eq_ok]
    exact denoted_of_padded padded

end LabRegistry.AppConfig

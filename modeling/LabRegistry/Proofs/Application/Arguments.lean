import LabRegistry.Application.CommandLine
import Mathlib.Data.List.Induction

/-!
# Accepted arguments

Arguments are accepted if all of them are known and at most one chooses the form of the output. What
they choose then depends on which of them occur, and neither on their order nor on repetitions. Of
other arguments the first one is named with which they are no longer acceptable.
-/
namespace LabRegistry.RenderOptions

def formats : List String := ["snapshot", "print"]

def switches : List String := ["--simplify", "--update"]

/-- All arguments are known, and at most one of them chooses the form of the output. -/
structure Acceptable (args : List String) : Prop where
  known : ∀ argument ∈ args, argument ∈ formats ∨ argument ∈ switches
  once : args.countP (· ∈ formats) ≤ 1

/-- What arguments choose that choose the form of the output at most once. -/
def chosen (args : List String) : RenderOptions where
  format := if "print" ∈ args then .print else .snapshot
  simplify := "--simplify" ∈ args
  update := "--update" ∈ args

def choosesFormat (args : List String) : Bool := args.any (· ∈ formats)

variable {args args' before : List String} {argument : String}

/-! ## Acceptable arguments -/

private theorem acceptable_nil : Acceptable [] := ⟨nofun, Nat.zero_le _⟩

private theorem switch_not_format (switch : argument ∈ switches) : argument ∉ formats := by
  rw [switches, List.mem_cons, List.mem_singleton] at switch
  rcases switch with rfl | rfl
  all_goals decide

private theorem countP_formats_eq_zero (none : choosesFormat args = false) :
    args.countP (· ∈ formats) = 0 := by
  rw [List.countP_eq_zero]
  exact List.any_eq_false.mp none

private theorem countP_formats_pos (some : choosesFormat args = true) :
    0 < args.countP (· ∈ formats) := by
  rw [List.countP_pos_iff]
  exact List.any_eq_true.mp some

private theorem acceptable_concat_iff : Acceptable (before ++ [argument]) ↔ Acceptable before ∧
    (argument ∈ switches ∨ argument ∈ formats ∧ choosesFormat before = false) := by
  have count : (before ++ [argument]).countP (· ∈ formats) =
      before.countP (· ∈ formats) + if argument ∈ formats then 1 else 0 := by
    rw [List.countP_append, List.countP_singleton]
    simp only [decide_eq_true_eq]
  constructor
  · rintro ⟨known, once⟩
    rw [count] at once
    refine ⟨⟨fun a mem => known a (List.mem_append_left _ mem), by omega⟩, ?_⟩
    rcases known argument (List.mem_append_right _ List.mem_cons_self) with format | switch
    · refine .inr ⟨format, ?_⟩
      by_contra seen
      have more := countP_formats_pos ((Bool.not_eq_false _).mp seen)
      rw [if_pos format] at once
      omega
    · exact .inl switch
  · rintro ⟨⟨known, once⟩, last⟩
    constructor
    · intro a mem
      rcases List.mem_append.mp mem with mem | mem
      · exact known a mem
      · rw [List.mem_singleton.mp mem]
        exact last.symm.imp And.left id
    · rw [count]
      rcases last with switch | ⟨format, none⟩
      · rw [if_neg (switch_not_format switch)]
        exact once
      · have unused := countP_formats_eq_zero none
        rw [if_pos format]
        omega

private theorem Acceptable.of_append (h : Acceptable (before ++ args)) : Acceptable before where
  known argument mem := h.known argument (List.mem_append_left _ mem)
  once := by
    have once := h.once
    rw [List.countP_append] at once
    omega

private theorem Acceptable.perm (h : Acceptable args) (perm : args.Perm args') :
    Acceptable args' where
  known argument mem := h.known argument (perm.mem_iff.mpr mem)
  once := by
    rw [← perm.countP_eq]
    exact h.once

private theorem Acceptable.cons_switch (h : Acceptable args) (switch : argument ∈ switches) :
    Acceptable (argument :: args) where
  known a mem := by
    rcases List.mem_cons.mp mem with rfl | mem
    · exact .inr switch
    · exact h.known a mem
  once := by
    rw [List.countP_cons_of_neg (by simpa using switch_not_format switch)]
    exact h.once

private theorem chosen_congr (same : ∀ argument, argument ∈ args ↔ argument ∈ args') :
    chosen args = chosen args' := by
  simp only [chosen, same]

/-! ## One argument -/

private theorem readArgs_accepted (h : Acceptable (before ++ [argument])) (rest : List String) :
    readArgs (chosen before) (choosesFormat before) (argument :: rest) =
      readArgs (chosen (before ++ [argument])) (choosesFormat (before ++ [argument])) rest := by
  have seen : choosesFormat (before ++ [argument]) =
      (choosesFormat before || decide (argument ∈ formats)) := by
    simp [choosesFormat]
  rw [seen]
  rcases (acceptable_concat_iff.mp h).2 with switch | ⟨format, none⟩
  · have other : decide (argument ∈ formats) = false := by simpa using switch_not_format switch
    rw [other, Bool.or_false]
    rw [switches, List.mem_cons, List.mem_singleton] at switch
    rcases switch with rfl | rfl
    all_goals simp [readArgs, chosen, OutputFormat.ofName?]
  · have unprinted : "print" ∉ before := by
      intro mem
      exact absurd (by decide) (List.any_eq_false.mp none "print" mem)
    rw [none, decide_eq_true format, Bool.false_or]
    rw [formats, List.mem_cons, List.mem_singleton] at format
    rcases format with rfl | rfl
    · simp [readArgs, chosen, OutputFormat.ofName?, unprinted]
    · simp [readArgs, chosen, OutputFormat.ofName?]

private theorem readArgs_refused (h : Acceptable before)
    (refused : ¬ Acceptable (before ++ [argument]))
    (rest : List String) :
    readArgs (chosen before) (choosesFormat before) (argument :: rest) =
      .error (.unexpectedArgument argument) := by
  have last := fun fits => refused (acceptable_concat_iff.mpr ⟨h, fits⟩)
  obtain ⟨notSwitch, taken⟩ := not_or.mp last
  rw [switches, List.mem_cons, List.mem_singleton, not_or] at notSwitch
  by_cases format : argument ∈ formats
  · have seen : choosesFormat before = true :=
      (Bool.not_eq_false _).mp fun none => taken ⟨format, none⟩
    rw [seen]
    rw [formats, List.mem_cons, List.mem_singleton] at format
    rcases format with rfl | rfl
    all_goals rfl
  · rw [formats, List.mem_cons, List.mem_singleton, not_or] at format
    rw [readArgs, if_neg notSwitch.1, if_neg notSwitch.2]
    rw [OutputFormat.ofName?, if_neg format.1, if_neg format.2]

/-! ## All arguments -/

private theorem ofArgs_append (h : Acceptable before) (rest : List String) :
    ofArgs (before ++ rest) = readArgs (chosen before) (choosesFormat before) rest := by
  induction before using List.reverseRecOn generalizing rest with
  | nil => rfl
  | append_singleton before argument ih =>
    rw [← List.append_cons, ih h.of_append, readArgs_accepted h]

private theorem ofArgs_of_acceptable (h : Acceptable args) : ofArgs args = .ok (chosen args) := by
  have run := ofArgs_append h []
  rwa [List.append_nil] at run

private theorem exists_refused (h : ¬ Acceptable args) : ∃ before argument rest,
    args = before ++ argument :: rest ∧ Acceptable before ∧ ¬ Acceptable (before ++ [argument]) := by
  induction args using List.reverseRecOn with
  | nil => exact absurd acceptable_nil h
  | append_singleton args argument ih =>
    by_cases fits : Acceptable args
    · exact ⟨args, argument, [], rfl, fits, h⟩
    · obtain ⟨before, refused, rest, rfl, split⟩ := ih fits
      exact ⟨before, refused, rest ++ [argument], List.append_assoc _ _ _, split⟩

/-- Reading succeeds exactly on acceptable arguments. The options then depend only on which
arguments occur; the order does not matter, nor does a switch that is repeated anywhere. Else the
error shows the first argument with which those up to it are not acceptable. -/
theorem ofArgs_outcome (args : List String) :
    ((∃ options, ofArgs args = .ok options) ↔ Acceptable args) ∧
    (Acceptable args → ofArgs args = .ok (chosen args) ∧
      (∀ args', Acceptable args' → (∀ argument, argument ∈ args' ↔ argument ∈ args) →
        ofArgs args' = ofArgs args) ∧
      (∀ args', args.Perm args' → ofArgs args' = ofArgs args) ∧
      ∀ before after, args = before ++ after → ∀ switch ∈ switches, switch ∈ args →
        ofArgs (before ++ switch :: after) = ofArgs args) ∧
    ∀ error, ofArgs args = .error error ↔ ∃ before argument rest,
      args = before ++ argument :: rest ∧ Acceptable before ∧ ¬ Acceptable (before ++ [argument]) ∧
      error = .unexpectedArgument argument ∧
      error.message = "Uso inválido: unexpected argument '" ++ argument ++ "'\n" ++ usage := by
  have refusal {before rest : List String} {argument : String} (fits : Acceptable before)
      (refused : ¬ Acceptable (before ++ [argument])) :
      ofArgs (before ++ argument :: rest) = .error (.unexpectedArgument argument) := by
    rw [ofArgs_append fits, readArgs_refused fits refused]
  refine ⟨⟨?_, fun h => ⟨_, ofArgs_of_acceptable h⟩⟩, fun h => ?_, fun error => ⟨?_, ?_⟩⟩
  · rintro ⟨options, run⟩
    by_contra other
    obtain ⟨before, argument, rest, rfl, fits, refused⟩ := exists_refused other
    rw [refusal fits refused] at run
    cases run
  · have same {others : List String} (fits : Acceptable others)
        (occur : ∀ argument, argument ∈ others ↔ argument ∈ args) : ofArgs others = ofArgs args := by
      rw [ofArgs_of_acceptable h, ofArgs_of_acceptable fits, chosen_congr occur]
    refine ⟨ofArgs_of_acceptable h, fun _ => same, ?_, ?_⟩
    · intro args' perm
      exact same (h.perm perm) fun argument => perm.mem_iff.symm
    · rintro before after rfl switch isSwitch occurs
      have moved : (switch :: (before ++ after)).Perm (before ++ switch :: after) :=
        List.perm_middle.symm
      refine same ((h.cons_switch isSwitch).perm moved) fun argument => ?_
      rw [← moved.mem_iff, List.mem_cons]
      exact or_iff_right_of_imp fun eq => eq ▸ occurs
  · intro failed
    by_cases fits : Acceptable args
    · rw [ofArgs_of_acceptable fits] at failed
      cases failed
    · obtain ⟨before, argument, rest, rfl, fits, refused⟩ := exists_refused fits
      rw [refusal fits refused] at failed
      cases failed
      exact ⟨before, argument, rest, rfl, fits, refused, rfl, rfl⟩
  · rintro ⟨before, argument, rest, rfl, fits, refused, rfl, -⟩
    exact refusal fits refused

end LabRegistry.RenderOptions

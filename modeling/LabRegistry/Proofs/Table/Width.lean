import LabRegistry.Proofs.Containment.Attained
import LabRegistry.Proofs.Engine.Wiring

/-!
# How wide tables are

A table is made of whole lines. Rulers are as wide as asked for, and rows are cut unless the width is
less than three. Titles and the headers of columns are not cut: titles are as long as the names of nodes,
and headers have at most 55 characters, since the column of names is limited.
-/
namespace LabRegistry

namespace Table

/-! ## Lines -/

/-- The lines of a text. After a line break at its end comes an empty one. -/
def lines (text : String) : List (List Char) := text.toList.splitOn '\n'

private theorem lines_append (text rest : String) :
    lines (text ++ "\n" ++ rest) = lines text ++ lines rest := by
  rw [lines, String.toList_append, String.toList_append, List.append_assoc]
  exact List.splitOn_append_cons_self text.toList rest.toList

private theorem length_of_mem_splitOn {sep : Char} {line chars : List Char}
    (mem : line ∈ chars.splitOn sep) :
    line.length ≤ chars.length := by
  induction chars generalizing line with
  | nil =>
    rw [List.splitOn_nil, List.mem_singleton] at mem
    rw [mem]
  | cons c chars ih =>
    rw [List.splitOn_cons_eq_if_modifyHead] at mem
    split at mem
    · rcases List.mem_cons.mp mem with rfl | mem
      · exact Nat.zero_le _
      · exact (ih mem).trans (Nat.le_succ _)
    · cases pieces : chars.splitOn sep with
      | nil =>
        rw [pieces] at mem
        cases mem
      | cons first rest =>
        rw [pieces] at mem ih
        rcases List.mem_cons.mp mem with rfl | mem
        · exact Nat.succ_le_succ (ih List.mem_cons_self)
        · exact (ih (List.mem_cons_of_mem _ mem)).trans (Nat.le_succ _)

private theorem length_of_mem_lines {line : List Char} {text : String} (mem : line ∈ lines text) :
    line.length ≤ text.length :=
  length_of_mem_splitOn mem

/-- Rows are cut to any width of at least three characters. -/
theorem length_truncate {width : Nat} (wide : 3 ≤ width) (row : String) :
    (truncate width row).length ≤ width := by
  rw [truncate]
  split
  case isTrue whole =>
    rcases whole with short | narrow
    · exact short
    · omega
  case isFalse cut =>
    rw [String.length_ofList, List.length_append, List.length_take]
    simp only [List.length_cons, List.length_nil]
    omega

private theorem length_padRight (width : Nat) (text : String) :
    (padRight width text).length = max width text.length := by
  rw [padRight, String.length_append, String.length_ofList, List.length_replicate]
  omega

def columns (names : List String) : String := padRight (nameColumn names) "\tparameter " ++ "value"

private theorem length_columns (names : List String) : (columns names).length ≤ 55 := by
  have limited : nameColumn names ≤ 50 := Nat.min_le_right _ _
  have label : "\tparameter ".length = 11 := rfl
  have value : "value".length = 5 := rfl
  rw [columns, String.length_append, length_padRight, label, value]
  omega

/-- Whatever follows the text, the text adds only lines that are as stated. -/
def Adds (P : List Char → Prop) (text : String) : Prop :=
  ∀ rest, ∀ line ∈ lines (text ++ rest), P line ∨ line ∈ lines rest

namespace Adds

variable {P : List Char → Prop} {text more : String}

private theorem empty : Adds P "" := by
  intro rest line mem
  rw [String.empty_append] at mem
  exact .inr mem

private theorem line (h : ∀ line ∈ lines text, P line) : Adds P (text ++ "\n") := by
  intro rest line mem
  rw [lines_append] at mem
  exact (List.mem_append.mp mem).imp_left (h line)

private theorem append (h : Adds P text) (hmore : Adds P more) : Adds P (text ++ more) := by
  intro rest line mem
  rw [String.append_assoc] at mem
  rcases h _ line mem with first | mem
  · exact .inl first
  · exact hmore rest line mem

private theorem join {texts : List String} (h : ∀ text ∈ texts, Adds P text) :
    Adds P (String.join texts) := by
  induction texts with
  | nil => exact empty
  | cons text texts ih =>
    rw [String.join_cons]
    exact append (h text List.mem_cons_self) (ih fun text mem => h text (List.mem_cons_of_mem _ mem))

end Adds

private theorem header_eq (title : String) (names : List String) (width : Nat) :
    header title (nameColumn names) width = title ++ ":" ++ "\n" ++
      (columns names ++ "\n" ++ (String.ofList (List.replicate width '-') ++ "\n")) := by
  have title_end : ":\n" = ":" ++ "\n" := rfl
  have value_end : "value\n" = "value" ++ "\n" := rfl
  rw [header, title_end, value_end, columns]
  simp only [String.append_assoc]

end Table

/-! ## Lines of tables -/

open Registry Table

namespace Registry

/-- The lines of the title of the node. -/
def TitleLine (r : Registry) (n : NodeId) (line : List Char) : Prop :=
  ∃ title, r.displayName? n = some title ∧ line ∈ lines (title ++ ":")

/-- The lines of the header of its columns. -/
def ColumnsLine (r : Registry) (n : NodeId) (line : List Char) : Prop :=
  line ∈ lines (columns (r.node n).parameters.keys)

/-- The lines of the row of a parameter of the node, whatever the cache holds. -/
def RowLine (r : Registry) (width : Nat) (n : NodeId) (line : List Char) : Prop :=
  ∃ name p param, (name, p) ∈ (r.node n).parameters.entries ∧ param.setup = (r.param p).setup ∧
    line ∈ lines (row (nameColumn (r.node n).parameters.keys) width name param)

/-- The lines of the table of a node. -/
inductive TableLine (r : Registry) (n : NodeId) (width : Nat) (line : List Char) : Prop
  | title {m : NodeId} (below : r.Encloses n m) (title : r.TitleLine m line)
  | columns {m : NodeId} (below : r.Encloses n m) (columns : r.ColumnsLine m line)
  | ruler (mem : line ∈ lines (String.ofList (List.replicate width '-')))
  | row {m : NodeId} (below : r.Encloses n m) (row : r.RowLine width m line)

end Registry

section

variable {r : Registry} {n top : NodeId}

private theorem Table.Adds.header {width : Nat} {title : String} (below : r.Encloses top n)
    (named : r.displayName? n = some title) :
    Adds (r.TableLine top width) (header title (nameColumn (r.node n).parameters.keys) width) := by
  rw [header_eq]
  exact .append (.line fun _ mem => .title below ⟨title, named, mem⟩) <|
    .append (.line fun _ mem => .columns below mem) (.line fun _ mem => .ruler mem)

private abbrev Walked (r s : Registry) : Prop := r.SameNodes s ∧ r.SameSetups s

namespace NodeId

private theorem tableRow_upholds {name : String} {p : ParamId} (below : r.Encloses top n)
    (owned : (name, p) ∈ (r.node n).parameters.entries) (update : Bool) (width : Nat) :
    (tableRow update (nameColumn (r.node n).parameters.keys) width name p).Upholds (Walked r)
      (Adds (r.TableLine top width)) := by
  have refreshed : (p.refreshShown update).Upholds (Walked r) fun _ => True :=
    .of_keeps (Effects.refreshShown update p) fun _ _ walked effects =>
      ⟨IsTrans.trans _ _ _ walked.1 effects.sameNodes, IsTrans.trans _ _ _ walked.2 effects.sameSetups⟩
  have state : (p.state : Act RegistryError Parameter).Upholds (Walked r) fun param =>
      param.setup = (r.param p).setup := by
    refine .read (fun _ => rfl) fun s param walked found => ?_
    cases found
    exact walked.2.setup p
  exact .followed refreshed fun _ => .bind state fun param same =>
    .pure (.line fun _ mem => .row below ⟨name, p, param, owned, same, mem⟩)

private theorem tableWithin_upholds (update : Bool) (width : Nat) {depth : Nat}
    (below : r.Encloses top n) :
    (tableWithin update width depth n).Upholds (Walked r) (Adds (r.TableLine top width)) := by
  induction depth generalizing n with
  | zero => exact .throw _
  | succ depth ih =>
    have state : (n.state : Act RegistryError Node).Upholds (Walked r) (· = r.node n) := by
      refine .read (fun _ => rfl) fun s node walked found => ?_
      cases found
      exact walked.1.node n
    have named : (n.displayName : Act RegistryError String).Upholds (Walked r)
        (r.displayName? n = some ·) := by
      refine .read (.orEndless _) fun s title walked found => ?_
      have same : s.displayName? n = r.displayName? n := by
        rw [Registry.displayName?, walked.1.path?, walked.1.node, Registry.displayName?]
      rw [displayName, Act.orEndless_run, same] at found
      cases shown : r.displayName? n with
      | none =>
        rw [shown] at found
        cases found
      | some name =>
        rw [shown] at found
        cases found
        rfl
    rw [tableWithin]
    refine .bind state ?_
    rintro _ rfl
    refine .bind named fun title named => ?_
    refine .bind (.mapM fun entry mem => ?_)
      fun rows (hrows : ∀ row ∈ rows, Adds (r.TableLine top width) row) => ?_
    · obtain ⟨name, p⟩ := entry
      exact tableRow_upholds below mem update width
    refine .bind (.mapM fun m held => ih (below.tail held)) fun tables htables => ?_
    exact .pure (.append (.append (.header below named) (.join hrows)) (.join htables))

end NodeId

namespace NodeId

/-- No line is wider than asked for but those of titles, and headers of columns where less than 55
characters are asked for, and rows where less than three are. -/
theorem table_fits {update : Bool} {width : Nat} {text : String} {after : Registry}
    (run : n.table update width r = (.ok text, after)) (line : List Char) (mem : line ∈ lines text) :
    line.length ≤ width ∨ ∃ m, r.Encloses n m ∧ (r.TitleLine m line ∨
      width < 55 ∧ r.ColumnsLine m line ∨ width < 3 ∧ r.RowLine width m line) := by
  rw [table, Act.bind_run, Act.registry_run] at run
  obtain ⟨-, adds⟩ := tableWithin_upholds update width .refl r text after ⟨refl r, refl r⟩ run
  have listed := adds "" line
  rw [String.append_empty] at listed
  rcases listed mem with (⟨below, title⟩ | ⟨below, columns⟩ | ruler | ⟨below, row⟩) | last
  · exact .inr ⟨_, below, .inl title⟩
  · rcases Nat.lt_or_ge width 55 with narrow | wide
    · exact .inr ⟨_, below, .inr (.inl ⟨narrow, columns⟩)⟩
    · exact .inl (((length_of_mem_lines columns).trans (length_columns _)).trans wide)
  · have bound := length_of_mem_lines ruler
    rw [String.length_ofList, List.length_replicate] at bound
    exact .inl bound
  · rcases Nat.lt_or_ge width 3 with narrow | wide
    · exact .inr ⟨_, below, .inr (.inr ⟨narrow, row⟩)⟩
    · obtain ⟨name, p, param, -, -, cut⟩ := row
      exact .inl ((length_of_mem_lines cut).trans (length_truncate wide _))
  · rw [List.mem_singleton.mp last]
    exact .inl (Nat.zero_le width)

/-- The rows of a bench fit, one of them because it is cut. -/
theorem table_fits_bench :
    let r := (start {} default).run [.createNode "bench" (some "bench") {},
      .createParameter "state" (.chosen "state" [.initial (.string "waiting for liquid helium")]),
      .addParameter ⟨0⟩ ⟨0⟩]
    ∃ text after, NodeId.table ⟨0⟩ false 20 r = (.ok text, after) ∧
      text = "bench:\n\tparameter value\n--------------------\nstate :\twaiting f...\n" ∧
      ∀ line ∈ lines text, line.length ≤ 20 ∨ ∃ m, r.Encloses ⟨0⟩ m ∧ (r.TitleLine m line ∨
        20 < 55 ∧ r.ColumnsLine m line ∨ 20 < 3 ∧ r.RowLine 20 m line) := by
  intro r
  have shown : (NodeId.table ⟨0⟩ false 20 r).1.toOption =
      some "bench:\n\tparameter value\n--------------------\nstate :\twaiting f...\n" := by
    decide +kernel
  have run := Act.run_of_toOption shown
  exact ⟨_, _, run, rfl, NodeId.table_fits run⟩

/-- The table of the node has the line, which is wider than asked for. -/
def Exceeds (r : Registry) (n : NodeId) (width : Nat) (line : String) : Prop :=
  ∃ text after, n.table false width r = (.ok text, after) ∧ line.toList ∈ lines text ∧
    width < line.length

private theorem Exceeds.of_shown {width : Nat} {line : String}
    (shown : (n.table false width r).1.toOption.any (line.toList ∈ lines ·) = true)
    (wide : width < line.length) : Exceeds r n width line := by
  obtain ⟨text, run, mem⟩ := (Option.any_eq_true _ _).mp shown
  exact ⟨text, _, Act.run_of_toOption run, of_decide_eq_true mem, wide⟩

/-- Titles and the headers of columns are not cut, and rows are not cut to two characters. -/
theorem exceeds_bench :
    let r := (start {} default).run [.createNode "bench" (some "bench_of_the_second_floor") {},
      .createParameter "volts" (.chosen "volts" []), .addParameter ⟨0⟩ ⟨0⟩]
    r.Attained ∧ Exceeds r ⟨0⟩ 16 "bench_of_the_second_floor:" ∧ Exceeds r ⟨0⟩ 10 "\tparameter value" ∧
      Exceeds r ⟨0⟩ 2 "volts :\tNone" := by
  intro r
  have attained : r.Attained := by
    refine attained_run {} default fun command mem => ?_
    simp only [List.mem_cons, List.not_mem_nil, or_false] at mem
    rcases mem with rfl | rfl | rfl
    all_goals rintro handle plan ⟨⟩
    exact ⟨"volts", [], rfl⟩
  refine ⟨attained, .of_shown ?_ ?_, .of_shown ?_ ?_, .of_shown ?_ ?_⟩
  all_goals decide +kernel

end NodeId
end
end LabRegistry

import LabRegistry.Proofs.Engine.Reading
import Mathlib.Logic.Basic

/-!
# What a set leaves behind

A set that is not delegated goes from the validator to the set parser, the command, the cache and
then from listener to listener. The first of them that fails ends it, and what was done before stays
done. As the handler may be any, what is stated of the registries between the requests says which
requests are made, in which order and how often.
-/
namespace LabRegistry

/-- What is asked for where a listener is told a value. -/
def Listener.notice (v : Value) : Listener → Request
  | .link target change => .set target (change.apply v)
  | .callback callable => .call callable (.withValue v)

/-- What is asked for where listeners are told a value, in their order. -/
def notices (v : Value) (listeners : List (ListenerId × Listener)) : List Request :=
  listeners.map fun entry => entry.2.notice v

/-- The requests are answered one after the other, each once and in the registry that the one before
it left. -/
inductive Handler.Answers (handler : Handler) : List Request → Registry → Registry → Prop
  | done (r : Registry) : Answers handler [] r r
  | next {request : Request} {requests : List Request} {answer : Value} {r mid after : Registry}
      (run : handler request r = (.ok answer, mid)) (rest : Answers handler requests mid after) :
      Answers handler (request :: requests) r after

private theorem Handler.answers_append {handler : Handler} {first second : List Request}
    {r after : Registry} (h : handler.Answers (first ++ second) r after) :
    ∃ mid, handler.Answers first r mid ∧ handler.Answers second mid after := by
  induction first generalizing r with
  | nil => exact ⟨r, .done r, h⟩
  | cons request first ih =>
    cases h with
    | next run rest =>
      obtain ⟨mid, answered, remaining⟩ := ih rest
      exact ⟨mid, .next run answered, remaining⟩

theorem Handler.Answers.answered_of_mem {handler : Handler} {request : Request}
    {requests : List Request} {r after : Registry} (h : handler.Answers requests r after)
    (lawful : ∀ request, (handler request).Keeps Effects) (mem : request ∈ requests) :
    ∃ answer mid last, Effects r mid ∧ handler request mid = (.ok answer, last) := by
  induction h with
  | done => cases mem
  | @next first _ answer r mid _ run _ ih =>
    rcases List.mem_cons.mp mem with rfl | later
    · exact ⟨answer, r, mid, .refl, run⟩
    · obtain ⟨answer, s, last, reached, answered⟩ := ih later
      have before := lawful first r
      rw [run] at before
      exact ⟨answer, s, last, before.trans reached, answered⟩

namespace ParamId

/-! ## The stages of a set -/

section

variable (handler : Handler) (p : ParamId) (v : Value) (r : Registry)

/-- The validator lets the value pass, and the set parser, if there is one, makes `raw` of it. -/
inductive Parses : Value → Registry → Prop
  | plain (valid : (r.param p).validator.validate v = .ok ())
      (none : (r.param p).setParser = none) : Parses v r
  | parsed {parser : Callable} {raw : Value} {after : Registry}
      (valid : (r.param p).validator.validate v = .ok ())
      (some : (r.param p).setParser = some parser)
      (run : handler (.call parser (.withValue v)) r = (.ok raw, after)) : Parses raw after

/-- The validator or the set parser does not let the value pass. -/
inductive Rejects : Halt RegistryError → Registry → Prop
  | invalid {reason : String} (invalid : (r.param p).validator.validate v = .error reason) :
      Rejects (r.naming p (.invalidValue · reason)) r
  | parser {parser : Callable} {halt : Halt RegistryError} {after : Registry}
      (valid : (r.param p).validator.validate v = .ok ())
      (some : (r.param p).setParser = some parser)
      (run : handler (.call parser (.withValue v)) r = (.error halt, after)) : Rejects halt after

/-- The value has passed as `raw`, and the set command, if there is one, was called with it once and
succeeded. -/
inductive Sends (raw : Value) : Registry → Prop
  | cache {mid : Registry} (source : (r.param p).setSource = .cache)
      (parses : Parses handler p v r raw mid) : Sends raw mid
  | command {command : Callable} {answer : Value} {mid after : Registry}
      (source : (r.param p).setSource = .command command) (parses : Parses handler p v r raw mid)
      (run : handler (.call command (.withValue raw)) mid = (.ok answer, after)) : Sends raw after

/-- The parameter is read-only, or the value is refused by the validator or the set parser, before
anything else is asked for, or by the set command. -/
inductive Refuses : Halt RegistryError → Registry → Prop
  | readOnly (source : (r.param p).setSource = .nowhere) : Refuses (r.naming p .readOnly) r
  | rejected {halt : Halt RegistryError} {after : Registry}
      (source : (r.param p).setSource ≠ .nowhere) (rejects : Rejects handler p v r halt after) :
      Refuses halt after
  | command {command : Callable} {raw : Value} {halt : Halt RegistryError} {mid after : Registry}
      (source : (r.param p).setSource = .command command) (parses : Parses handler p v r raw mid)
      (run : handler (.call command (.withValue raw)) mid = (.error halt, after)) :
      Refuses halt after

/-- The value was sent and recorded, and then these listeners, and no others, were told of it. -/
inductive Delivers (told : List (ListenerId × Listener)) : Value → Registry → Prop
  | intro {raw : Value} {mid written after : Registry} (sends : Sends handler p v r raw mid)
      (record : p.record raw v mid = (.ok (), written))
      (answers : handler.Answers (notices v told) written after) : Delivers told raw after

/-- What a set asks for, each request with the registry in which it is made. -/
inductive Asks : Request → Registry → Prop
  | parser {parser : Callable} (source : (r.param p).setSource ≠ .nowhere)
      (valid : (r.param p).validator.validate v = .ok ())
      (some : (r.param p).setParser = some parser) : Asks (.call parser (.withValue v)) r
  | command {command : Callable} {raw : Value} {mid : Registry}
      (source : (r.param p).setSource = .command command) (parses : Parses handler p v r raw mid) :
      Asks (.call command (.withValue raw)) mid
  | listener {told rest : List (ListenerId × Listener)} {entry : ListenerId × Listener}
      {raw : Value} {mid : Registry} (all : (r.param p).listeners = told ++ entry :: rest)
      (delivers : Delivers handler p v r told raw mid) : Asks (entry.2.notice v) mid

/-- Whatever the set asks for leaves the parameter as it is, its listeners included. -/
def Spared : Prop :=
  ∀ request s, Asks handler p v r request s → (handler request s).2.param p = s.param p

/-- The parameter holds the value and its raw form, and all else that it is made of stays. -/
def Holds (raw : Value) (after : Registry) : Prop :=
  ∃ stamp, after.param p = { r.param p with raw, value := v, stamp }

/-- A listener fails, and it is the first that does: the ones before it were told. -/
inductive Breaks : Halt RegistryError → Registry → Prop
  | intro {told rest : List (ListenerId × Listener)} {entry : ListenerId × Listener} {raw : Value}
      {halt : Halt RegistryError} {mid after : Registry}
      (all : (r.param p).listeners = told ++ entry :: rest)
      (delivers : Delivers handler p v r told raw mid)
      (run : handler (entry.2.notice v) mid = (.error halt, after))
      (holds : Holds p v r raw after) : Breaks halt after

end

variable {handler : Handler} {p : ParamId} {v raw : Value} {r s mid after : Registry}
  {halt : Halt RegistryError}

private theorem Parses.unique {raw' : Value} {mid' : Registry} (h : p.Parses handler v r raw mid)
    (h' : p.Parses handler v r raw' mid') : raw' = raw ∧ mid' = mid := by
  cases h with
  | plain _ none =>
    cases h' with
    | plain => exact ⟨rfl, rfl⟩
    | parsed _ some _ => cases none.symm.trans some
  | parsed _ some run =>
    cases h' with
    | plain _ none => cases none.symm.trans some
    | parsed _ some' run' =>
      cases some.symm.trans some'
      cases run.symm.trans run'
      exact ⟨rfl, rfl⟩

private theorem Rejects.not_parses (h : p.Rejects handler v r halt after) :
    ¬ p.Parses handler v r raw mid := by
  intro parses
  cases h with
  | invalid invalid =>
    cases parses with
    | plain valid => cases invalid.symm.trans valid
    | parsed valid => cases invalid.symm.trans valid
  | parser _ some run =>
    cases parses with
    | plain _ none => cases none.symm.trans some
    | parsed _ some' run' =>
      cases some.symm.trans some'
      cases run.symm.trans run'

private theorem Refuses.not_sends (h : p.Refuses handler v r halt after) :
    ¬ p.Sends handler v r raw mid := by
  intro sends
  cases h with
  | readOnly source =>
    cases sends with
    | cache source' => cases source.symm.trans source'
    | command source' => cases source.symm.trans source'
  | rejected _ rejects =>
    cases sends with
    | cache _ parses => exact rejects.not_parses parses
    | command _ parses => exact rejects.not_parses parses
  | command source parses run =>
    cases sends with
    | cache source' => cases source.symm.trans source'
    | command source' parses' run' =>
      cases source.symm.trans source'
      obtain ⟨rfl, rfl⟩ := parses.unique parses'
      cases run.symm.trans run'

private theorem Refuses.not_breaks {halt' : Halt RegistryError} {after' : Registry}
    (h : p.Refuses handler v r halt after) : ¬ p.Breaks handler v r halt' after' := by
  intro breaks
  cases breaks with
  | intro _ delivers =>
    cases delivers with
    | intro sends => exact h.not_sends sends

/-! ## The stages run -/

private theorem rawOf_outcome (handler : Handler) (p : ParamId) (v : Value) (r : Registry) :
    match p.rawOf handler v r with
    | (.ok raw, mid) => p.Parses handler v r raw mid
    | (.error halt, after) => p.Rejects handler v r halt after := by
  rw [rawOf, Act.bind_run, state_run]
  dsimp only
  cases valid : (r.param p).validator.validate v with
  | error reason =>
    have rejects : p.Rejects handler v r _ r := .invalid valid
    rw [Registry.naming] at rejects
    dsimp only
    rw [Act.bind_run, fullName_run]
    cases name : r.paramName? p
    all_goals
      rw [name] at rejects
      exact rejects
  | ok _ =>
    cases parser : (r.param p).setParser with
    | none => exact .plain valid parser
    | some callable =>
      change match handler (.call callable (.withValue v)) r with
        | (.ok raw, mid) => p.Parses handler v r raw mid
        | (.error halt, after) => p.Rejects handler v r halt after
      rcases run : handler (.call callable (.withValue v)) r with ⟨halt | raw, after⟩
      · exact .parser valid parser run
      · exact .parsed valid parser run

private theorem write_outcome (handler : Handler) (v : Value)
    (own : (r.param p).setSource ≠ .owner) :
    (∃ halt after, p.write handler v r = (.error halt, after) ∧ p.Refuses handler v r halt after) ∨
      ∃ raw mid, p.write handler v r = p.record raw v mid ∧ p.Sends handler v r raw mid := by
  have parsed := p.rawOf_outcome handler v r
  rw [write, Act.bind_run, state_run]
  dsimp only
  cases source : (r.param p).setSource with
  | owner => exact absurd source own
  | nowhere => exact .inl ⟨_, _, p.fail_run .readOnly r, .readOnly source⟩
  | cache =>
    dsimp only
    rw [Act.bind_run]
    rcases run : p.rawOf handler v r with ⟨halt | raw, mid⟩
    all_goals rw [run] at parsed
    · exact .inl ⟨halt, mid, rfl, .rejected (by simp [source]) parsed⟩
    · exact .inr ⟨raw, mid, rfl, .cache source parsed⟩
  | command command =>
    dsimp only
    rw [Act.bind_run]
    rcases run : p.rawOf handler v r with ⟨halt | raw, mid⟩
    all_goals rw [run] at parsed
    · exact .inl ⟨halt, mid, rfl, .rejected (by simp [source]) parsed⟩
    · dsimp only
      rw [Act.bind_run]
      rcases run : handler (.call command (.withValue raw)) mid with ⟨halt | answer, after⟩
      · exact .inl ⟨halt, after, rfl, .command source parsed run⟩
      · exact .inr ⟨raw, after, rfl, .command source parsed run⟩

private theorem tell_run (handler : Handler) (v : Value) (listener : Listener) (r : Registry) :
    tell handler v listener r = ((handler (listener.notice v) r).1.map fun _ => (),
      (handler (listener.notice v) r).2) := by
  cases listener with
  | link target change =>
    rw [tell, Act.bind_run, Listener.notice]
    rcases handler (.set target (change.apply v)) r with ⟨_ | _, _⟩ <;> rfl
  | callback callback =>
    rw [tell, Act.bind_run, Listener.notice]
    rcases handler (.call callback (.withValue v)) r with ⟨_ | _, _⟩ <;> rfl

/-- Telling listeners ends with the first of them that fails. -/
theorem tell_outcome (handler : Handler) (v : Value) (listeners : List (ListenerId × Listener))
    (r : Registry) :
    match listeners.forM (fun entry => tell handler v entry.2) r with
    | (.ok (), after) => handler.Answers (notices v listeners) r after
    | (.error halt, after) => ∃ told entry rest mid, listeners = told ++ entry :: rest ∧
      handler.Answers (notices v told) r mid ∧
      handler (entry.2.notice v) mid = (.error halt, after) := by
  induction listeners generalizing r with
  | nil => exact .done r
  | cons entry listeners ih =>
    have first : (entry :: listeners).forM (fun entry => tell handler v entry.2) =
        tell handler v entry.2 >>= fun _ => listeners.forM fun entry => tell handler v entry.2 := rfl
    rw [first, Act.bind_run, tell_run]
    rcases run : handler (entry.2.notice v) r with ⟨halt | answer, mid⟩
    · exact ⟨[], entry, listeners, r, rfl, .done r, run⟩
    · have remaining := ih mid
      dsimp only [Except.map]
      rcases later : listeners.forM (fun entry => tell handler v entry.2) mid with ⟨halt | _, after⟩
      all_goals rw [later] at remaining
      · obtain ⟨told, failing, rest, last, rfl, answers, failed⟩ := remaining
        exact ⟨entry :: told, failing, rest, last, rfl, .next run answers, failed⟩
      · exact .next run remaining

/-! ## The parameter meanwhile -/

section

variable (spared : p.Spared handler v r)

include spared

private theorem Parses.param_eq (source : (r.param p).setSource ≠ .nowhere)
    (h : p.Parses handler v r raw mid) : mid.param p = r.param p := by
  cases h with
  | plain => rfl
  | parsed valid some run =>
    have same := spared _ _ (.parser source valid some)
    rwa [run] at same

private theorem Sends.param_eq (h : p.Sends handler v r raw mid) : mid.param p = r.param p := by
  cases h with
  | cache source parses => exact parses.param_eq spared (by simp [source])
  | command source parses run =>
    have same := spared _ _ (.command source parses)
    rw [run] at same
    exact same.trans (parses.param_eq spared (by simp [source]))

private theorem Refuses.param_eq (h : p.Refuses handler v r halt after) :
    after.param p = r.param p := by
  cases h with
  | readOnly => rfl
  | rejected source rejects =>
    cases rejects with
    | invalid => rfl
    | parser valid some run =>
      have same := spared _ _ (.parser source valid some)
      rwa [run] at same
  | command source parses run =>
    have same := spared _ _ (.command source parses)
    rw [run] at same
    exact same.trans (parses.param_eq spared (by simp [source]))

/-- Telling one listener after the other leaves what was recorded as it is. -/
theorem Sends.told_eq {written : Registry} {told rest : List (ListenerId × Listener)}
    (sends : p.Sends handler v r raw mid) (record : p.record raw v mid = (.ok (), written))
    (all : (r.param p).listeners = told ++ rest)
    (answers : handler.Answers (notices v told) written after) :
    after.param p = written.param p := by
  induction told using List.reverseRecOn generalizing rest after with
  | nil =>
    cases answers
    rfl
  | append_singleton told entry ih =>
    rw [List.append_assoc] at all
    rw [notices, List.map_append] at answers
    obtain ⟨last, before, answered⟩ := handler.answers_append answers
    have same := spared _ _ (.listener all (.intro sends record before))
    cases answered with
    | next run done =>
      cases done
      rw [run] at same
      exact same.trans (ih all before)

end

/-! ## The whole set -/

section

variable (lawful : ∀ request, (handler request).Keeps Effects)

include lawful

private theorem Parses.effects (h : p.Parses handler v r raw mid) : Effects r mid := by
  cases h with
  | plain => exact .refl
  | @parsed parser _ _ _ _ run =>
    have kept := lawful (.call parser (.withValue v)) r
    rwa [run] at kept

private theorem Sends.effects (h : p.Sends handler v r raw mid) : Effects r mid := by
  cases h with
  | cache _ parses => exact parses.effects lawful
  | @command command _ before _ _ parses run =>
    have kept := lawful (.call command (.withValue raw)) before
    rw [run] at kept
    exact (parses.effects lawful).trans kept

end

theorem record_outcome (p : ParamId) (raw v : Value) (r : Registry) :
    match p.record raw v r with
    | (.ok (), after) => r.Recorded p raw v after
    | (.error halt, _) => halt = .endless := by
  have run := p.record_run raw v r
  split at run
  · rw [run]
  · obtain ⟨after, run, recorded⟩ := run
    rw [run]
    exact recorded

section

variable (lawful : ∀ request, (handler request).Keeps Effects)
  (spared : p.Spared handler v r) (inside : p.index < r.params.size)

include lawful spared inside

private theorem Sends.record_eq {written : Registry} (h : p.Sends handler v r raw mid)
    (record : p.record raw v mid = (.ok (), written)) : p.Holds v r raw written := by
  have recorded := p.record_outcome raw v mid
  rw [record] at recorded
  have size : mid.params.size = r.params.size := (h.effects lawful).sameSetups.size
  obtain ⟨stamp, cell⟩ := recorded.param_eq (inside.trans_eq size.symm)
  exact ⟨stamp, by rw [cell, h.param_eq spared]⟩

private theorem Delivers.holds {told rest : List (ListenerId × Listener)}
    (all : (r.param p).listeners = told ++ rest) (h : p.Delivers handler v r told raw after) :
    p.Holds v r raw after := by
  cases h with
  | intro sends record answers =>
    obtain ⟨stamp, cell⟩ := sends.record_eq lawful spared inside record
    exact ⟨stamp, (sends.told_eq spared record all answers).trans cell⟩

private theorem Sends.announce_outcome {written : Registry} (sends : p.Sends handler v r raw mid)
    (record : p.record raw v mid = (.ok (), written)) :
    match p.announce handler written with
    | (.ok (), after) => p.Delivers handler v r (r.param p).listeners raw after
    | (.error halt, after) => p.Breaks handler v r halt after := by
  obtain ⟨stamp, cell⟩ := sends.record_eq lawful spared inside record
  have told := tell_outcome handler v (r.param p).listeners written
  have run : p.announce handler written =
      (r.param p).listeners.forM (fun entry => tell handler v entry.2) written := by
    rw [announce, Act.bind_run, state_run]
    dsimp only
    rw [cell]
  rw [run]
  rcases last : (r.param p).listeners.forM (fun entry => tell handler v entry.2) written with
    ⟨halt | _, after⟩
  all_goals rw [last] at told
  · obtain ⟨told, entry, rest, last, all, answers, failed⟩ := told
    have delivers : p.Delivers handler v r told raw last := .intro sends record answers
    have same := spared _ _ (.listener all delivers)
    rw [failed] at same
    obtain ⟨stamp, cell⟩ := delivers.holds lawful spared inside all
    exact .intro all delivers failed ⟨stamp, same.trans cell⟩
  · exact .intro sends record told

/-- A set that is not delegated is refused, or delivered up to the first listener that fails. -/
theorem setWith_outcome (own : (r.param p).setSource ≠ .owner) :
    match p.setWith handler v r with
    | (.ok (), after) => ∃ raw, p.Delivers handler v r (r.param p).listeners raw after
    | (.error halt, after) => halt = .endless ∨
      p.Refuses handler v r halt after ∨ p.Breaks handler v r halt after := by
  rw [setWith, Act.bind_run]
  rcases write_outcome handler v own with ⟨halt, after, run, refuses⟩ | ⟨raw, mid, run, sends⟩
  · rw [run]
    exact .inr (.inl refuses)
  · have recorded := p.record_outcome raw v mid
    rw [run]
    rcases record : p.record raw v mid with ⟨halt | _, written⟩
    · rw [record] at recorded
      exact .inl recorded
    · have told := sends.announce_outcome lawful spared inside record
      dsimp only
      rcases announced : p.announce handler written with ⟨halt | _, after⟩
      all_goals rw [announced] at told
      · exact .inr (.inr told)
      · exact ⟨raw, told⟩

end

/-- What a set that is not delegated leaves behind, if what it asks for spares the parameter. With an
error it was either refused, and the parameter is as it was, or the value was sent, recorded and told
to the listeners before the one that failed. Without one it was told to all. -/
theorem set_outcome (inside : p.index < r.params.size) (own : (r.param p).setSource ≠ .owner)
    (v : Value) :
    p.set v r = p.setWith (engine (r.depthLimit - 1)) v r ∧
    (∀ request, (engine (r.depthLimit - 1) request).Keeps Effects) ∧
    ∀ handler : Handler, (∀ request, (handler request).Keeps Effects) → p.Spared handler v r →
      match p.setWith handler v r with
      | (.ok (), after) => ∃ raw,
        p.Delivers handler v r (r.param p).listeners raw after ∧ p.Holds v r raw after
      | (.error (.failed e), after) =>
        Xor (p.Refuses handler v r (.failed e) after ∧ after.param p = r.param p)
          (p.Breaks handler v r (.failed e) after)
      | _ => True := by
  refine ⟨p.set_eq v r, Effects.engine _, fun handler lawful spared => ?_⟩
  have outcome := setWith_outcome lawful spared inside own
  split
  case h_1 run =>
    rw [run] at outcome
    obtain ⟨raw, delivers⟩ := outcome
    exact ⟨raw, delivers, delivers.holds lawful spared inside (List.append_nil _).symm⟩
  case h_2 e after run =>
    rw [run] at outcome
    rcases outcome with endless | refuses | breaks
    · cases endless
    · exact .inl ⟨⟨refuses, refuses.param_eq spared⟩, refuses.not_breaks⟩
    · exact .inr ⟨breaks, fun refused => refused.1.not_breaks breaks⟩
  case h_3 => trivial

/-- A set whose second listener fails: the value is recorded, the first listener was told and the third
was not. -/
theorem set_outcome_of_failing_listener :
    let note (tag : String) : Listener := .callback (.script (.mk [.log tag .value] none))
    let failing : Listener := .callback (.script (.mk [.fail "broken"] none))
    let param : Parameter := {
      (default : Parameter) with
      setSource := .command (.script (.mk [.log "sent" .value] none))
      setParser := some (.script (.mk [] (some (.list [.value]))))
      listeners := [(⟨0⟩, note "first"), (⟨1⟩, failing), (⟨2⟩, note "third")] }
    let r : Registry := { params := { cells := #[param] } }
    let p : ParamId := ⟨0⟩
    let v : Value := .bool true
    let handler := engine (r.depthLimit - 1)
    p.index < r.params.size ∧ (r.param p).setSource ≠ .owner ∧
      p.Spared handler v r ∧
      ∃ after, p.set v r = (.error (.failed (.callableFailed "broken")), after) ∧
        after.bench.journal = [("sent", .array [v]), ("first", v)] ∧
        Xor (p.Refuses handler v r (.failed (.callableFailed "broken")) after ∧
            after.param p = r.param p)
          (p.Breaks handler v r (.failed (.callableFailed "broken")) after) := by
  intro note failing param r p v handler
  have inside : p.index < r.params.size := by decide
  have own : (r.param p).setSource ≠ .owner := nofun
  have spared : p.Spared handler v r := by
    intro request s asks
    cases asks with
    | parser _ _ parser =>
      cases parser
      rfl
    | command source _ =>
      cases source
      rfl
    | @listener _ _ entry _ _ all _ =>
      have mem : entry ∈ [(⟨0⟩, note "first"), (⟨1⟩, failing), (⟨2⟩, note "third")] := by
        change [_, _, _] = _ at all
        rw [all]
        exact List.mem_append_right _ List.mem_cons_self
      simp only [List.mem_cons, List.not_mem_nil, or_false] at mem
      rcases mem with rfl | rfl | rfl <;> rfl
  obtain ⟨same, lawful, outcome⟩ := set_outcome inside own v
  have run : p.setWith handler v r =
      (.error (.failed (.callableFailed "broken")), (p.setWith handler v r).2) := rfl
  have result := outcome handler lawful spared
  rw [run] at result
  exact ⟨inside, own, spared, _, same.trans run, rfl, result⟩

end ParamId
end LabRegistry

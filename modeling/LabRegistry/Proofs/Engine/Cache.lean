import LabRegistry.Proofs.Engine.Wiring

/-!
# Writing caches

Recording a value writes the cache of one parameter and possibly a line of the log; noting the time
of an access writes no value. Both leave the wiring and all other parameters as they are. Only the
name in a line of the log can be in the way, if it does not exist.
-/
namespace LabRegistry

namespace Registry

variable {r after : Registry} {p : ParamId} {raw value : Value}

/-- The registry after both values were written into the cache of a parameter. -/
inductive Recorded (r : Registry) (p : ParamId) (raw value : Value) : Registry → Prop
  | intro (lines : List (LogLevel × String)) (now : Instant) (stamp : Option Instant) :
      Recorded r p raw value { r with
        params := r.params.change p.index ({ · with raw, value, stamp })
        log := { r.log with lines }
        now }

inductive Stamped (r : Registry) (p : ParamId) : Registry → Prop
  | intro (now : Instant) (stamp : Option Instant) :
      Stamped r p { r with params := r.params.change p.index ({ · with stamp }), now }

private theorem uncached_change {f : Parameter → Parameter}
    (h : ∀ param, (f param).uncached = param.uncached) (q : ParamId) :
    (param { r with params := r.params.change p.index f } q).uncached = (r.param q).uncached := by
  rw [param_change]
  split
  · exact h _
  · rfl

namespace Recorded

theorem wiring (h : r.Recorded p raw value after) : r.SameWiring after := by
  obtain ⟨lines, now, stamp⟩ := h
  exact ⟨⟨rfl, roots_of_eq rfl rfl fun _ => rfl⟩, rfl, rfl, Arena.size_change _ _ _,
    uncached_change fun _ => rfl⟩

theorem param_eq (h : r.Recorded p raw value after) (inside : p.index < r.params.size) :
    ∃ stamp, after.param p = { r.param p with raw, value, stamp } := by
  obtain ⟨lines, now, stamp⟩ := h
  refine ⟨stamp, ?_⟩
  change param { r with params := r.params.change p.index ({ · with raw, value, stamp }) } p = _
  rw [param_change, if_pos ⟨rfl, inside⟩]

theorem param_self (h : r.Recorded p raw value after) (inside : p.index < r.params.size) :
    (after.param p).raw = raw ∧ (after.param p).value = value := by
  obtain ⟨stamp, cell⟩ := h.param_eq inside
  exact ⟨congrArg (·.raw) cell, congrArg (·.value) cell⟩

theorem param_of_ne (h : r.Recorded p raw value after) {q : ParamId} (ne : q ≠ p) :
    after.param q = r.param q := by
  obtain ⟨lines, now, stamp⟩ := h
  have cell := r.param_change p q ({ · with raw, value, stamp })
  rw [if_neg fun both => ne both.1] at cell
  exact cell

end Recorded

namespace Stamped

theorem wiring (h : r.Stamped p after) : r.SameWiring after := by
  obtain ⟨now, stamp⟩ := h
  exact ⟨⟨rfl, roots_of_eq rfl rfl fun _ => rfl⟩, rfl, rfl, Arena.size_change _ _ _,
    uncached_change fun _ => rfl⟩

theorem values (h : r.Stamped p after) : r.SameValues after := by
  obtain ⟨now, stamp⟩ := h
  exact SameValues.of_change (r := r) (p := p) (f := ({ · with stamp })) fun _ => ⟨rfl, rfl⟩

end Stamped

/-- A change of the cache cannot be put into the log, as the parameter has no name. -/
def nameless (r : Registry) (p : ParamId) (value : Value) : Bool :=
  (r.param p).logsChanges && !((r.param p).value == value) && r.log.enabled &&
    (r.paramName? p).isNone

/-- An error that names a parameter; without a name there is none. -/
def naming (r : Registry) (p : ParamId) (cause : String → RegistryError) : Halt RegistryError :=
  match r.paramName? p with
  | some name => .failed (cause name)
  | none => .endless

theorem SameWiring.naming (h : r.SameWiring after) (p : ParamId) : after.naming p = r.naming p := by
  funext cause
  rw [Registry.naming, h.paramName?, Registry.naming]

theorem SameWiring.nameless (h : r.SameWiring after) {p : ParamId}
    (value : (after.param p).value = (r.param p).value) : after.nameless p = r.nameless p := by
  funext v
  rw [Registry.nameless, value, h.logsChanges, h.logging, h.paramName?, Registry.nameless]

end Registry

open Registry

variable {r : Registry}

private theorem Act.debug_run {ε : Type} {text : Act ε String} {line : Option String}
    (h : text r = match line with
      | some line => (.ok line, r)
      | none => (.error .endless, r)) :
    if r.log.enabled && line.isNone then Act.debug text r = (.error .endless, r)
    else ∃ lines, Act.debug text r = (.ok (), { r with log := { r.log with lines } }) := by
  rw [debug, writeLog, bind_run, registry_run]
  dsimp only
  by_cases enabled : r.log.enabled = true
  · have both : (r.log.enabled && line.isNone) = line.isNone := by rw [enabled, Bool.true_and]
    rw [if_pos enabled, both, bind_run, h]
    cases line with
    | none => rfl
    | some line => exact ⟨r.log.lines ++ [(.debug, line)], rfl⟩
  · have both : (r.log.enabled && line.isNone) = false := by
      rw [Bool.eq_false_of_not_eq_true enabled, Bool.false_and]
    rw [if_neg enabled, both]
    exact ⟨r.log.lines, rfl⟩

theorem Act.debug_ok {ε : Type} {text : Act ε String} {line : String} (h : text r = (.ok line, r)) :
    ∃ lines, Act.debug text r = (.ok (), { r with log := { r.log with lines } }) := by
  have run := @debug_run r ε text (some line) h
  rwa [Option.isNone_some, Bool.and_false, if_neg Bool.false_ne_true] at run

namespace ParamId

theorem fullName_run {ε : Type} (p : ParamId) (r : Registry) :
    (p.fullName : Act ε String) r = match r.paramName? p with
      | some name => (.ok name, r)
      | none => (.error .endless, r) := by
  rw [fullName, Act.orEndless_run]
  cases r.paramName? p <;> rfl

theorem fail_run {α : Type} (p : ParamId) (cause : String → RegistryError) (r : Registry) :
    (do Act.fail (cause (← p.fullName)) : Act RegistryError α) r =
      (.error (r.naming p cause), r) := by
  rw [Act.bind_run, fullName_run, naming]
  cases r.paramName? p <;> rfl

theorem stampNow_run (p : ParamId) (r : Registry) :
    ∃ after, p.stampNow r = (.ok (), after) ∧ r.Stamped p after :=
  ⟨_, rfl, .intro _ _⟩

theorem record_run (p : ParamId) (raw value : Value) (r : Registry) :
    if r.nameless p value then p.record raw value r = (.error .endless, r)
    else ∃ after, p.record raw value r = (.ok (), after) ∧ r.Recorded p raw value after := by
  have written (lines : List (LogLevel × String)) : ∃ after, (do
      let now ← Act.readClock
      p.change ({ · with raw, value, stamp := some now }) : Act RegistryError Unit)
        { r with log := { r.log with lines } } = (.ok (), after) ∧ r.Recorded p raw value after :=
    ⟨_, rfl, .intro lines _ _⟩
  have composed : (do return "parameter '" ++ (← p.fullName) ++ "' changed from " ++
      (r.param p).value.compact ++ " to " ++ value.compact : Act RegistryError String) r =
        match (r.paramName? p).map fun name => "parameter '" ++ name ++ "' changed from " ++
          (r.param p).value.compact ++ " to " ++ value.compact with
        | some line => (.ok line, r)
        | none => (.error .endless, r) := by
    rw [Act.bind_run, fullName_run]
    cases r.paramName? p <;> rfl
  have logged := Act.debug_run composed
  rw [record, Act.bind_run, state_run]
  dsimp only
  rw [nameless]
  by_cases changes : ((r.param p).logsChanges && !((r.param p).value == value)) = true
  · rw [if_pos changes, changes, Bool.true_and, Act.bind_run]
    rw [Option.isNone_map] at logged
    split at logged
    case isTrue endless => rw [if_pos endless, logged]
    case isFalse fine =>
      obtain ⟨lines, logged⟩ := logged
      rw [if_neg fine, logged]
      exact written lines
  · rw [if_neg changes, Bool.eq_false_of_not_eq_true changes]
    exact written r.log.lines

theorem record_spoken {p : ParamId} (speaks : r.Speaks p) (raw value : Value) :
    ∃ after, p.record raw value r = (.ok (), after) ∧ r.Recorded p raw value after := by
  have named : r.nameless p value = false := by
    rcases speaks with quiet | named
    · simp [nameless, quiet]
    · simp [nameless, Option.isNone_eq_false_iff.mpr named]
  have run := p.record_run raw value r
  rwa [if_neg (by simp [named])] at run

/-! ## Parameters without parsers -/

theorem receive_run {p : ParamId} (plain : (r.param p).getParser = none)
    (speaks : r.Speaks p) (handler : Handler) (raw : Value) :
    ∃ after, p.receive handler raw r = (.ok raw, after) ∧ r.Recorded p raw raw after := by
  obtain ⟨after, run, recorded⟩ := record_spoken speaks raw raw
  refine ⟨after, ?_, recorded⟩
  rw [receive, Act.bind_run, state_run]
  dsimp only
  rw [plain]
  dsimp only
  rw [Act.bind_run, Act.pure_run]
  dsimp only
  rw [Act.bind_run, run]
  rfl

theorem rawOf_run {p : ParamId} (plain : (r.param p).setParser = none) (handler : Handler)
    (v : Value) : p.rawOf handler v r = match (r.param p).validator.validate v with
      | .error reason => (.error (r.naming p (.invalidValue · reason)), r)
      | .ok () => (.ok v, r) := by
  rw [rawOf, Act.bind_run, state_run]
  dsimp only
  rw [plain]
  cases (r.param p).validator.validate v with
  | error reason =>
    dsimp only
    rw [Act.bind_run, fullName_run, naming]
    cases r.paramName? p <;> rfl
  | ok _ => rfl

theorem write_run_of_cache {p : ParamId} (source : (r.param p).setSource = .cache)
    (plain : (r.param p).setParser = none) (handler : Handler) (v : Value) :
    p.write handler v r = match (r.param p).validator.validate v with
      | .error reason => (.error (r.naming p (.invalidValue · reason)), r)
      | .ok () => p.record v v r := by
  rw [write, Act.bind_run, state_run]
  dsimp only
  rw [source]
  dsimp only
  rw [Act.bind_run, rawOf_run plain]
  cases (r.param p).validator.validate v <;> rfl

theorem write_run_of_nowhere {p : ParamId} (source : (r.param p).setSource = .nowhere)
    (handler : Handler) (v : Value) : p.write handler v r = (.error (r.naming p .readOnly), r) := by
  rw [write, Act.bind_run, state_run]
  dsimp only
  rw [source]
  exact p.fail_run .readOnly r

end ParamId
end LabRegistry

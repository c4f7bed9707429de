import LabRegistry.Proofs.Operation.Run
import LabRegistry.Registry.Access
import Mathlib.Order.Basic

/-!
# What answering a request keeps

Answering a request runs callables, scripts and listeners that may answer further requests, to any
depth. What it does to the registry is made up of `Effect`s. A `Discipline` is a property of
operations that composing them keeps and that every effect but a write to a cache has. Whatever
gets, sets and updates have then is had by every request.
-/
namespace LabRegistry

theorem NodeId.find_read {α : Type} (n : NodeId) (map : Node → OrderedMap α) (name : String)
    (r : Registry) : (n.find map name r).2 = r := by
  rw [find, Act.bind_run, state_run]
  dsimp only
  cases (map (r.node n)).get? name with
  | some x => rfl
  | none =>
    simp only [failMissing, Act.bind_run, displayName, Act.orEndless_run]
    cases r.displayName? n <;> rfl

theorem NodeId.isEnabled_read {ε : Type} (n : NodeId) (r : Registry) :
    ((n.isEnabled : Act ε Bool) r).2 = r := by
  have keeps : (n.isEnabled : Act ε Bool).Keeps Eq := by
    refine .bind (.attempt (.read (n.find_read _ "enabled"))) fun p? => ?_
    cases p? with
    | some p => exact .read fun _ => rfl
    | none => exact .pure _
  exact (keeps r).symm

/-- One change made in the course of answering a request. -/
inductive Effect : Registry → Registry → Prop
  | log (r : Registry) (lines : List (LogLevel × String)) :
      Effect r { r with log := { r.log with lines } }
  | clock (r : Registry) (now : Instant) : Effect r { r with now }
  | cache (r : Registry) (p : ParamId) (raw value : Value) (stamp : Option Instant) :
      Effect r { r with params := r.params.change p.index ({ · with raw, value, stamp }) }
  | stamp (r : Registry) (p : ParamId) (stamp : Option Instant) :
      Effect r { r with params := r.params.change p.index ({ · with stamp }) }
  | listen (r : Registry) (p : ParamId) (listener : Listener) :
      Effect r { r with params := r.params.change p.index (·.addListener listener) }
  | disconnect (r : Registry) (p : ParamId) (id : ListenerId) :
      Effect r { r with params := r.params.change p.index (·.removeListener id) }
  | disconnectAll (r : Registry) (p : ParamId) :
      Effect r { r with params := r.params.change p.index (·.clearListeners) }
  | journal (r : Registry) (journal : List (String × Value)) :
      Effect r { r with bench := { r.bench with journal } }
  | cell (r : Registry) (cells : OrderedMap Value) :
      Effect r { r with bench := { r.bench with cells } }
  | duration (r : Registry) (s : SequenceId) (fixedDuration : Option Double) :
      Effect r { r with sequences := r.sequences.change s.index ({ · with fixedDuration }) }
  | device (r : Registry) (d : DeviceId) (f : Device → Device) :
      Effect r { r with devices := r.devices.change d.index f }

def Registry.SameValues (r after : Registry) : Prop :=
  ∀ p, (after.param p).value = (r.param p).value ∧ (after.param p).raw = (r.param p).raw

private theorem Registry.SameValues.of_params {r after : Registry} (h : after.params = r.params) :
    r.SameValues after := by
  intro p
  rw [param, h]
  exact ⟨rfl, rfl⟩

theorem Registry.SameValues.of_change {r : Registry} {p : ParamId} {f : Parameter → Parameter}
    (h : ∀ param, (f param).value = param.value ∧ (f param).raw = param.raw) :
    r.SameValues { r with params := r.params.change p.index f } := by
  intro q
  rw [param_change]
  split
  · exact h _
  · exact ⟨rfl, rfl⟩

/-- A property of operations that reading has, that composing operations keeps, and that every
effect has which leaves the caches alone. -/
structure Discipline where
  Obeys : {ε α : Type} → Act ε α → Prop
  obeys_read : ∀ {ε α : Type} {act : Act ε α}, (∀ r, (act r).2 = r) → Obeys act
  obeys_bind : ∀ {ε α β : Type} {act : Act ε α} {next : α → Act ε β},
    Obeys act → (∀ x, Obeys (next x)) → Obeys (act >>= next)
  obeys_change : ∀ {ε : Type} {f : Registry → Registry},
    (∀ r, Effect r (f r) ∧ r.SameValues (f r)) → Obeys (Act.change f : Act ε Unit)

namespace Discipline

variable {D : Discipline} {ε α β : Type}

namespace Obeys

theorem read {act : Act ε α} (h : ∀ r, (act r).2 = r) : D.Obeys act := D.obeys_read h

theorem bind {act : Act ε α} {next : α → Act ε β} (h : D.Obeys act)
    (hnext : ∀ x, D.Obeys (next x)) : D.Obeys (act >>= next) :=
  D.obeys_bind h hnext

theorem pure (x : α) : D.Obeys (Pure.pure x : Act ε α) := read fun _ => rfl

theorem throw (halt : Halt ε) : D.Obeys (MonadExcept.throw halt : Act ε α) := read fun _ => rfl

private theorem fail (cause : ε) : D.Obeys (Act.fail cause : Act ε α) := read fun _ => rfl

theorem registry : D.Obeys (Act.registry : Act ε Registry) := read fun _ => rfl

theorem orEndless (answer : Registry → Option α) : D.Obeys (Act.orEndless answer : Act ε α) := by
  apply read
  intro r
  rw [Act.orEndless_run]
  cases answer r <;> rfl

theorem forM {f : α → Act ε PUnit} (h : ∀ x, D.Obeys (f x)) (xs : List α) :
    D.Obeys (xs.forM f) := by
  induction xs with
  | nil => exact pure _
  | cons x xs ih => exact bind (h x) fun _ => ih

theorem mapM {f : α → Act ε β} (h : ∀ x, D.Obeys (f x)) (xs : List α) : D.Obeys (xs.mapM f) := by
  induction xs with
  | nil => exact pure _
  | cons x xs ih =>
    rw [List.mapM_cons]
    exact bind (h x) fun _ => bind ih fun _ => pure _

theorem foldlM {f : β → α → Act ε β} (h : ∀ acc x, D.Obeys (f acc x)) (xs : List α) (acc : β) :
    D.Obeys (xs.foldlM f acc) := by
  induction xs generalizing acc with
  | nil => exact pure _
  | cons x xs ih => exact bind (h acc x) fun _ => ih _

end Obeys

def Writes (D : Discipline) (p : ParamId) : Prop := ∀ raw value stamp,
  D.Obeys (p.change ({ · with raw, value, stamp }) : Act RegistryError Unit)

open Act

private theorem change {f : Registry → Registry} (h : ∀ r, Effect r (f r))
    (same : ∀ r : Registry, r.SameValues (f r)) : D.Obeys (Act.change f : Act ε Unit) :=
  D.obeys_change fun r => ⟨h r, same r⟩

theorem debug {text : Act ε String} (h : D.Obeys text) : D.Obeys (Act.debug text) := by
  refine .bind .registry fun r => ?_
  split
  · exact .bind h fun line => change (fun r => .log r _) fun _ => .of_params rfl
  · exact .pure _

theorem readClock : D.Obeys (Act.readClock : Act ε Instant) :=
  .bind .registry fun _ =>
    .bind (change (fun r => .clock r _) fun _ => .of_params rfl) fun _ => .pure _

theorem paramFullName (p : ParamId) : D.Obeys (p.fullName : Act ε String) := .orEndless _

theorem displayName (n : NodeId) : D.Obeys (n.displayName : Act ε String) := .orEndless _

private theorem defined (x : Option α) : D.Obeys (Act.defined x : Act ε α) := by
  cases x with
  | none => exact .throw _
  | some x => exact .pure x

private theorem ofExcept (result : Except ε α) : D.Obeys (Act.ofExcept result) := by
  cases result with
  | error cause => exact .fail cause
  | ok x => exact .pure x

private theorem paramOf (handle : String) : D.Obeys (Act.paramOf handle : Act ε ParamId) :=
  .bind (.read fun _ => rfl) fun _ => defined _

/-! ## Single parameters -/

theorem failReadOnly (p : ParamId) : D.Obeys (p.failReadOnly : Act RegistryError α) :=
  .bind (paramFullName p) fun _ => .fail _

private theorem failWithoutDelegate (p : ParamId) (operation : Operation) :
    D.Obeys (p.failWithoutDelegate operation : Act RegistryError α) :=
  .bind (paramFullName p) fun _ => .fail _

private theorem record {p : ParamId} (hp : D.Writes p) (raw value : Value) :
    D.Obeys (p.record raw value) := by
  have write : D.Obeys (do
      let now ← Act.readClock
      p.change ({ · with raw, value, stamp := some now }) : Act RegistryError Unit) :=
    .bind readClock fun now => hp raw value (some now)
  refine .bind (.read fun _ => rfl) fun param => ?_
  dsimp only
  split
  · exact .bind (debug (.bind (paramFullName p) fun _ => .pure _)) fun _ => write
  · exact write

theorem stampNow (p : ParamId) : D.Obeys p.stampNow :=
  .bind readClock fun now =>
    change (fun r => .stamp r p (some now)) fun _ => .of_change fun _ => ⟨rfl, rfl⟩

private theorem ownerDelegates (p : ParamId) (operation : Operation) :
    D.Obeys (p.ownerDelegates operation) := by
  refine .bind (.read fun _ => rfl) fun owner => ?_
  cases owner with
  | none => exact failWithoutDelegate p operation
  | some owner => exact .read fun _ => rfl

theorem listen (p : ParamId) (listener : Listener) :
    D.Obeys (p.listen listener : Act ε ListenerId) :=
  .bind (.read fun _ => rfl) fun _ =>
    .bind (change (fun r => .listen r p listener)
      fun _ => .of_change fun _ => ⟨rfl, rfl⟩) fun _ => .pure _

theorem disconnect (p : ParamId) (id : ListenerId) : D.Obeys (p.disconnect id : Act ε Bool) :=
  .bind (.read fun _ => rfl) fun _ =>
    .bind (change (fun r => .disconnect r p id)
      fun _ => .of_change fun _ => ⟨rfl, rfl⟩) fun _ => .pure _

theorem disconnectAll (p : ParamId) : D.Obeys (p.disconnectAll : Act ε Unit) :=
  change (fun r => .disconnectAll r p) fun _ => .of_change fun _ => ⟨rfl, rfl⟩

theorem parameter (n : NodeId) (name : String) : D.Obeys (n.parameter name) :=
  .read (n.find_read _ name)

/-! ## What goes through a handler -/

section Handler

variable {handler : Handler} (h : ∀ request, D.Obeys (handler request))

include h

private theorem receive {p : ParamId} (hp : D.Writes p) (raw : Value) :
    D.Obeys (p.receive handler raw) := by
  have keep (value : Value) : D.Obeys (do p.record raw value; return value) :=
    .bind (record hp raw value) fun _ => .pure _
  refine .bind (.read fun _ => rfl) fun param => ?_
  cases param.getParser with
  | none => exact .bind (.pure _) keep
  | some parser => exact .bind (h _) keep

theorem rawOf (p : ParamId) (v : Value) : D.Obeys (p.rawOf handler v) := by
  refine .bind (.read fun _ => rfl) fun param => ?_
  cases param.validator.validate v with
  | error reason =>
    refine .bind (paramFullName p) fun _ => .bind (.fail _) fun _ => ?_
    cases param.setParser with
    | none => exact .pure v
    | some parser => exact h _
  | ok _ =>
    cases param.setParser with
    | none => exact .pure v
    | some parser => exact h _

theorem tell (value : Value) (listener : Listener) :
    D.Obeys (ParamId.tell handler value listener) := by
  cases listener with
  | link target link => exact .bind (h _) fun _ => .pure _
  | callback callback => exact .bind (h _) fun _ => .pure _

theorem announce (p : ParamId) : D.Obeys (p.announce handler) :=
  .bind (.read fun _ => rfl) fun param =>
    .forM (fun (entry : ListenerId × Listener) => tell h param.value entry.2) _

theorem getWith {p : ParamId} (hp : D.Writes p) : D.Obeys (p.getWith handler) := by
  refine .bind (.read fun _ => rfl) fun param => ?_
  cases param.getSource with
  | cache => exact .bind (stampNow p) fun _ => .read fun _ => rfl
  | command command => exact .bind (h _) fun raw => receive h hp raw
  | owner =>
    refine .bind (ownerDelegates p .get) fun (owner, delegates) => ?_
    dsimp only
    cases delegates.getter with
    | none => exact failWithoutDelegate p .get
    | some getter => exact .bind (h _) fun raw => receive h hp raw

theorem write {p : ParamId} (hp : D.Writes p) (v : Value) : D.Obeys (p.write handler v) := by
  refine .bind (.read fun _ => rfl) fun param => ?_
  cases param.setSource with
  | nowhere => exact failReadOnly p
  | cache => exact .bind (rawOf h p v) fun raw => record hp raw v
  | command command =>
    exact .bind (rawOf h p v) fun raw => .bind (h _) fun _ => record hp raw v
  | owner =>
    refine .bind (ownerDelegates p .set) fun (owner, delegates) => ?_
    rcases delegates with ⟨_ | getter, _ | setter⟩
    · exact failWithoutDelegate p .set
    · exact .bind (rawOf h p v) fun raw => .bind (h _) fun _ => stampNow p
    · exact failReadOnly p
    · exact .bind (rawOf h p v) fun raw => .bind (h _) fun _ => .bind (h _) fun refreshed =>
        .bind (receive h hp refreshed) fun _ => .pure _

theorem setWith {p : ParamId} {v : Value} (write : D.Obeys (p.write handler v)) :
    D.Obeys (p.setWith handler v) :=
  .bind write fun _ => announce h p

theorem updateWith {p : ParamId} (get : D.Obeys (p.getWith handler)) :
    D.Obeys (p.updateWith handler) := by
  refine .bind (.read fun _ => rfl) fun param => .bind get fun value => ?_
  dsimp only
  split
  · exact .bind (announce h p) fun _ => .pure _
  · exact .pure _

private theorem getByName (n : NodeId) (name : String) : D.Obeys (n.getWith handler name) :=
  .bind (parameter n name) fun _ => h _

private theorem setByName (n : NodeId) (name : String) (v : Value) :
    D.Obeys (n.setWith handler name v) :=
  .bind (parameter n name) fun _ => .bind (h _) fun _ => .pure _

end Handler

/-! ## Scripts -/

mutual

private theorem eval {handler : Handler} (h : ∀ request, D.Obeys (handler request)) (call : Call) :
    (e : Expr) → D.Obeys (e.eval handler call)
  | .const v => .pure v
  | .value => .pure _
  | .arg _ => .pure _
  | .args => .pure _
  | .cell _ => .read fun _ => rfl
  | .get name => .bind (defined _) fun n => getByName h n name
  | .latest name =>
    .bind (defined _) fun n => .bind (parameter n name) fun _ => .read fun _ => rfl
  | .getHandle handle => .bind (paramOf handle) fun _ => h _
  | .latestHandle handle => .bind (paramOf handle) fun _ => .read fun _ => rfl
  | .paramName => .bind (defined _) fun p => .bind (paramFullName p) fun _ => .pure _
  | .nodeName => .bind (defined _) fun n => .bind (displayName n) fun _ => .pure _
  | .add a b => .bind (eval h call a) fun _ => .bind (eval h call b) fun _ => ofExcept _
  | .sub a b => .bind (eval h call a) fun _ => .bind (eval h call b) fun _ => ofExcept _
  | .scale e _ _ => .bind (eval h call e) fun _ => .pure _
  | .list items => .bind (evalItems h call items) fun _ => .pure _
  | .fail _ => .fail _

theorem evalItems {handler : Handler} (h : ∀ request, D.Obeys (handler request))
    (call : Call) : (items : List Expr) → D.Obeys (Expr.evalItems handler call items)
  | [] => .pure _
  | item :: rest => .bind (eval h call item) fun _ => .bind (evalItems h call rest) fun _ => .pure _

end

section Handler

variable {handler : Handler} (h : ∀ request, D.Obeys (handler request))

include h

private theorem action (call : Call) (a : Action) : D.Obeys (a.run handler call) := by
  have evaluated (e : Expr) : D.Obeys (e.eval handler call) := eval h call e
  cases a with
  | log tag e =>
    rw [Action.run]
    exact .bind (evaluated e) fun v => change (fun r => .journal r _) fun _ => .of_params rfl
  | cell name e =>
    rw [Action.run]
    exact .bind (evaluated e) fun v => change (fun r => .cell r _) fun _ => .of_params rfl
  | set name e =>
    rw [Action.run]
    exact .bind (evaluated e) fun v => .bind (defined _) fun n => setByName h n name v
  | update name =>
    rw [Action.run]
    exact .bind (defined _) fun n => .bind (parameter n name) fun _ => .bind (h _) fun _ => .pure _
  | setHandle handle e =>
    rw [Action.run]
    exact .bind (evaluated e) fun v => .bind (paramOf handle) fun _ => .bind (h _) fun _ => .pure _
  | updateHandle handle =>
    rw [Action.run]
    exact .bind (paramOf handle) fun _ => .bind (h _) fun _ => .pure _
  | fail message =>
    rw [Action.run]
    exact .fail _
  | failIf message e =>
    rw [Action.run]
    refine .bind (evaluated e) fun v => ?_
    cases v.isTrue with
    | true => exact .fail _
    | false => exact .pure _
  | disconnect handle listener =>
    rw [Action.run]
    exact .bind (.read fun _ => rfl) fun bench => .bind (defined _) fun id =>
      .bind (paramOf handle) fun p => .bind (disconnect p id) fun _ => .pure _
  | disconnectAll handle =>
    rw [Action.run]
    exact .bind (paramOf handle) fun p => disconnectAll p
  | connect handle callback =>
    rw [Action.run]
    exact .bind (paramOf handle) fun p => .bind (listen p _) fun _ => .pure _

private theorem script (call : Call) (body : Script) : D.Obeys (body.run handler call) := by
  obtain ⟨actions, result⟩ := body
  refine .bind (.forM (action h call) actions) fun _ => ?_
  cases result with
  | none => exact .pure _
  | some e => exact eval h call e

/-! ## Pulses, sequences and devices -/

private theorem pulseStop (n : NodeId) : D.Obeys (n.pulseStop handler) :=
  .bind (getByName h n _) fun _ => .bind (getByName h n _) fun _ => .pure _

private theorem setPulseStop (n : NodeId) (stop : Value) : D.Obeys (n.setPulseStop handler stop) :=
  .bind (getByName h n _) fun _ => .bind (ofExcept _) fun v => setByName h n _ v

private theorem timesOf (name : String) (pulses : List NodeId) :
    D.Obeys (NodeId.timesOf handler name pulses) := by
  induction pulses with
  | nil => exact .pure _
  | cons pulse rest ih =>
    refine .bind (.read pulse.isEnabled_read) fun enabled => ?_
    cases enabled with
    | true => exact .bind (getByName h pulse name) fun _ => .bind ih fun _ => .pure _
    | false => exact ih

private theorem pulseTimes (n : NodeId) (name : String) : D.Obeys (n.pulseTimes handler name) :=
  .bind (.read fun _ => rfl) fun pulses => .bind (timesOf h name pulses) fun _ => .pure _

private theorem duration (s : SequenceId) (n : NodeId) : D.Obeys (s.duration handler n) := by
  refine .bind (.read fun _ => rfl) fun sequence => ?_
  cases sequence.fixedDuration with
  | none => exact .bind (pulseTimes h n _) fun _ => .pure _
  | some duration => exact .pure _

end Handler

private theorem readDevice (d : DeviceId) (address : String) : D.Obeys (d.read address) := by
  refine .bind (.read fun _ => rfl) fun device => ?_
  split
  · exact .pure _
  · exact .fail _

theorem writeDevice (d : DeviceId) (address : String) (v : Value) :
    D.Obeys (d.write address v) := by
  refine .bind (.read fun _ => rfl) fun device => ?_
  split
  · exact change (fun r => .device r d _) fun _ => .of_params rfl
  · exact .fail _

private theorem resetChannels (d : DeviceId) (count : Nat) : D.Obeys (d.resetChannels count) :=
  .forM (fun _ => .bind (writeDevice d _ _) fun _ => writeDevice d _ _) _

/-! ## The engine -/

section Handler

variable {handler : Handler} (h : ∀ request, D.Obeys (handler request))

include h

private theorem callable (call : Call) (c : Callable) : D.Obeys (c.run handler call) := by
  cases c with
  | script body => exact script h call body
  | pulseStop => exact .bind (defined _) fun n => pulseStop h n
  | setPulseStop => exact .bind (defined _) fun n => .bind (setPulseStop h n _) fun _ => .pure _
  | refresh p => exact .bind (h _) fun _ => .pure _
  | refreshOwned p =>
    refine .bind (.read fun _ => rfl) fun owner => ?_
    cases owner with
    | none => exact .pure _
    | some owner => exact .bind (h _) fun _ => .pure _
  | sequenceDuration s => exact .bind (defined _) fun n => duration h s n
  | fixDuration s =>
    exact .bind (change (fun r => .duration r s _) fun _ => .of_params rfl) fun _ => .pure _
  | pulseTimes name =>
    exact .bind (defined _) fun n => .bind (pulseTimes h n name) fun _ => .pure _
  | readRegister d address => exact readDevice d address
  | writeRegister d address => exact .bind (writeDevice d address _) fun _ => .pure _
  | voltsOfMillivolts => exact ofExcept _
  | millivoltsOfVolts => exact ofExcept _
  | resetChannels d count => exact .bind (resetChannels d count) fun _ => .pure _

end Handler

theorem engine
    (transfer : ∀ fuel, (∀ k ≤ fuel, ∀ request, D.Obeys (LabRegistry.engine k request)) →
      ∀ p : ParamId, D.Obeys (p.getWith (LabRegistry.engine fuel)) ∧
        (∀ v, D.Obeys (p.setWith (LabRegistry.engine fuel) v)) ∧
        D.Obeys (p.updateWith (LabRegistry.engine fuel)))
    (fuel : Nat) (request : Request) : D.Obeys (LabRegistry.engine fuel request) := by
  induction fuel using Nat.strongRecOn generalizing request with
  | _ fuel ih =>
    cases fuel with
    | zero => exact .throw _
    | succ fuel =>
      have below (k : Nat) (hk : k ≤ fuel) (request : Request) :
          D.Obeys (LabRegistry.engine k request) := ih k (Nat.lt_succ_of_le hk) request
      cases request with
      | get p => exact (transfer fuel below p).1
      | set p v => exact .bind ((transfer fuel below p).2.1 v) fun _ => .pure _
      | update p => exact (transfer fuel below p).2.2
      | call c call => exact callable (below fuel (Nat.le_refl _)) call c

theorem engine_of_writes (writes : ∀ p, D.Writes p) (fuel : Nat) (request : Request) :
    D.Obeys (LabRegistry.engine fuel request) :=
  engine (fun fuel ih p => by
    have below := ih fuel (Nat.le_refl _)
    have get := getWith below (writes p)
    exact ⟨get, fun v => setWith below (write below (writes p) v), updateWith below get⟩)
    fuel request

theorem connect (set : ∀ (p : ParamId) (v : Value), D.Obeys (p.set v)) (p target : ParamId)
    (link : Link) : D.Obeys (p.connect target link) := by
  refine .bind (listen p _) fun _ => ?_
  split
  · refine .bind (.read fun _ => rfl) fun current => ?_
    split
    · exact set target _
    · exact .pure _
  · exact .pure _

end Discipline
end LabRegistry

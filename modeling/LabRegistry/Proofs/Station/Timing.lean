import LabRegistry.Proofs.Binding.Command
import LabRegistry.Proofs.Station.Creation

/-!
# The station in use

A user sets the times of the first pulse of a station, and of the second what does not follow from the
link. The pulses stay linked, whatever is set and whether it is taken or not.
-/
namespace LabRegistry

open Registry

variable {r after : Registry} {plunge read : NodeId} {s : SequenceId}

/-! ## Settings of the station -/

/-- What a user sets of the pulses of the station. The start of the second follows the first. -/
inductive Station.Setting where
  | plungeStart
  | plungeDuration
  | plungeStop
  | readDuration
  | readStop
  | readAmplitude
deriving DecidableEq

namespace Station

def Setting.pulse : Setting → String
  | plungeStart | plungeDuration | plungeStop => "plunge"
  | readDuration | readStop | readAmplitude => "read"

def Setting.name : Setting → String
  | plungeStart => "t_start"
  | plungeDuration | readDuration => "duration"
  | plungeStop | readStop => "t_stop"
  | readAmplitude => "amplitude"

def adjust (station : Station) (setting : Setting) (v : Value) : Act DomainError Unit := do
  let pulse ← station.sequence.pulse setting.pulse
  pulse.set setting.name v

end Station

private theorem Effects.nodeOf (h : Effects r after) (t : SequenceId) :
    after.nodeOf t = r.nodeOf t := by
  induction h with
  | refl => rfl
  | tail _ effect ih =>
    refine Eq.trans ?_ ih
    cases effect with
    | duration s fixedDuration =>
      rw [Registry.nodeOf, sequence_change]
      split <;> rfl
    | _ => rfl

namespace Registry

/-- The registry after some settings of a station, whether they were taken or not. -/
def adjusted (r : Registry) (station : Station) (settings : List (Station.Setting × Value)) : Registry :=
  settings.foldl (fun r entry => (station.adjust entry.1 entry.2 r).2) r

namespace Playing

variable (h : r.Playing s plunge read)

include h

private theorem plunge_run : s.pulse "plunge" r = (.ok plunge, r) := by
  refine SequenceId.pulse_run ?_ h.first_ready.isPulse
  rw [OrderedMap.get?, h.children]
  rfl

private theorem read_run : s.pulse "read" r = (.ok read, r) := by
  refine SequenceId.pulse_run ?_ h.second_ready.isPulse
  rw [OrderedMap.get?, h.children]
  rfl

private theorem of_set {n : NodeId} {name : String} {v : Value}
    (linked : ((n.set name v r).2).Linked s plunge read) : ((n.set name v r).2).Playing s plunge read := by
  have effects : Effects r (n.set name v r).2 :=
    Act.Keeps.bind (Effects.parameter n name) (fun p => Effects.set p v) r
  refine ⟨linked, ?_⟩
  rw [effects.sameNodes.node, effects.nodeOf, h.children]

private theorem adjust {station : Station} (own : station.sequence = s) (setting : Station.Setting)
    (v : Value) :
    ((station.adjust setting v r).2).Playing s plunge read := by
  subst own
  have run {pulse : NodeId} (found : station.sequence.pulse setting.pulse r = (.ok pulse, r)) :
      (station.adjust setting v r).2 = (pulse.set setting.name v r).2 := by
    rw [Station.adjust, Act.bind_run, found]
    exact Act.lift_state _ _
  cases setting with
  | plungeStart | plungeDuration | plungeStop =>
    rw [run h.plunge_run]
    exact h.of_set (h.toLinked.set_first (by decide) v)
  | readDuration | readStop | readAmplitude =>
    rw [run h.read_run]
    exact h.of_set (h.toLinked.set_second (by decide) v)

private theorem adjusted {station : Station} (own : station.sequence = s)
    (settings : List (Station.Setting × Value)) : (r.adjusted station settings).Playing s plunge read := by
  induction settings generalizing r with
  | nil => exact h
  | cons entry rest ih => exact ih (h.adjust own entry.1 entry.2)

end Playing
end Registry

/-- A station can be made whatever its configuration is. Whatever the times of its first pulse and the
duration, the stop and the amplitude of its second pulse are set to, taken or not, the second pulse starts
where the first one stops, it stops its duration later, if there is a sum, and the duration of the sequence
is the largest of zero and the stops that there are. -/
theorem Station.timing_of_settings (log : Log) (now : Instant) (config : AppConfig) (handle : String) :
    ∃ station built, Station.create config (start log now) = (.ok station, built) ∧ ∃ plunge read,
      ∀ settings : List (Station.Setting × Value),
        let r := (built.keep handle (.station station)).adjusted station settings
        station.sequence.pulse "plunge" r = (.ok plunge, r) ∧
        station.sequence.pulse "read" r = (.ok read, r) ∧
        (r.cached read "t_start" == r.cached plunge "t_stop") = true ∧
        r.cached read "t_stop" =
          ((r.cached read "t_start").add? (r.cached read "duration")).getD .null ∧
        ∃ x, r.cached (r.nodeOf station.sequence) "duration" = .number (.float x) ∧
          (Double.finite x).IsLargest
            (.zero :: [plunge, read].filterMap fun n => (r.cached n "t_stop").toDouble?) := by
  obtain ⟨station, built, created, plunge, read, playing⟩ := Station.create_run config handle
    (r := start log now) rfl
  refine ⟨station, built, created, plunge, read, fun settings => ?_⟩
  have h := playing.adjusted rfl settings
  exact ⟨h.plunge_run, h.read_run, h.start_eq_stop, h.stop_eq, h.duration_isLargest⟩

end LabRegistry

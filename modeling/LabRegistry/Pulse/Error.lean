import LabRegistry.Pulse.Query

/-!
# Errors about pulses and instruments

Errors of the registry are taken over unchanged.
-/
namespace LabRegistry

inductive DomainError where
  | registry (cause : RegistryError)
  /-- Pulses of a sequence are known by name. -/
  | unnamedPulse
  | pulseNameTaken (name : String)
  | pulsesOverlap (pulse other : String)
  | severalPulses (count : Nat) (query : PulseQuery)
  /-- Duration and stop fix the same quantity. -/
  | durationAndStop
  | notAPulse (name : String)

def DomainError.message : DomainError → String
  | .registry cause => cause.message
  | .unnamedPulse => "pulse has no name"
  | .pulseNameTaken name => "pulse sequence already contains a pulse named '" ++ name ++ "'"
  | .pulsesOverlap pulse other => "pulse '" ++ pulse ++ "' overlaps with '" ++ other ++ "'"
  | .severalPulses count query =>
    "more than one pulse found: " ++ String.ofList (Nat.toDigits 10 count) ++ " pulses match " ++
      query.inspect
  | .durationAndStop => "pulse takes either duration or t_stop, not both"
  | .notAPulse name => "'" ++ name ++ "' is not a pulse"

instance : MonadLiftT (Act RegistryError) (Act DomainError) := ⟨Act.mapError .registry⟩

end LabRegistry

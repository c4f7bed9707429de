import LabRegistry.Pulse.Error

/-!
# Errors of the application

An error of the registry or of the domain is announced as such; the others concern the
environment and the command line.
-/
namespace LabRegistry

inductive AppError where
  | registry (cause : RegistryError)
  | domain (cause : DomainError)
  | badWidth (key raw : String)
  /-- A switch is none of the words for on and off. -/
  | badSwitch (key raw : String)
  | unexpectedArgument (argument : String)

def usage : String := "usage: paramtree [snapshot|print] [--simplify] [--update]"

def AppError.message : AppError → String
  | .registry cause => "Error de registro: " ++ cause.message
  | .domain cause => "Error de dominio: " ++ cause.message
  | .badWidth key raw =>
    "Error de configuración: " ++ key ++ " must be a positive integer, got '" ++ raw ++ "'"
  | .badSwitch key raw =>
    "Error de configuración: " ++ key ++ " must be a boolean, got '" ++ raw ++ "'"
  | .unexpectedArgument argument =>
    "Uso inválido: unexpected argument '" ++ argument ++ "'\n" ++ usage

instance : MonadLiftT (Act DomainError) (Act AppError) := ⟨Act.mapError .domain⟩

/-- Errors of the registry are taken over directly, not as errors of the domain. -/
instance : MonadLiftT (Act RegistryError) (Act AppError) := ⟨Act.mapError .registry⟩

end LabRegistry

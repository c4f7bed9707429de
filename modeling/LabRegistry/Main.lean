import LabRegistry.Station
import Std.Time.DateTime.Timestamp

/-!
# The program

Prints the demonstration station as the arguments and the environment ask for.
-/
namespace LabRegistry

/-- Builds the station, the clock starting at an instant, and renders it. -/
def runProgram (now : Instant) (args : List String) (lookup : String → Option String) :
    Except (Halt AppError) String := do
  let options ← (RenderOptions.ofArgs args).mapError .failed
  let config ← (AppConfig.ofLookup lookup).mapError .failed
  let act : Act AppError String := do
    let station ← Station.create config
    Act.holding station.root (station.render options config)
  (act { now }).1

/-- The exit code of a failure: 2 for a wrong command line, 1 for all else. -/
def exitCode : Halt AppError → UInt32
  | .failed (.unexpectedArgument _) => 2
  | _ => 1

def haltMessage : Halt AppError → String
  | .failed cause => cause.message
  | .endless => "endless propagation"
  | .undefinedName => "undefined name"

end LabRegistry

open LabRegistry in
def main (args : List String) : IO UInt32 := do
  let stamp ← Std.Time.Timestamp.now
  let now : Instant := ⟨stamp.val.second.val, stamp.val.nano.val.toNat⟩
  let width ← IO.getEnv AppConfig.widthVariable
  let log ← IO.getEnv AppConfig.logVariable
  let simplify ← IO.getEnv AppConfig.simplifyVariable
  let lookup (key : String) : Option String :=
    if key = AppConfig.widthVariable then width
    else if key = AppConfig.logVariable then log
    else if key = AppConfig.simplifyVariable then simplify
    else none
  match runProgram now args lookup with
  | .ok text =>
    IO.println text
    return 0
  | .error halt =>
    IO.eprintln ("[paramtree] " ++ haltMessage halt)
    return exitCode halt

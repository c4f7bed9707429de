import LabRegistry.Application.Error
import LabRegistry.Text.Blank

/-!
# Configuration of the application

The application is configured by three environment variables. A missing variable leaves its
default; the first malformed one is an error.
-/
namespace LabRegistry

structure AppConfig where
  maxChars : Nat := 80
  logsChanges : Bool := false
  shortSnapshots : Bool := false
deriving DecidableEq

namespace AppConfig

def widthVariable : String := "PARAMTREE_PRINT_MAX_CHARS"

def logVariable : String := "PARAMTREE_LOG_CHANGES"

def simplifyVariable : String := "PARAMTREE_SIMPLIFY_SNAPSHOT"

/-- Decimal digits after an optional plus sign, as a number from 1 to `2^64 - 1`. -/
def readWidth? (text : List Char) : Option Nat :=
  let digits := match text with
    | '+' :: rest => rest
    | rest => rest
  if digits.isEmpty || !digits.all Char.isDigit then none
  else
    let n := digits.foldl (fun total c => 10 * total + (c.toNat - '0'.toNat)) 0
    if 0 < n ∧ n < 0x10000000000000000 then some n else none

/-- A word for on or off in any ASCII case; no word at all means off. -/
def readSwitch? (text : List Char) : Option Bool :=
  let word := String.ofList (text.map Char.toLower)
  if ["1", "true", "yes", "on"].contains word then some true
  else if ["0", "false", "no", "off", ""].contains word then some false
  else none

/-- A variable read after trimming, `fallback` where it is missing. -/
def readVariable {α : Type} (lookup : String → Option String) (read? : List Char → Option α)
    (malformed : String → String → AppError) (fallback : α) (key : String) :
    Except AppError α :=
  match lookup key with
  | none => .ok fallback
  | some raw =>
    match read? (Text.trim raw.toList) with
    | some x => .ok x
    | none => .error (malformed key raw)

/-- The configuration that an environment gives. -/
def ofLookup (lookup : String → Option String) : Except AppError AppConfig := do
  let maxChars ← readVariable lookup readWidth? .badWidth 80 widthVariable
  let logsChanges ← readVariable lookup readSwitch? .badSwitch false logVariable
  let shortSnapshots ← readVariable lookup readSwitch? .badSwitch false simplifyVariable
  return { maxChars, logsChanges, shortSnapshots }

/-- The configuration of the root nodes that the application makes. -/
def nodeConfig (config : AppConfig) : NodeConfig where
  logsChanges := config.logsChanges
  shortSnapshots := config.shortSnapshots

/-- The configuration of an environment, the default one if a variable is malformed. -/
def ofLookupOrDefault (lookup : String → Option String) : AppConfig :=
  match ofLookup lookup with
  | .ok config => config
  | .error _ => {}

end AppConfig
end LabRegistry

import LabRegistry.Registry.Inspect

/-!
# Queries for pulses

A query says which pulses of a sequence are wanted.
-/
namespace LabRegistry

/-- The enabled pulses unless the others are included, with the name if one is given, and with
the given values of parameters. -/
structure PulseQuery where
  includeDisabled : Bool := false
  name : Option String := none
  conditions : List (String × Value) := []

namespace PulseQuery

def inspectCondition (condition : String × Value) : String :=
  "(" ++ Text.quoted condition.1 ++ ", " ++ condition.2.inspect ++ ")"

def inspect (query : PulseQuery) : String :=
  inspectRecord "PulseQuery" [
    ("include_disabled", inspectBool query.includeDisabled),
    ("name", Text.inspectOption Text.quoted query.name),
    ("conditions", Text.inspectList inspectCondition query.conditions)]

end PulseQuery

end LabRegistry

import LabRegistry.Sequence.Basic

/-!
# Selecting pulses

The enabled pulses of a sequence in the order of their starts, and the pulses that a query asks
for.
-/
namespace LabRegistry.SequenceId

/-- The enabled ones among some pulses, each with its start; without one it starts at infinity. -/
def enabledStarts : List NodeId → Act DomainError (List (Double × NodeId))
  | [] => return []
  | pulse :: rest => do
    if ← pulse.isEnabled then
      let start ← Pulse.start? pulse
      return (start.getD (.infinite false), pulse) :: (← enabledStarts rest)
    else enabledStarts rest

/-- The enabled pulses in the order of their starts, those without a start last. -/
def enabledPulses (s : SequenceId) : Act DomainError (List NodeId) := do
  let keyed ← enabledStarts (← s.pulses)
  return (keyed.mergeSort fun a b => a.1.totalLe b.1).map (·.2)

/-- The ones among some pulses that have the name and satisfy the conditions of a query. -/
def matching (query : PulseQuery) : List NodeId → Act DomainError (List NodeId)
  | [] => return []
  | pulse :: rest => do
    let named := query.name.isNone || (← pulse.state).name == query.name
    if named then
      if ← Pulse.satisfies pulse query.conditions then return pulse :: (← matching query rest)
    matching query rest

/-- The pulses that a query asks for: the enabled ones in the order of their starts or, with the
disabled ones, all in insertion order. -/
def select (s : SequenceId) (query : PulseQuery) : Act DomainError (List NodeId) := do
  let candidates ← if query.includeDisabled then s.pulses else s.enabledPulses
  matching query candidates

/-- The only pulse that a query asks for, if there is one; more than one is an error. -/
def selectOne (s : SequenceId) (query : PulseQuery) : Act DomainError (Option NodeId) := do
  match ← s.select query with
  | [] => return none
  | [pulse] => return some pulse
  | found => Act.fail (.severalPulses found.length query)

end LabRegistry.SequenceId

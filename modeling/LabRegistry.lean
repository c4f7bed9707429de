import LabRegistry.Main
import LabRegistry.Proofs.Binding.Lookup
import LabRegistry.Proofs.Containment.Guard
import LabRegistry.Proofs.Containment.Attained
import LabRegistry.Proofs.Links.Propagation
import LabRegistry.Proofs.Links.History
import LabRegistry.Proofs.Naming.Registered
import LabRegistry.Proofs.Pulse.Consistent
import LabRegistry.Proofs.Snapshot.ShortForm
import LabRegistry.Proofs.Value.Canonical
import LabRegistry.Sequence.Selection
import LabRegistry.Workbench
import LabRegistry.Proofs.Pulse.Callback
import LabRegistry.Proofs.Validation.Reached
import LabRegistry.Proofs.Double.Order
import LabRegistry.Proofs.Pulse.Copy
import LabRegistry.Proofs.Sequence.Copy
import LabRegistry.Proofs.Sequence.Disjoint
import LabRegistry.Proofs.Sequence.Independence
import LabRegistry.Proofs.Sequence.Listeners
import LabRegistry.Proofs.Station.Timing
import LabRegistry.Proofs.Binding.Refused
import LabRegistry.Proofs.Double.Bounds
import LabRegistry.Proofs.Instrument.Setting
import LabRegistry.Proofs.Instrument.Access
import LabRegistry.Proofs.Instrument.Registers
import LabRegistry.Proofs.Instrument.Reset
import LabRegistry.Proofs.Sequence.Routes
import LabRegistry.Proofs.Double.Integral
import LabRegistry.Proofs.Value.Integers
import LabRegistry.Proofs.Transfer.Outcome
import LabRegistry.Proofs.Validation.Bounds
import LabRegistry.Proofs.Pulse.Overlap
import LabRegistry.Proofs.Sequence.Acceptance
import LabRegistry.Proofs.Sequence.Enabled
import LabRegistry.Proofs.Sequence.Ordered
import LabRegistry.Proofs.Sequence.Query
import LabRegistry.Proofs.Pulse.Given
import LabRegistry.Proofs.Sequence.MovedStop
import LabRegistry.Proofs.Pulse.Built
import LabRegistry.Proofs.Snapshot.Image
import LabRegistry.Proofs.Snapshot.Visits
import LabRegistry.Proofs.Snapshot.Paths
import LabRegistry.Proofs.Table.Width
import LabRegistry.Proofs.Application.Arguments
import LabRegistry.Proofs.Application.Environment
import LabRegistry.Proofs.Binding.FirstHolder

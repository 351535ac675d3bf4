import TriggeredSampler.Bench
import TriggeredSampler.Device.Playback
import TriggeredSampler.Device.Simulation
import TriggeredSampler.Engine.Tape
import TriggeredSampler.Sample.Table
import TriggeredSampler.Proofs.Storage.Plan
import TriggeredSampler.Proofs.Configuration.Validity
import TriggeredSampler.Proofs.Engine.Columns
import TriggeredSampler.Proofs.Engine.Reads
import TriggeredSampler.Proofs.Engine.Shape
import TriggeredSampler.Proofs.Engine.Conservation
import TriggeredSampler.Proofs.Device.Node
import TriggeredSampler.Proofs.Device.Scene
import TriggeredSampler.Proofs.Session.Acceptance
import TriggeredSampler.Proofs.Session.Inside
import TriggeredSampler.Proofs.Session.Delivery
import TriggeredSampler.Proofs.Session.Telling
import TriggeredSampler.Proofs.Session.Operations
import TriggeredSampler.Proofs.Session.Settled
import TriggeredSampler.Proofs.Session.Notices
import TriggeredSampler.Proofs.Session.Orderly
import TriggeredSampler.Proofs.Session.Hearing
import TriggeredSampler.Proofs.Session.Stopping
import TriggeredSampler.Proofs.Session.Tied
import TriggeredSampler.Proofs.Session.Serving
import TriggeredSampler.Proofs.Session.Coupling
import TriggeredSampler.Proofs.Session.Unmanned
import TriggeredSampler.Proofs.Session.Endings
import TriggeredSampler.Proofs.Session.Calls
import TriggeredSampler.Proofs.Session.Failures
import TriggeredSampler.Proofs.Engine.Iterations
import TriggeredSampler.Proofs.Device.Joined
import TriggeredSampler.Proofs.Device.Twins
import TriggeredSampler.Proofs.Session.Agreement
import TriggeredSampler.Proofs.Session.Configuring
import TriggeredSampler.Proofs.Session.Nested
import TriggeredSampler.Proofs.Session.Moments
import TriggeredSampler.Proofs.Session.Causes
import TriggeredSampler.Proofs.Session.Halts
import TriggeredSampler.Proofs.Session.Equipment
import TriggeredSampler.Proofs.Session.Starts
import TriggeredSampler.Proofs.Session.Alike.Operations
import TriggeredSampler.Proofs.Session.Panics
import TriggeredSampler.Proofs.Session.Resting
import TriggeredSampler.Proofs.Bench.Registry
import TriggeredSampler.Proofs.Bench.Bindings
import TriggeredSampler.Proofs.Bench.Stops
import TriggeredSampler.Proofs.Sample.Counting
import TriggeredSampler.Proofs.Session.Draining
import TriggeredSampler.Proofs.Lifecycle.Machine
import TriggeredSampler.Proofs.Lifecycle.Calls
import TriggeredSampler.Proofs.Configuration.Format
import TriggeredSampler.Proofs.Device.Observed
import TriggeredSampler.Proofs.Session.Polling
import TriggeredSampler.Proofs.Session.Acts
import TriggeredSampler.Proofs.Session.Polls
import TriggeredSampler.Proofs.Session.Engaged
import TriggeredSampler.Proofs.Engine.Grid
import TriggeredSampler.Proofs.Engine.Paths
import TriggeredSampler.Proofs.Device.Stored
import TriggeredSampler.Proofs.Session.Joining
import TriggeredSampler.Proofs.Configuration.Runnable
import TriggeredSampler.Proofs.Sample.Cuts
import TriggeredSampler.Proofs.Engine.FailedReads
import TriggeredSampler.Proofs.Session.Arming
import TriggeredSampler.Proofs.Device.Accounts
import TriggeredSampler.Proofs.Engine.Edges
import TriggeredSampler.Proofs.Sample.Table
import TriggeredSampler.Proofs.Storage.Uses
import TriggeredSampler.Proofs.Engine.Representation

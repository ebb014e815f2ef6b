import PluginSandbox.Json.Reader
import PluginSandbox.Json.Writer
import PluginSandbox.Policy.File
import PluginSandbox.Trial.Host
import PluginSandbox.Trial.Workers
import PluginSandbox.Proofs.Checker.Fields
import PluginSandbox.Proofs.Filtering
import PluginSandbox.Proofs.Checker.FileDecisions
import PluginSandbox.Proofs.Host.Bounds
import PluginSandbox.Proofs.Host.Run
import PluginSandbox.Proofs.Host.Confinement
import PluginSandbox.Proofs.Worker.Chronicle
import PluginSandbox.Proofs.Worker.Moves
import PluginSandbox.Proofs.Worker.Order
import PluginSandbox.Proofs.Worker.Results
import PluginSandbox.Proofs.Worker.Replies
import PluginSandbox.Proofs.Worker.ExactlyOnce
import PluginSandbox.Proofs.Worker.Lived
import PluginSandbox.Proofs.Host.Lived
import PluginSandbox.Proofs.Monitor.Latch
import PluginSandbox.Proofs.Monitor.Budget
import PluginSandbox.Proofs.Worker.Acts
import PluginSandbox.Proofs.Checker.NetworkDecisions
import PluginSandbox.Proofs.Delivery.Topics
import PluginSandbox.Proofs.Delivery.Attempts
import PluginSandbox.Proofs.Config.Writes
import PluginSandbox.Proofs.Config.Session
import PluginSandbox.Proofs.Config.Chain
import PluginSandbox.Proofs.Worker.CallStart
import PluginSandbox.Proofs.Host.Acts
import PluginSandbox.Proofs.Host.CallGate
import PluginSandbox.Proofs.Delivery.FlatList
import PluginSandbox.Proofs.Delivery.Bus
import PluginSandbox.Proofs.Worker.Serving
import PluginSandbox.Proofs.Worker.Withdrawn
import PluginSandbox.Proofs.Checker.Questions
import PluginSandbox.Proofs.Host.Changes
import PluginSandbox.Proofs.Host.Lives
import PluginSandbox.Proofs.Host.Routing
import PluginSandbox.Proofs.Host.Failures
import PluginSandbox.Proofs.Host.Reloading
import PluginSandbox.Proofs.Hierarchy.Segments
import PluginSandbox.Proofs.Checker.Grants
import PluginSandbox.Proofs.Text.Lowercase
import PluginSandbox.Proofs.Network.Plain
import PluginSandbox.Proofs.Checker.Snapshot
import PluginSandbox.Proofs.Worker.Moments
import PluginSandbox.Proofs.Worker.Interrupt
import PluginSandbox.Proofs.Monitor.Counters
import PluginSandbox.Proofs.Bucket.Windows
import PluginSandbox.Proofs.Worker.Admission
import PluginSandbox.Proofs.Host.Bursts
import PluginSandbox.Proofs.Worker.Skipped
import PluginSandbox.Proofs.Worker.Course
import PluginSandbox.Proofs.Worker.Sealed
import PluginSandbox.Proofs.Worker.Without
import PluginSandbox.Proofs.Worker.Erasure
import PluginSandbox.Proofs.Host.Abandoned
import PluginSandbox.Proofs.Path.Routes
import PluginSandbox.Proofs.Path.Composition
import PluginSandbox.Proofs.Path.TextContainment
import PluginSandbox.Proofs.Path.Unanchored
import PluginSandbox.Proofs.Network.Targets
import PluginSandbox.Proofs.Network.Slices
import PluginSandbox.Proofs.Text.Ascii
import PluginSandbox.Proofs.Network.Spellings
import PluginSandbox.Proofs.Checker.Spellings
import PluginSandbox.Proofs.Filtering.Projection
import PluginSandbox.Proofs.Monitor.Mirrors
import PluginSandbox.Proofs.Documents.Spellings
import PluginSandbox.Proofs.Documents.RoundTrip
import PluginSandbox.Proofs.Lookup
import PluginSandbox.Proofs.Documents.PartialLimits
import PluginSandbox.Proofs.ModuleRegistry
import PluginSandbox.Proofs.Host.Exposure

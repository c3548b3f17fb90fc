import ControlPlane.Config.Logging
import ControlPlane.Envelope.Json
import ControlPlane.Master.Basic
import ControlPlane.Proofs.Store.Audit
import ControlPlane.Proofs.Node.Uniqueness
import ControlPlane.Proofs.Node.Race
import ControlPlane.Proofs.Delegate.Confinement
import ControlPlane.Proofs.Entity.Survival
import ControlPlane.Proofs.Backend.Session
import ControlPlane.Proofs.Network.Delivery
import ControlPlane.Proofs.Network.Separation
import ControlPlane.Proofs.Network.Reachability
import ControlPlane.Proofs.Node.Release
import ControlPlane.Proofs.Node.Effect
import ControlPlane.Proofs.Node.Liveness
import ControlPlane.Proofs.Node.Mastership
import ControlPlane.Proofs.Node.Reign
import ControlPlane.Proofs.Telemetry.Stream
import ControlPlane.Proofs.Network.Subscription
import ControlPlane.Proofs.Network.CleanEnd
import ControlPlane.Proofs.Store.Trail
import ControlPlane.Proofs.Network.Progress
import ControlPlane.Proofs.Network.Pipe
import ControlPlane.Proofs.Metrics.Operations
import ControlPlane.Proofs.Node.Heartbeat
import ControlPlane.Proofs.Node.Registration
import ControlPlane.Proofs.Node.Silence
import ControlPlane.Proofs.Node.Lookup
import ControlPlane.Proofs.Delegate.Identity
import ControlPlane.Proofs.Telemetry.Batch
import ControlPlane.Proofs.Master.Protocol
import ControlPlane.Proofs.Text.Order
import ControlPlane.Proofs.Telemetry.Promotion

import FaultLab.Backend
import FaultLab.Call
import FaultLab.Commanded
import FaultLab.Container.Address
import FaultLab.Container.Backend
import FaultLab.Container.Daemon
import FaultLab.Container.Node
import FaultLab.Document
import FaultLab.Document.Fields
import FaultLab.Document.Reader
import FaultLab.Endpoint
import FaultLab.Endpoint.Set
import FaultLab.Endpoint.Table
import FaultLab.Event
import FaultLab.Failure
import FaultLab.Firewall
import FaultLab.Firewall.Script
import FaultLab.Fixture
import FaultLab.Fixture.Reader
import FaultLab.Fixture.Writer
import FaultLab.Group
import FaultLab.Health
import FaultLab.Http
import FaultLab.Http.Url
import FaultLab.Injector
import FaultLab.Injector.Batch
import FaultLab.Injector.Rotation
import FaultLab.Json.Reader
import FaultLab.Json.Writer
import FaultLab.Layout
import FaultLab.Lifecycle
import FaultLab.Machine.Backend
import FaultLab.Machine.Hypervisor
import FaultLab.Machine.Node
import FaultLab.Machine.Shell
import FaultLab.Management
import FaultLab.Management.Gateway
import FaultLab.Node
import FaultLab.Number.Binary64
import FaultLab.Number.Decimal
import FaultLab.Number.Shortest
import FaultLab.Orchestrator
import FaultLab.Outcome
import FaultLab.Part
import FaultLab.Poller
import FaultLab.Power
import FaultLab.Rehearsal.Bench
import FaultLab.Rehearsal.Containers
import FaultLab.Rehearsal.Cue
import FaultLab.Rehearsal.Gateways
import FaultLab.Rehearsal.Queue
import FaultLab.Rehearsal.Record
import FaultLab.Rehearsal.Script
import FaultLab.Rehearsal.Site
import FaultLab.Simulation.Client
import FaultLab.Simulation.Detector
import FaultLab.Simulation.Fabric
import FaultLab.Simulation.Handle
import FaultLab.Simulation.Lab
import FaultLab.Span
import FaultLab.Text.Base64
import FaultLab.Text.Blank
import FaultLab.Text.Hidden
import FaultLab.Text.Quoted
import FaultLab.Text.Split
import FaultLab.Toml.Reader
import FaultLab.Toml.Scalar
import FaultLab.Uuid
import FaultLab.Proofs.Outcomes
import FaultLab.Proofs.Detection
import FaultLab.Proofs.Calls
import FaultLab.Proofs.Commands
import FaultLab.Proofs.Requests
import FaultLab.Proofs.Sessions
import FaultLab.Proofs.Epochs
import FaultLab.Proofs.Quorums
import FaultLab.Proofs.Agreement
import FaultLab.Proofs.Reports
import FaultLab.Proofs.Injections
import FaultLab.Proofs.Fleets
import FaultLab.Proofs.Rotations
import FaultLab.Proofs.Deployments
import FaultLab.Proofs.Readings
import FaultLab.Proofs.Recovery
import FaultLab.Proofs.Shapes
import FaultLab.Proofs.Aborts
import FaultLab.Proofs.Cleanups
import FaultLab.Proofs.ContainerLeftovers
import FaultLab.Proofs.Races
import FaultLab.Proofs.HandleIndependence
import FaultLab.Proofs.Batches
import FaultLab.Proofs.Validity
import FaultLab.Proofs.Walls
import FaultLab.Proofs.PeerBlocking
import FaultLab.Proofs.LeftoverRules
import FaultLab.Proofs.Views
import FaultLab.Proofs.ContainerRecords
import FaultLab.Proofs.HypervisorCalls
import FaultLab.Proofs.MachineOperations
import FaultLab.Proofs.MachineRecords
import FaultLab.Proofs.Teardowns
import FaultLab.Proofs.ContainerSimulation
import FaultLab.Proofs.Convergence
import FaultLab.Proofs.Effects
import FaultLab.Proofs.Sections
import FaultLab.Proofs.ConcurrentRequests
import FaultLab.Proofs.Texts
import FaultLab.Proofs.Records
import FaultLab.Proofs.RoundTrips
import FaultLab.Proofs.Timelines
import FaultLab.Proofs.Waits
import FaultLab.Proofs.Memories
import FaultLab.Proofs.Symmetries
import FaultLab.Proofs.Instructions
import FaultLab.Proofs.Partitions
import FaultLab.Proofs.Memberships
import FaultLab.Proofs.MembershipVerification
import FaultLab.Proofs.SimulatedSnapshots
import FaultLab.Proofs.Delays
import FaultLab.Proofs.Launches
import FaultLab.Proofs.Undoing
import FaultLab.Proofs.Repetitions
import FaultLab.Proofs.Deadlines
import FaultLab.Proofs.RotationRounds
import FaultLab.Proofs.PowerCycles
import FaultLab.Proofs.GatewayFailover
import FaultLab.Proofs.Tokens
import FaultLab.Proofs.Aging
import FaultLab.Proofs.StopGrace
import FaultLab.Proofs.LoginRefusals
import FaultLab.Proofs.Endpoints
import FaultLab.Proofs.Limits
import FaultLab.Proofs.Shells
import FaultLab.Proofs.Scripts
import FaultLab.Proofs.Tables
import FaultLab.Proofs.UnresponsiveLists
import FaultLab.Proofs.Edits
import FaultLab.Proofs.Addresses

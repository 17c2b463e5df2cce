import GnnSandbox.Graph.Converge
import GnnSandbox.Graph.Outcome
import GnnSandbox.Graph.Written
import GnnSandbox.Graph.History
import GnnSandbox.Graph.Run
import GnnSandbox.Graph.Infrastructure
import GnnSandbox.Graph.Router
import GnnSandbox.Graph.L3vpn
import GnnSandbox.Graph.Device
import GnnSandbox.Graph.Bridge
import GnnSandbox.Graph.Frame
import GnnSandbox.Graph.Current.Infrastructure
import GnnSandbox.Graph.Current.Router
import GnnSandbox.Graph.Current.L3vpn
import GnnSandbox.Graph.Current.Bridge
import GnnSandbox.Graph.Current.Op
import GnnSandbox.Graph.Follows
import GnnSandbox.Graph.Performed
import GnnSandbox.Graph.Plans.Infrastructure
import GnnSandbox.Graph.Plans.Router
import GnnSandbox.Graph.Plans.L3vpn
import GnnSandbox.Graph.Plans.Bridge
import GnnSandbox.Graph.Idempotent
import GnnSandbox.Lib.Raise
import GnnSandbox.Bench.Value
import GnnSandbox.Bench.Twin
import GnnSandbox.Bench.Env
import GnnSandbox.Bench.Loader
import GnnSandbox.Bench.Validation
import GnnSandbox.Bench.Projection
import GnnSandbox.Bench.Defects.Base
import GnnSandbox.Bench.Defects.Classes
import GnnSandbox.Bench.Defects.Registry
import GnnSandbox.Bench.Scenario
import GnnSandbox.Lib.Footprint
import GnnSandbox.Bench.Footprints
import GnnSandbox.Bench.Selection
import GnnSandbox.Bench.Independence
import GnnSandbox.Bench.Projector
import GnnSandbox.Bench.Agreement
import GnnSandbox.Bench.Files
import GnnSandbox.Bench.Effects
import GnnSandbox.Bench.Trace
import GnnSandbox.Bench.UniqueIds
import GnnSandbox.Bench.Lookups
import GnnSandbox.Bench.Noop
import GnnSandbox.Bench.Targets
import GnnSandbox.Bench.Accounted
import GnnSandbox.Bench.Snapshot
import GnnSandbox.Bench.SnapshotValid
import GnnSandbox.Bench.EdgeTable
import GnnSandbox.Bench.EdgeKeys
import GnnSandbox.Bench.Disagreement
import GnnSandbox.Lib.Part
import GnnSandbox.Lib.Registry
import GnnSandbox.Lib.First
import GnnSandbox.Operator.Crd
import GnnSandbox.Operator.Injection
import GnnSandbox.Operator.Parts
import GnnSandbox.Operator.Restore
import GnnSandbox.Operator.Interference
import GnnSandbox.Lib.Transition
import GnnSandbox.Lib.Holdings
import GnnSandbox.Operator.Handler
import GnnSandbox.Operator.Ports
import GnnSandbox.Operator.TrafficTest
import GnnSandbox.Operator.Traffic.Attempts
import GnnSandbox.Operator.Traffic.Books
import GnnSandbox.Operator.PortsOnRecord
import GnnSandbox.Operator.PortsApart
import GnnSandbox.Operator.FaultHandlers
import GnnSandbox.Operator.FaultHistory
import GnnSandbox.Operator.Deletion
import GnnSandbox.Operator.DependentsFirst
import GnnSandbox.Operator.Creation
import GnnSandbox.Operator.Ready
import GnnSandbox.Lib.JsonText
import GnnSandbox.Lib.StableSort
import GnnSandbox.Bench.Dumps
import GnnSandbox.Bench.Saved
import GnnSandbox.Bench.Loaded
import GnnSandbox.Bench.RoundTrip
import GnnSandbox.Agent.Manager
import GnnSandbox.Agent.Phases
import GnnSandbox.Agent.LiveRuns
import GnnSandbox.Agent.Collector
import GnnSandbox.Agent.Windows
import GnnSandbox.Agent.Scrapes
import GnnSandbox.Lib.Sequence
import GnnSandbox.Agent.Loss
import GnnSandbox.Lib.TokenBucket
import GnnSandbox.Agent.Limiter
import GnnSandbox.Lib.ConfigTree
import GnnSandbox.Vyos.Spec
import GnnSandbox.Vyos.Template
import GnnSandbox.Vyos.Refresh
import GnnSandbox.Lib.MergePatch
import GnnSandbox.Vyos.Patch
import GnnSandbox.Vyos.Topology
import GnnSandbox.Vyos.Layers
import GnnSandbox.Vyos.Undisturbed
import GnnSandbox.Lib.Overwrite
import GnnSandbox.Vyos.Effects
import GnnSandbox.Vyos.Reading
import GnnSandbox.Vyos.MtuFault
import GnnSandbox.Vyos.UnderlayFault
import GnnSandbox.Vyos.VpnFault
import GnnSandbox.Vyos.RtFault
import GnnSandbox.Vyos.BgpFault
import GnnSandbox.Vyos.FaultReach
import GnnSandbox.Operator.LeaveRunning
import GnnSandbox.Supervisor.Traces
import GnnSandbox.Operator.Allocation
import GnnSandbox.Vyos.Generation
import GnnSandbox.Vyos.Conflict
import GnnSandbox.Operator.Traffic.Agents
import GnnSandbox.Operator.Traffic.Flows
import GnnSandbox.Operator.Traffic.Starts
import GnnSandbox.Operator.Traffic.Retry
import GnnSandbox.Operator.Traffic.Timers
import GnnSandbox.Supervisor.Embeddings
import GnnSandbox.Vyos.WellFormed
import GnnSandbox.Vyos.Histories
import GnnSandbox.Vyos.Deletion
import GnnSandbox.Vyos.LiveVpns
import GnnSandbox.Agent.Schedule
import GnnSandbox.Graph.EdgeViews
import GnnSandbox.Bench.NodeRemoval
import GnnSandbox.Lib.EraseEach
import GnnSandbox.Bench.Dependents
import GnnSandbox.Bench.Gateways
import GnnSandbox.Operator.TargetedChange
import GnnSandbox.Bench.Honoured
import GnnSandbox.Bench.Renderable
import GnnSandbox.Bench.RenderTotal
import GnnSandbox.Graph.VethPairs
import GnnSandbox.Graph.LateRouters
import GnnSandbox.Graph.SpeedOrder
import GnnSandbox.Graph.OrderMatters
import GnnSandbox.Agent.Linear
import GnnSandbox.Agent.Repeat
import GnnSandbox.Agent.Poisson
import GnnSandbox.Supervisor.GitDeploy
import GnnSandbox.Supervisor.Cluster
import GnnSandbox.Supervisor.Teardown
import GnnSandbox.Supervisor.VpnDeletion
import GnnSandbox.Supervisor.CleanSlate
import GnnSandbox.Vyos.UnderlayUndone
import GnnSandbox.Operator.DeletionQueue
import GnnSandbox.Supervisor.Spans
import GnnSandbox.Operator.Playbooks
import GnnSandbox.Operator.ExactInverse
import GnnSandbox.Gnn.Timestamps
import GnnSandbox.Metrics.FlowIds
import GnnSandbox.Lib.Tiling
import GnnSandbox.Metrics.PollWindows
import GnnSandbox.Gnn.Training
import GnnSandbox.Gnn.Temporal
import GnnSandbox.Supervisor.TraceClients
import GnnSandbox.Supervisor.Topology
import GnnSandbox.Supervisor.LinksShown
import GnnSandbox.Supervisor.GraphShown
import GnnSandbox.Gnn.Snapshot
import GnnSandbox.Gnn.MetricKeys
import GnnSandbox.Lib.GroupMean
import GnnSandbox.Gnn.Processing
import GnnSandbox.Gnn.LearnedGraph
import GnnSandbox.Lib.Numeral
import GnnSandbox.Operator.Traffic.Bandwidth
import GnnSandbox.Gnn.LinkSpeed
import GnnSandbox.Operator.Throttling
import GnnSandbox.Operator.Throttled
import GnnSandbox.Gnn.TimeTravel
import GnnSandbox.Bench.FromSpanner
import GnnSandbox.Vyos.Updates
import GnnSandbox.Vyos.Retries
import GnnSandbox.Lib.Exchange
import GnnSandbox.Bench.Replay
import GnnSandbox.Agent.Datagrams
import GnnSandbox.Vyos.Reconcile
import GnnSandbox.Vyos.Reconciled

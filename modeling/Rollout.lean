import Rollout.Api.Client
import Rollout.Api.Path
import Rollout.Api.Request
import Rollout.Assoc
import Rollout.Baseline
import Rollout.Canary.Basic
import Rollout.Canary.Codec
import Rollout.Canary.Definition
import Rollout.Cluster
import Rollout.Controller.Basic
import Rollout.Controller.Inspection
import Rollout.Controller.Progress
import Rollout.Dict
import Rollout.Failure
import Rollout.Fingerprint
import Rollout.Instant
import Rollout.Instant.Lenient
import Rollout.Json.Basic
import Rollout.Json.Decode
import Rollout.Json.MergePatch
import Rollout.Json.Parser
import Rollout.Json.Printer
import Rollout.Json.Transfer
import Rollout.Main
import Rollout.Manifest
import Rollout.Metadata
import Rollout.Number.Double
import Rollout.Number.Shortest
import Rollout.Program
import Rollout.Readiness
import Rollout.Routing.Coordinator
import Rollout.Routing.HttpRoute
import Rollout.Routing.Split
import Rollout.Session.Basic
import Rollout.Session.Step
import Rollout.Settings
import Rollout.Status.Delta
import Rollout.Status.Patch
import Rollout.Status.Update
import Rollout.Text.Blank
import Rollout.Text.Lowercase
import Rollout.Text.Quoted
import Rollout.Text.Visible
import Rollout.Workload.Change
import Rollout.Workload.PodTemplate
import Rollout.Workload.Ref
import Rollout.Workload.Scale
import Rollout.Workload.SpecHash
import Rollout.Workload.View
import Rollout.World.Basic
import Rollout.World.Direct
import Rollout.World.Server
import Rollout.World.Store
import Rollout.Proofs.Json.Codec
import Rollout.Proofs.Program
import Rollout.Proofs.Readiness
import Rollout.Proofs.Status.Patch
import Rollout.Proofs.Status.Update
import Rollout.Proofs.Status.Store
import Rollout.Proofs.Baseline.History
import Rollout.Proofs.Baseline.Walk
import Rollout.Proofs.Status.Sharing
import Rollout.Proofs.Session
import Rollout.Proofs.Status.Sync
import Rollout.Proofs.Controller.Scaling
import Rollout.Proofs.Routing.Served
import Rollout.Proofs.Routing.Order
import Rollout.Proofs.Routing.Retirement
import Rollout.Proofs.Controller.Operations
import Rollout.Proofs.Controller.Draining
import Rollout.Proofs.Routing.Repair
import Rollout.Proofs.Json.Exact
import Rollout.Proofs.Json.Update
import Rollout.Proofs.Workload.Frame
import Rollout.Proofs.Status.Desired
import Rollout.Proofs.Workload.Parking
import Rollout.Proofs.World.Direct
import Rollout.Proofs.Controller.TargetHash
import Rollout.Proofs.Controller.OwnScaling
import Rollout.Proofs.Controller.Rescaling
import Rollout.Proofs.Routing.Written
import Rollout.Proofs.Routing.RouteStore
import Rollout.Proofs.Routing.Contention
import Rollout.Proofs.Routing.Seeding
import Rollout.Proofs.Api.Outage
import Rollout.Proofs.Controller.Outage
import Rollout.Proofs.Routing.Outage
import Rollout.Proofs.Controller.FailFast
import Rollout.Proofs.Controller.ColdStart
import Rollout.Proofs.Canary.Codec
import Rollout.Proofs.Controller.Progression
import Rollout.Proofs.Controller.Errands
import Rollout.Proofs.Controller.BaselineKept
import Rollout.Proofs.Reliance
import Rollout.Proofs.Json.Frame
import Rollout.Proofs.World.Frame
import Rollout.Proofs.Api.Path
import Rollout.Proofs.Api.Frame
import Rollout.Proofs.Controller.Frame
import Rollout.Proofs.Readiness.Waiting
import Rollout.Proofs.Readiness.Conditions
import Rollout.Proofs.Status.Attempts
import Rollout.Proofs.Number.Rounding
import Rollout.Proofs.Number.Literal
import Rollout.Proofs.Number.Shortest
import Rollout.Proofs.Json.Number
import Rollout.Proofs.Routing.Reading
import Rollout.Proofs.Routing.Reconcile
import Rollout.Proofs.Routing.Proportion
import Rollout.Proofs.Status.Deltas
import Rollout.Proofs.Controller.Promotion
import Rollout.Proofs.Fingerprint
import Rollout.Proofs.Routing.Monotone
import Rollout.Proofs.Controller.Detection
import Rollout.Proofs.Readiness.Terminating
import Rollout.Proofs.Workload.Ports
import Rollout.Proofs.Text.Segments
import Rollout.Proofs.Settings
import Rollout.Proofs.Baseline.Order

/-
Everything that controllers and the route coordinator ask of the outside: workloads and their
history, stored canaries, the tracker of configuration, the clock, and the router that splits the
traffic.
-/
import Rollout.Failure
import Rollout.Program
import Rollout.Workload.Change

namespace Rollout

/-- A tracked piece of configuration and the checksum of its data. -/
structure ConfigRef where
  name : String
  checksum : String
deriving DecidableEq, Repr, Inhabited

/-- Checksums by name; of two entries for one name the later counts. -/
def trackedConfigs (refs : List ConfigRef) : Dict String :=
  .ofList (refs.map fun r => (r.name, r.checksum))

/-- How traffic is split between baseline and canary. -/
structure RouteWeights where
  primary : Int32
  canary : Int32
  mirrored : Bool
deriving DecidableEq, Repr, Inhabited

/-- All traffic on the baseline. -/
def RouteWeights.primaryOnly : RouteWeights := ⟨100, 0, false⟩

namespace Cluster

/-- A request to the outside. -/
inductive Request where
  /-- Reads the live object of a workload. -/
  | workload (ref : WorkloadRef)
  /-- Lists the revisions of a component. -/
  | revisions (ns component : String)
  /-- Reads a workload, changes it and writes the difference back. -/
  | change (ref : WorkloadRef) (change : WorkloadChange)
  /-- Sets the replica count of a workload through its scale. -/
  | scale (ref : WorkloadRef) (replicas : Int32)
  /-- Reads a stored canary. -/
  | canary (ns name : String)
  /-- Writes a status onto a canary, unless the stored one is not at the version it was read at. -/
  | writeStatus (canary : Canary) (status : CanaryStatus)
  /-- Lists the configuration that the target refers to. -/
  | configRefs (canary : Canary)
  /-- Asks whether that configuration has changed. -/
  | configChanged (canary : Canary)
  /-- Brings the route to a usable state. -/
  | reconcileRoutes (canary : Canary)
  /-- Splits the traffic. -/
  | setRoutes (canary : Canary) (weights : RouteWeights)
  /-- Reads the split back. -/
  | getRoutes (canary : Canary)
  /-- Leaves the route to its owner. -/
  | finalizeRoutes (canary : Canary)
  /-- Reads the clock. -/
  | now
  /-- Waits for some milliseconds. -/
  | pause (milliseconds : Nat)
deriving Repr, Inhabited

/-- What a request is answered with. -/
abbrev Reply : Request → Type
  | .workload _ => Except AccessError Manifest
  | .revisions _ _ => Except AccessError (List Revision)
  | .change _ _ => Except AccessError Unit
  | .scale _ _ => Except AccessError Unit
  | .canary _ _ => Except StoreError Canary
  | .writeStatus _ _ => Except StoreError Canary
  | .configRefs _ => Except TrackerError (List ConfigRef)
  | .configChanged _ => Except TrackerError Bool
  | .reconcileRoutes _ => Except RouterError Unit
  | .setRoutes _ _ => Except RouterError Unit
  | .getRoutes _ => Except RouterError RouteWeights
  | .finalizeRoutes _ => Except RouterError Unit
  | .now => Instant
  | .pause _ => Unit

/-- The interface of the outside. -/
abbrev interface : Interface := ⟨Request, Reply⟩

end Cluster

/-! ## Tasks -/

/-- Work on the cluster that may fail. -/
abbrev Task (α : Type) := ExceptT ControllerError (Program Cluster.interface) α

namespace Task

/-- The result of an attempt, its error named as a controller's. -/
def ofExcept {ε α : Type} (wrap : ε → ControllerError) : Except ε α → Task α
  | .ok a => pure a
  | .error e => throw (wrap e)

/-- Asks the cluster, without a failure being one of the task. -/
def ask (r : Cluster.Request) : Task (Cluster.Reply r) :=
  ExceptT.lift (Program.request (I := Cluster.interface) r)

/-- Reads the live object of a workload. -/
def workload (ref : WorkloadRef) : Task Manifest := do
  ofExcept .access (← ask (.workload ref))

/-- Reads a stored canary. -/
def canary (ns name : String) : Task Canary := do
  ofExcept .store (← ask (.canary ns name))

/-- Reads the clock. -/
def now : Task Instant := ask .now

end Task

end Rollout

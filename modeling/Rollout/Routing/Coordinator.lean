/-
The coordinator of traffic and replicas: it has a router split the traffic and a controller scale
the two workloads to match. It knows neither of them; what it asks is all it does. A promoted or
failed canary takes a single step, whatever split is asked for.
-/
import Rollout.Controller.Basic
import Rollout.Routing.Split

namespace Rollout

namespace Coordination

/-- What the coordinator asks for on behalf of one canary. -/
inductive Request where
  | reconcile
  | setRoutes (weights : RouteWeights)
  | getRoutes
  /-- Scales the workload in a role. -/
  | scale (role : Role) (replicas : Int32)
  /-- Names the workload in a role. -/
  | locate (role : Role)
deriving DecidableEq, Repr, Inhabited

/-- What a request is answered with. -/
abbrev Reply : Request → Type
  | .reconcile => Except RouterError Unit
  | .setRoutes _ => Except RouterError Unit
  | .getRoutes => Except RouterError RouteWeights
  | .scale _ _ => Except ControllerError Unit
  | .locate _ => Except ControllerError WorkloadRef

abbrev interface : Interface := ⟨Request, Reply⟩

end Coordination

/-- Coordinated work. -/
abbrev Coordinated (α : Type) := ExceptT RouterError (Program Coordination.interface) α

namespace Coordinated

def ask (r : Coordination.Request) : Coordinated (Coordination.Reply r) :=
  ExceptT.lift (Program.request (I := Coordination.interface) r)

def reconcile : Coordinated Unit :=
  ExceptT.mk (Program.request (I := Coordination.interface) .reconcile)

def routes (weights : RouteWeights) : Coordinated Unit :=
  ExceptT.mk (Program.request (I := Coordination.interface) (.setRoutes weights))

def getRoutes : Coordinated RouteWeights :=
  ExceptT.mk (Program.request (I := Coordination.interface) .getRoutes)

/-- The name of a workload that cannot be located. -/
def presumedName (c : Canary) : Role → String
  | .primary => c.primaryService
  | .canary => c.spec.targetRef.name

/-- Scales the workload in a role. A failure names the workload. -/
def scale (c : Canary) (role : Role) (replicas : Int32) : Coordinated Unit := do
  match ← ask (.scale role replicas) with
  | .ok () => return ()
  | .error source =>
    match ← ask (.locate role) with
    | .ok ref => throw (.scale role ref.name ref.ns replicas source)
    | .error _ =>
      throw (.scale role (presumedName c role) (c.targetNamespace?.getD "") replicas source)

/-- Splits the traffic and scales the workloads to match. A promoted canary gets all traffic and
full size; its baseline is retired elsewhere. A failed one gives traffic and size back to the
baseline. In between, the canary is scaled before the baseline. -/
def setRoutes (c : Canary) (weights : RouteWeights) : Coordinated Unit := do
  if c.isPromoted then
    routes ⟨0, 100, weights.mirrored⟩
    scale c .canary c.maxReplicas
  else if c.isFailed then
    routes ⟨100, 0, weights.mirrored⟩
    scale c .primary c.maxReplicas
    scale c .canary 0
  else
    routes weights
    let split := ReplicaSplit.ofWeight weights.canary c.maxReplicas c.spec.analysis.canaryReplicas
    scale c .canary split.canary
    scale c .primary split.primary

end Coordinated

/-! ## With a controller -/

/-- How a controller and the cluster's router answer the coordinator of a canary. -/
def Canary.coordination (c : Canary) : (r : Coordination.Request) →
    StateT Controller (Program Cluster.interface) (Coordination.Reply r)
  | .reconcile => StateT.lift (Program.request (I := Cluster.interface) (.reconcileRoutes c))
  | .setRoutes weights =>
    StateT.lift (Program.request (I := Cluster.interface) (.setRoutes c weights))
  | .getRoutes => StateT.lift (Program.request (I := Cluster.interface) (.getRoutes c))
  | .scale role replicas => (c.scale role replicas).run
  | .locate role => (c.workloadFor role).run

/-- Coordinated work on a canary, carried out by a controller and the cluster's router. -/
def Canary.coordinate {α : Type} (c : Canary) (work : Coordinated α) :
    ExceptT RouterError (StateT Controller (Program Cluster.interface)) α :=
  ExceptT.mk (work.run.run c.coordination)

end Rollout

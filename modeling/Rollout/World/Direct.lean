/-
The cluster played by the world itself, without an API in between: each request is carried out on
the stored objects at once.
-/
import Rollout.World.Basic

namespace Rollout.World

/-! ## Operations and their faults -/

/-- The word for a request's operation and the name that it concerns. -/
def operation : Cluster.Request → String × String
  | .workload ref => ("get", ref.name)
  | .revisions _ component => ("list", component)
  | .change ref _ => ("patch", ref.name)
  | .scale ref _ => ("scale", ref.name)
  | .canary _ name => ("store.get", name)
  | .writeStatus c _ => ("store.patch", c.name)
  | .configRefs _ => ("tracker.refs", "")
  | .configChanged _ => ("tracker.changed", "")
  | .reconcileRoutes c => ("route.reconcile", c.spec.targetRef.name)
  | .setRoutes c _ => ("route.set", c.spec.targetRef.name)
  | .getRoutes c => ("route.get", c.spec.targetRef.name)
  | .finalizeRoutes c => ("route.finalize", c.spec.targetRef.name)
  | .now => ("now", "")
  | .pause _ => ("pause", "")

/-- The failure that a fault means for access to a workload. -/
def accessFault (operation : String) (ref : WorkloadRef) : FaultEffect → AccessError
  | .status code => .api (.status code "")
  | .named "notFound" => .missing ref
  | .named "discovery" => .unknownKind ref.apiVersion ref.kind "injected"
  | _ => .malformed ("injected " ++ operation ++ " failure for " ++ ref.name)

/-- The failure that a fault means for the store of canaries. -/
def storeFault (operation ns name : String) : FaultEffect → StoreError
  | .status code => .api (.status code "")
  | .named "notFound" => .notFound ns name
  | .named "conflict" => .conflict "injected"
  | _ => .malformed ("injected " ++ operation ++ " failure")

/-- The failure that a fault means for the router. -/
def routeFault (operation : String) (c : Canary) (weights : RouteWeights) :
    FaultEffect → RouterError
  | .status code => .api (.status code "")
  | _ =>
    .route c.spec.targetRef.name (c.targetNamespace?.getD "") weights.primary weights.canary
      ("injected " ++ operation ++ " failure")

/-- Notes a request and carries it out, unless a fault strikes. -/
def unlessFault {ε α : Type} (r : Cluster.Request) (failure : String → FaultEffect → ε)
    (act : StateM World (Except ε α)) : StateM World (Except ε α) := do
  note (.ofCluster r)
  let (operation, name) := operation r
  match ← fault operation name with
  | some effect => return .error (failure operation effect)
  | none => act

/-! ## Workloads -/

/-- The stored object of a workload. -/
def object (ref : WorkloadRef) : StateM World (Except AccessError Manifest) := do
  match ← find? ref with
  | none => return .error (.missing ref)
  | some json =>
    match Manifest.ofJson? json with
    | some m => return .ok m
    | none => return .error (.malformed "undecodable object")

/-- The stored revisions of a component. -/
def revisions (ns component : String) : StateM World (Except AccessError (List Revision)) := do
  let found := (← get).store.collection Api.revisionResource.kind ns
  match (found.filter (Store.isLabelled Api.revisionLabel component)).mapM Revision.ofJson? with
  | some revisions => return .ok revisions
  | none => return .error (.malformed "undecodable revision")

/-- Changes the stored object of a workload. -/
def change (ref : WorkloadRef) (change : WorkloadChange) :
    StateM World (Except AccessError Unit) := do
  match ← object ref with
  | .error e => return .error e
  | .ok m =>
    put ref (change.apply m.toJson)
    return .ok ()

/-! ## Canaries -/

/-- The stored canary. -/
def canary (ns name : String) : StateM World (Except StoreError Canary) := do
  match ← find? (Api.canaryAt ns name).ref with
  | none => return .error (.notFound ns name)
  | some json =>
    match Canary.ofJson? json with
    | some c => return .ok c
    | none => return .error (.malformed "undecodable canary")

/-- Merges a patch into the status of a stored canary, if there is one. -/
def raceStatus (ns name : String) (status : Json) : StateM World Unit := do
  match ← find? (Api.canaryAt ns name).ref with
  | none => return ()
  | some json =>
    put (Api.canaryAt ns name).ref
      (json.set "status" (Json.merge status ((json.get? "status").getD .null)))

/-- Replaces the status of a stored canary that is still at the version of `c`. -/
def writeStatus (c : Canary) (status : CanaryStatus) : StateM World (Except StoreError Canary) := do
  match ← canary c.ns c.name with
  | .error e => return .error e
  | .ok stored =>
    if stored.resourceVersion ≠ c.resourceVersion then
      return .error (.conflict "the stored canary has moved on")
    else
      put (Api.canaryAt c.ns c.name).ref { stored with status := some status }.toJson
      canary c.ns c.name

/-- Notes a request to the store of canaries and carries it out, unless a fault makes it fail. -/
def onStore (r : Cluster.Request) (ns name : String)
    (act : StateM World (Except StoreError Canary)) : StateM World (Except StoreError Canary) := do
  note (.ofCluster r)
  let (operation, concerned) := operation r
  match ← fault operation concerned with
  | some (.race status) => raceStatus ns name status; act
  | some effect => return .error (storeFault operation ns name effect)
  | none => act

/-! ## All requests -/

/-- Carries out a request of a controller. -/
def answer (r : Cluster.Request) : StateM World (Cluster.Reply r) :=
  match r with
  | .workload ref => unlessFault (.workload ref) (accessFault · ref) (object ref)
  | .revisions ns component =>
    let ref := ⟨Api.revisionResource.apiVersion, Api.revisionResource.kind, component, ns⟩
    unlessFault (.revisions ns component) (accessFault · ref) (revisions ns component)
  | .change ref c => unlessFault (.change ref c) (accessFault · ref) (change ref c)
  | .scale ref replicas =>
    unlessFault (.scale ref replicas) (accessFault · ref)
      (do return (← object ref).map fun _ => ())
  | .canary ns name => onStore (.canary ns name) ns name (canary ns name)
  | .writeStatus c status => onStore (.writeStatus c status) c.ns c.name (writeStatus c status)
  | .configRefs c => configRefs (note (.ofCluster (.configRefs c)))
  | .configChanged c => configChanged (note (.ofCluster (.configChanged c)))
  | .reconcileRoutes c =>
    unlessFault (.reconcileRoutes c) (routeFault · c ⟨0, 0, false⟩) (return .ok ())
  | .setRoutes c weights =>
    unlessFault (.setRoutes c weights) (routeFault · c weights) (fun w =>
      (.ok (), { w with weights }))
  | .getRoutes c =>
    unlessFault (.getRoutes c) (routeFault · c ⟨0, 0, false⟩) (return .ok (← get).weights)
  | .finalizeRoutes c =>
    unlessFault (.finalizeRoutes c) (routeFault · c ⟨0, 0, false⟩) (return .ok ())
  | .now => return (← get).now
  | .pause _ => return ()

end Rollout.World

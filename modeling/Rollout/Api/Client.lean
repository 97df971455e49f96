/-
The cluster behind its API: what controllers ask, carried out as requests to the server. Nothing
is cached; the kind of a workload is looked up before every access, and what is there already is
not written again. Objects and patches go over as text.
-/
import Rollout.Api.Request
import Rollout.Baseline
import Rollout.Json.Transfer
import Rollout.Routing.HttpRoute
import Rollout.Status.Patch
import Rollout.Workload.Scale

namespace Rollout.Api

/-! ## Requests -/

/-- An answer in the form that `decode` expects; it has come as text. -/
def readable {α : Type} (decode : Json → Option α) (answer : Json) : Except ApiFailure α :=
  match answer.resent?.bind decode with
  | some a => .ok a
  | none => .error .unreadable

/-- Lists the kinds of an API version. -/
def kinds (apiVersion : String) : Program interface (Except ApiFailure Catalogue) :=
  match kindsTarget? apiVersion with
  | some sent => Program.request (I := interface) (.kinds sent.path)
  | none => .done (.error .unreadable)

/-- Reads an object in the form that `decode` expects. -/
def get {α : Type} (decode : Json → Option α) (a : Address) :
    Program interface (Except ApiFailure α) :=
  match objectTarget? a .whole with
  | some sent => do
    match ← Program.request (I := interface) (.get sent.path) with
    | .error failure => return .error failure
    | .ok json => return readable decode json
  | none => .done (.error .unreadable)

/-- Merges a patch into a part of an object and reads the answer in the form that `decode`
expects. The patch goes as text. -/
def patch {α : Type} (decode : Json → Option α) (a : Address) (part : Part) (body : Json) :
    Program interface (Except ApiFailure α) :=
  match objectTarget? a part, body.resent? with
  | some sent, some body => do
    match ← Program.request (I := interface) (.patch sent.path body) with
    | .error failure => return .error failure
    | .ok json => return readable decode json
  | _, _ => .done (.error .unreadable)

/-! ## Workloads -/

/-- Work on workloads that may fail. -/
abbrev Access (α : Type) := ExceptT AccessError (Program interface) α

/-- The name under which the objects of a kind are listed; what is listed with a slash is a part of
such objects. -/
def Catalogue.plural? (known : Catalogue) (kind : String) : Option String :=
  (known.kinds.find? fun (k, plural) => k == kind && !plural.toList.contains '/').map (·.2)

/-- Where the workload is found, under the API version and the name that the server gives its kind.
Fails unless the cluster knows the kind. -/
def resolve (ref : WorkloadRef) : Access Address := do
  match ← ExceptT.lift (kinds ref.apiVersion) with
  | .ok known =>
    match known.plural? ref.kind with
    | some plural => return ⟨⟨⟨known.apiVersion, ref.kind⟩, plural⟩, ref.ns, ref.name⟩
    | none => throw (.unknownKind ref.apiVersion ref.kind "no such kind")
  | .error failure => throw (.unknownKind ref.apiVersion ref.kind failure.message)

/-- Reads the live object of a workload that has been found. -/
def live (a : Address) : Access Manifest := do
  match ← ExceptT.lift (get Manifest.ofJson? a) with
  | .ok object => return object
  | .error (.status 404 _) => throw (.missing a.ref)
  | .error failure => throw (.api failure)

/-- Reads the live object of a workload. -/
def workload (ref : WorkloadRef) : Access Manifest := do live (← resolve ref)

/-- The result of a request, its failure as one of access. -/
def accessResult {α : Type} : Except ApiFailure α → Access α
  | .ok a => return a
  | .error failure => throw (.api failure)

/-- Lists the revisions of a component. -/
def revisions (ns component : String) : Access (List Revision) := do
  match Sent.ofTarget? (collectionPath revisionResource ns) with
  | some sent =>
    let component := if sent.takesQuery then some component else none
    let items ← accessResult
      (← ExceptT.lift (Program.request (I := interface) (.revisions sent.path component)))
    accessResult (items.mapM (readable Revision.ofJson?))
  | none => throw (.api .unreadable)

/-- Reads a workload, changes it and sends the difference, if there is one. -/
def change (ref : WorkloadRef) (change : WorkloadChange) : Access Unit := do
  let a ← resolve ref
  let object ← live a
  let body := change.patch object.toJson
  if body.isNoChange then return ()
  let _ ← accessResult (← ExceptT.lift (patch Manifest.ofJson? a .whole body))

/-- Sets the replica count of a workload through its scale. -/
def scale (ref : WorkloadRef) (replicas : Int32) : Access Unit := do
  let a ← resolve ref
  let body := Json.object [("spec", .object [("replicas", .ofInt32 replicas)])]
  let _ ← accessResult (← ExceptT.lift (patch Scale.ofJson? a .scale body))

/-! ## Stored canaries -/

/-- Reads a stored canary. -/
def canary (ns name : String) : Program interface (Except StoreError Canary) := do
  match ← get Canary.ofJson? (canaryAt ns name) with
  | .ok c => return .ok c
  | .error (.status 404 _) => return .error (.notFound ns name)
  | .error failure => return .error (.api failure)

/-- Writes a status under the guard of the version at which the canary was read. -/
def writeStatus (c : Canary) (status : CanaryStatus) :
    Program interface (Except StoreError Canary) := do
  match ← patch Canary.ofJson? (canaryAt c.ns c.name) .status (c.statusPatch status) with
  | .ok c => return .ok c
  | .error (.status 409 reason) => return .error (.conflict reason)
  | .error failure => return .error (.api failure)

/-! ## Routes -/

/-- Work on routes that may fail. -/
abbrev Routing (α : Type) := ExceptT RouterError (Program interface) α

/-- Where the route is found that carries a canary's split. -/
def routeAddress (c : Canary) : Routing Address :=
  match c.targetNamespace? with
  | some ns => return ⟨routeResource, ns, c.routeName⟩
  | none => throw (.route c.routeName "" 0 0 "canary has no namespace")

/-- Reads the route, unless the server says that there is none. -/
def route (a : Address) : Routing (Option Manifest) := do
  match ← ExceptT.lift (get Manifest.ofJson? a) with
  | .ok object => return some object
  | .error (.status _ "NotFound") => return none
  | .error failure => throw (.api failure)

/-- Writes a split into the route. Routing is optional: without a route there is nothing to do. -/
def setRoutes (c : Canary) (weights : RouteWeights) : Routing Unit := do
  let a ← routeAddress c
  match ← route a with
  | none => return ()
  | some object =>
    match ← ExceptT.lift (patch Manifest.ofJson? a .whole (HttpRoute.patch c weights object)) with
    | .ok _ => return ()
    | .error (.status 404 _) => return ()
    | .error failure =>
      throw (.route a.name a.ns weights.primary weights.canary failure.message)

/-- Seeds the route with all traffic on the baseline, unless it routes to baseline or canary. -/
def reconcileRoutes (c : Canary) : Routing Unit := do
  match ← route (← routeAddress c) with
  | none => return ()
  | some object => if HttpRoute.isRouted c object.body then return () else setRoutes c .primaryOnly

/-- Reads the split back. -/
def getRoutes (c : Canary) : Routing RouteWeights := do
  match ← route (← routeAddress c) with
  | none => return .primaryOnly
  | some object => return HttpRoute.weights object.body c.primaryService c.canaryService

/-! ## The cluster -/

/-- Every request to the cluster as requests to the API. -/
def carry : (r : Cluster.Request) → Program interface (Cluster.Reply r)
  | .workload ref => (workload ref).run
  | .revisions ns component => (revisions ns component).run
  | .change ref c => (change ref c).run
  | .scale ref replicas => (scale ref replicas).run
  | .canary ns name => canary ns name
  | .writeStatus c status => writeStatus c status
  | .configRefs c => Program.request (I := interface) (.configRefs c)
  | .configChanged c => Program.request (I := interface) (.configChanged c)
  | .reconcileRoutes c => (reconcileRoutes c).run
  | .setRoutes c weights => (setRoutes c weights).run
  | .getRoutes c => (getRoutes c).run
  | .finalizeRoutes _ => .done (.ok ())
  | .now => Program.request (I := interface) .now
  | .pause milliseconds => Program.request (I := interface) (.pause milliseconds)

end Rollout.Api

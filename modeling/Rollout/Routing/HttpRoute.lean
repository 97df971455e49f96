/-
HTTP routes of the Gateway API: writing a traffic split into the first rule of a route, and
reading it back. Everything else that the route holds is kept.
-/
import Rollout.Canary.Basic
import Rollout.Cluster

namespace Rollout

/-- The type of the filter that shadows requests. -/
def mirrorType : String := "RequestMirror"

/-- The route that carries the split: the one the service names, else the target's name. -/
def Canary.routeName (c : Canary) : String := c.spec.service.httpRoute.getD c.spec.targetRef.name

namespace HttpRoute

/-! ## Writing -/

/-- A weighted backend. -/
structure BackendRef where
  name : String
  port : Int32
  weight : Int32
deriving DecidableEq, Repr, Inhabited

def BackendRef.toJson (b : BackendRef) : Json :=
  .object [
    ("group", .str ""),
    ("kind", .str "Service"),
    ("name", .str b.name),
    ("port", .ofInt32 b.port),
    ("weight", .ofInt32 b.weight)]

/-- The baseline's and the canary's service as backends, on the service port. -/
def backendRefs (c : Canary) (weights : RouteWeights) : List BackendRef :=
  [⟨c.primaryService, c.spec.service.port, weights.primary⟩,
   ⟨c.canaryService, c.spec.service.port, weights.canary⟩]

/-- Whether a filter shadows requests. -/
def isMirror (filter : Json) : Bool := (filter.get? "type").bind (·.text?) == some mirrorType

/-- The filter that shadows requests to the canary's service. -/
def mirrorFilter (c : Canary) : Json :=
  .object [
    ("type", .str mirrorType),
    ("requestMirror", .object [
      ("backendRef", .object [
        ("name", .str c.canaryService),
        ("port", .ofInt32 c.spec.service.port)])])]

/-- The filters of a rule; what is no list counts as none. -/
def filters (rule : Json) : List Json := ((rule.get? "filters").bind (·.items?)).getD []

/-- The rule with the split: the two backends, and a mirror filter exactly when one is asked for.
The filters are left out when there are none. -/
def splitRule (c : Canary) (weights : RouteWeights) (rule : Json) : Json :=
  let rule := rule.set "backendRefs" (.arr ((backendRefs c weights).map (·.toJson)))
  let kept := (filters rule).filter (!isMirror ·)
  match kept ++ (if weights.mirrored then [mirrorFilter c] else []) with
  | [] => rule.unset "filters"
  | filters => rule.set "filters" (.arr filters)

/-- The rules with the split in the first one, which is made if it is missing. -/
def splitRules (c : Canary) (weights : RouteWeights) : List Json → List Json
  | [] => [splitRule c weights (.obj [])]
  | first :: rest => splitRule c weights first :: rest

/-- The rules of a route; what is no list counts as none. -/
def rules (route : Json) : List Json := ((route.pointer? ["spec", "rules"]).bind (·.items?)).getD []

/-- The merge patch that writes a split into a route, guarded by the version that was read. -/
def patch (c : Canary) (weights : RouteWeights) (route : Manifest) : Json :=
  .object [
    ("metadata", .object [
      ("resourceVersion", Json.ofOption .str route.metadata.resourceVersion)]),
    ("spec", .object [("rules", .arr (splitRules c weights (rules route.body)))])]

/-! ## Reading -/

/-- The backends of the first rule. -/
def backends (route : Json) : List Json :=
  ((route.pointer? ["spec", "rules", "0", "backendRefs"]).bind (·.items?)).getD []

/-- Whether a backend has a name. -/
def isNamed (name : String) (backend : Json) : Bool :=
  (backend.get? "name").bind (·.text?) == some name

/-- The weight of the first backend of a name in a rule. A weight that is missing or no number
counts as 1; one that does not fit is cut to its low 32 bits. -/
def weightOf? (rule : Json) (name : String) : Option Int32 :=
  (((rule.get? "backendRefs").bind (·.items?)).bind (·.find? (isNamed name))).map fun backend =>
    (((backend.get? "weight").bind (·.int64?)).map (·.toInt32)).getD 1

/-- The split that a route carries. A route to neither backend counts as all on the baseline. -/
def weights (route : Json) (primary canary : String) : RouteWeights :=
  match route.pointer? ["spec", "rules", "0"] with
  | none => .primaryOnly
  | some rule =>
    match weightOf? rule primary, weightOf? rule canary with
    | none, none => .primaryOnly
    | p, c => ⟨p.getD 0, c.getD 0, (filters rule).any isMirror⟩

/-- Whether the first rule routes to the baseline's or the canary's service. -/
def isRouted (c : Canary) (route : Json) : Bool :=
  (backends route).any fun b => isNamed c.primaryService b || isNamed c.canaryService b

end HttpRoute

end Rollout

/-
The API server played by the world: it knows some kinds, finds the stored objects that paths name,
answers reads from them and merges patches into them, refusing one that was made for another
version of its object.
-/
import Rollout.Api.Client
import Rollout.Text.Lowercase
import Rollout.World.Basic

namespace Rollout.World

/-! ## Answers -/

/-- A kind that is listed in the regular way. -/
def regular (apiVersion kind : String) : Api.Resource :=
  ⟨⟨apiVersion, kind⟩,
    if kind = Canary.kind then Api.canaryResource.plural else Text.lower kind ++ "s"⟩

/-- The kinds that a server lists when nothing else is said. -/
def commonKinds : List Api.Resource := [
  regular "v1" "Service",
  regular "apps/v1" "Deployment",
  regular "apps/v1" "DaemonSet",
  regular "apps/v1" "StatefulSet",
  regular "apps.kruise.io/v1alpha1" "CloneSet",
  regular "core.oam.dev/v1alpha1" "PodSpecWorkload"]

/-- A failure as the server answers it: with a code, but without a word for the reason. -/
def refusal (code : Nat) : ApiFailure := .status code ""

/-- The answer where there is nothing. -/
def absent : ApiFailure := refusal 404

/-- The answer to a patch for another version. -/
def outdated : ApiFailure := refusal 409

/-- Notes a request and answers it, unless a fault strikes. -/
def unlessFailing {α : Type} (r : Api.Request) (act : StateM World (Except ApiFailure α)) :
    StateM World (Except ApiFailure α) := do
  note (.ofApi r)
  match r.line? with
  | none => act
  | some (method, path) =>
    match ← fault method path with
    | some (.status code) => return .error (refusal code)
    | some _ => return .error .unreadable
    | none => act

/-- The kinds of an API version; a version without any is not there. -/
def kindsOf (apiVersion : String) : StateM World (Except ApiFailure Api.Catalogue) := do
  match ((← get).kinds.filter (·.apiVersion == apiVersion)).map fun r => (r.kind, r.plural) with
  | [] => return .error absent
  | known => return .ok ⟨apiVersion, known⟩

/-! ## Places -/

/-- Kinds that are known without being listed. -/
def builtinKinds : List Api.Resource :=
  [Api.canaryResource, Api.revisionResource, Api.routeResource]

/-- The kind of an API version whose objects are listed under a name. -/
def kindListedAs? (apiVersion plural : String) : StateM World (Option String) := do
  let known := (← get).kinds ++ builtinKinds
  return (known.find? fun r => r.apiVersion == apiVersion && r.plural == plural).map (·.kind)

/-- The object that a path names, and the part of it. -/
def objectAt? (path : String) : StateM World (Option (WorkloadRef × Option String)) := do
  match Api.Place.ofPath? path with
  | some (.object apiVersion plural ns name part) =>
    return (← kindListedAs? apiVersion plural).map fun kind => (⟨apiVersion, kind, name, ns⟩, part)
  | _ => return none

/-- The stored object that a path names. -/
def read (path : String) : StateM World (Except ApiFailure Json) := do
  match ← objectAt? path with
  | none => return .error absent
  | some (ref, _) =>
    match ← find? ref with
    | none => return .error absent
    | some json => return .ok json

/-- The stored objects of the kind and namespace that a path names, those with the component's
label if one is given. -/
def list (path : String) (component : Option String) :
    StateM World (Except ApiFailure (List Json)) := do
  match Api.Place.ofPath? path with
  | some (.collection apiVersion plural ns) =>
    match ← kindListedAs? apiVersion plural with
    | none => return .error absent
    | some kind =>
      let found := (← get).store.collection kind ns
      match component with
      | none => return .ok found
      | some component => return .ok (found.filter (Store.isLabelled Api.revisionLabel component))
  | some (.object _ _ _ _ _) => return .error .unreadable
  | _ => return .error absent

/-! ## Patches -/

/-- Whether a patch was made for another version of the object. -/
def isOutdated (body object : Json) : Bool :=
  match Store.versionOf? body with
  | none => false
  | some .null => false
  | some version =>
    match Store.versionOf? object with
    | none => true
    | some stored => !stored.same version

/-- What counts of a patch for the part that its path names: all of it for the object, the status
for the status, and for any other part the replica count. -/
def relevant (part : Option String) (body : Json) : Json :=
  match part with
  | none => body
  | some "status" => .object [("status", (body.get? "status").getD .null)]
  | some _ => .object [("spec", .object
      [("replicas", (body.path? ["spec", "replicas"]).getD .null)])]

/-- How a stored object is answered to a patch: whole, or with its scale for a part that is not
the status. -/
def shown (ref : WorkloadRef) (part : Option String) (object : Json) : Json :=
  match part with
  | none => object
  | some "status" => object
  | some _ => .object [
    ("apiVersion", .str Scale.apiVersion),
    ("kind", .str Scale.kind),
    ("metadata", .object [("name", .str ref.name), ("namespace", .str ref.ns)]),
    ("spec", .object [("replicas", (object.path? ["spec", "replicas"]).getD .null)])]

/-- Merges a patch into the stored object that a path names. -/
def mergeInto (path : String) (body : Json) : StateM World (Except ApiFailure Json) := do
  match ← objectAt? path with
  | none => return .error absent
  | some (ref, part) =>
    match ← find? ref with
    | none => return .error absent
    | some object =>
      if isOutdated body object then return .error outdated
      else
        put ref ((relevant part body).merge object)
        return (← read path).map (shown ref part)

/-! ## All requests -/

/-- Answers a request to the API. -/
def serve (r : Api.Request) : StateM World (Api.Reply r) :=
  match r with
  | .kinds path =>
    unlessFailing (.kinds path)
      (match Api.Place.ofPath? path with
        | some (.kinds apiVersion) => kindsOf apiVersion
        | _ => return .error absent)
  | .get path => unlessFailing (.get path) (read path)
  | .revisions path component =>
    unlessFailing (.revisions path component) (list path component)
  | .patch path body => unlessFailing (.patch path body) (mergeInto path body)
  | .configRefs c => configRefs (note (.ofApi (.configRefs c)))
  | .configChanged c => configChanged (note (.ofApi (.configChanged c)))
  | .now => return (← get).now
  | .pause _ => return ()

/-- Carries out a request of a controller through the API. -/
def answerThroughApi (r : Cluster.Request) : StateM World (Cluster.Reply r) :=
  (Api.carry r).run serve

end Rollout.World

/-
Paths on the API server. A client writes the path of what it wants into a target; the target is
cut where a query or a fragment begins, and the server finds in the segments of the path what it
names. A name that holds a slash, a question mark or a number sign thus names something else.
Segments are taken as they are written. A server that decodes them finds another name where one
holds a percent sign, so nothing is to be concluded from paths with such a sign.
-/
import Rollout.Canary.Codec
import Rollout.Text.Blank
import Rollout.Workload.Ref

namespace Rollout.Api

/-! ## Resources -/

/-- A kind of objects as a server lists it, with the name that stands for it in paths. -/
structure Resource extends ObjectTypes where
  plural : String
deriving DecidableEq, Repr, Inhabited

/-- The canaries. -/
def canaryResource : Resource := ⟨⟨Canary.apiVersion, Canary.kind⟩, "canaries"⟩

/-- The revisions of workloads. -/
def revisionResource : Resource := ⟨⟨"apps/v1", "ControllerRevision"⟩, "controllerrevisions"⟩

/-- The routes. -/
def routeResource : Resource := ⟨⟨"gateway.networking.k8s.io/v1", "HTTPRoute"⟩, "httproutes"⟩

/-- The label that names the component of a revision. -/
def revisionLabel : String := "controller.oam.dev/component"

/-- Where an object is asked for: what it is one of, its namespace and its name. -/
structure Address where
  resource : Resource
  ns : String
  name : String
deriving DecidableEq, Repr, Inhabited

/-- The identity of the object. -/
def Address.ref (a : Address) : WorkloadRef :=
  ⟨a.resource.apiVersion, a.resource.kind, a.name, a.ns⟩

/-- Where a stored canary is found. -/
def canaryAt (ns name : String) : Address := ⟨canaryResource, ns, name⟩

/-! ## Writing targets -/

/-- The path of an API version; the core group stands apart. -/
def versionPath (apiVersion : String) : String :=
  let (group, version) := WorkloadRef.splitVersion apiVersion
  if group = "" then "/api/" ++ version else "/apis/" ++ apiVersion

/-- The path of the objects of a kind in a namespace. -/
def collectionPath (r : Resource) (ns : String) : String :=
  versionPath r.apiVersion ++ "/namespaces/" ++ ns ++ "/" ++ r.plural

/-- The path of an object. -/
def objectPath (a : Address) : String := collectionPath a.resource a.ns ++ "/" ++ a.name

/-- The part of an object that a client wants to patch. -/
inductive Part where
  | whole
  | status
  | scale
deriving DecidableEq, Repr, Inhabited

/-- The path of a part of an object. -/
def partPath (a : Address) : Part → String
  | .whole => objectPath a
  | .status => objectPath a ++ "/status"
  | .scale => objectPath a ++ "/scale"

/-! ## Cutting targets -/

/-- Whether a character can stand in a path. -/
def isPathChar (c : Char) : Bool :=
  0x20 < c.toNat && c != '<' && c != '>' && c != Char.ofNat 0x60 && c != Char.ofNat 0x7F

/-- Whether a character can stand in a query. -/
def isQueryChar (c : Char) : Bool :=
  0x20 < c.toNat && c != '"' && c != '<' && c != '>' && c != Char.ofNat 0x7F

/-- What of a target reaches the server. -/
structure Sent where
  path : String
  /-- Whether a query that is written behind the target reaches the server too. -/
  takesQuery : Bool
deriving DecidableEq, Repr, Inhabited

/-- Cuts a target: a question mark begins the query, and from a number sign on nothing is sent.
None if a character cannot stand where it does. -/
def Sent.ofTarget? (target : String) : Option Sent :=
  let (path, rest) := target.toList.span fun c => c != '?' && c != '#'
  let (query, fragment) := rest.span (· != '#')
  if path.all isPathChar && query.all isQueryChar then
    some ⟨String.ofList path, fragment.isEmpty⟩
  else none

/-- The path under which the kinds of an API version are asked for. -/
def kindsTarget? (apiVersion : String) : Option Sent := Sent.ofTarget? (versionPath apiVersion)

/-- The path under which a part of an object is asked for; an object needs a name. -/
def objectTarget? (a : Address) (part : Part) : Option Sent :=
  if a.name = "" then none else Sent.ofTarget? (partPath a part)

/-! ## What a path names -/

/-- What the server finds a path to name. -/
inductive Place where
  /-- The kinds of an API version. -/
  | kinds (apiVersion : String)
  /-- The objects of one kind in a namespace. -/
  | collection (apiVersion plural ns : String)
  /-- An object, or with a further segment a part of it. -/
  | object (apiVersion plural ns name : String) (part : Option String)
deriving DecidableEq, Repr, Inhabited

namespace Place

/-- What the segments behind an API version name. -/
def inVersion? (apiVersion : String) : List String → Option Place
  | [] => some (.kinds apiVersion)
  | ["namespaces", ns, plural] => some (.collection apiVersion plural ns)
  | "namespaces" :: ns :: plural :: name :: rest =>
    some (.object apiVersion plural ns name rest.head?)
  | _ => none

/-- What segments name. -/
def ofSegments? : List String → Option Place
  | "" :: "api" :: version :: rest => inVersion? version rest
  | "" :: "apis" :: group :: version :: rest => inVersion? (group ++ "/" ++ version) rest
  | _ => none

/-- What a path names, where none of its characters is written as a code. -/
def ofPath? (path : String) : Option Place :=
  ofSegments? ((Text.splitOn '/' path.toList).map String.ofList)

end Place

end Rollout.Api

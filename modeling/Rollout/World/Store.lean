/-
A store of objects, as the API server keeps them: JSON values under the identities of their
objects, each write giving the object a resource version never used before.
-/
import Rollout.Json.MergePatch
import Rollout.Workload.Ref

namespace Rollout

/-- The order of identities in a store: by API version, kind, namespace and name. -/
def WorkloadRef.before (a b : WorkloadRef) : Bool :=
  if a.apiVersion ≠ b.apiVersion then a.apiVersion < b.apiVersion
  else if a.kind ≠ b.kind then a.kind < b.kind
  else if a.ns ≠ b.ns then a.ns < b.ns
  else a.name < b.name

/-- A store. `objects` stands in the order of identities, and `version` is the last one given. -/
structure Store where
  objects : List (WorkloadRef × Json) := []
  version : Nat := 0
deriving Repr, Inhabited

namespace Store

/-- The object with an identity. -/
def get? (s : Store) (ref : WorkloadRef) : Option Json := s.objects.lookup ref

/-- Puts an entry at its place. -/
def place (ref : WorkloadRef) (object : Json) :
    List (WorkloadRef × Json) → List (WorkloadRef × Json)
  | [] => [(ref, object)]
  | (r, o) :: rest =>
    if ref = r then (ref, object) :: rest
    else if ref.before r then (ref, object) :: (r, o) :: rest
    else (r, o) :: place ref object rest

/-- An object at a version. Metadata are created if they are missing, and left alone if they are
no object; a value that is no object is stored as it is. -/
def stamped (version : Nat) : Json → Json
  | .obj members =>
    match (members.lookup "metadata").getD (.obj []) with
    | .obj metadata =>
      let metadata := Assoc.insert "resourceVersion" (.str (toString version)) metadata
      .obj (Assoc.insert "metadata" (.obj metadata) members)
    | _ => .obj members
  | j => j

/-- The store with an object under an identity, at a new version. -/
def put (s : Store) (ref : WorkloadRef) (object : Json) : Store :=
  let version := s.version + 1
  ⟨place ref (stamped version object) s.objects, version⟩

/-- The store without an object. -/
def delete (s : Store) (ref : WorkloadRef) : Store :=
  { s with objects := s.objects.filter (·.1 ≠ ref) }

/-- The identity that an object gives itself; what it leaves open is empty. -/
def identity (object : Json) : WorkloadRef where
  apiVersion := ((object.get? "apiVersion").bind (·.text?)).getD ""
  kind := ((object.get? "kind").bind (·.text?)).getD ""
  name := ((object.path? ["metadata", "name"]).bind (·.text?)).getD ""
  ns := ((object.path? ["metadata", "namespace"]).bind (·.text?)).getD ""

/-- The version at which an object is stored. -/
def versionOf? (object : Json) : Option Json := object.path? ["metadata", "resourceVersion"]

/-- The objects of a kind in a namespace, in the order of identities. -/
def collection (s : Store) (kind ns : String) : List Json :=
  (s.objects.filter fun (ref, _) => ref.kind = kind && ref.ns = ns).map (·.2)

/-- Whether an object carries a label with a value. -/
def isLabelled (label value : String) (object : Json) : Bool :=
  (object.path? ["metadata", "labels", label]).bind (·.text?) == some value

end Store

end Rollout

/-
The requests that reach the API server, each to the path that is left of its target: for the kinds
of an API version, for an object, for a list of revisions, or with a merge patch. Next to them
stand the questions that the server is not asked.
-/
import Rollout.Api.Path
import Rollout.Cluster

namespace Rollout.Api

/-- A request. -/
inductive Request where
  /-- Lists the kinds of an API version. -/
  | kinds (path : String)
  /-- Reads an object. -/
  | get (path : String)
  /-- Lists revisions, those of one component if its label was sent along. -/
  | revisions (path : String) (component : Option String)
  /-- Merges a patch into an object. -/
  | patch (path : String) (body : Json)
  | configRefs (canary : Canary)
  | configChanged (canary : Canary)
  | now
  | pause (milliseconds : Nat)
deriving Repr, Inhabited

/-- The kinds of an API version, which the server names itself, each with the name that stands for
it in paths. -/
structure Catalogue where
  apiVersion : String
  kinds : List (String × String)
deriving DecidableEq, Repr, Inhabited

/-- What a request is answered with. -/
abbrev Reply : Request → Type
  | .kinds _ => Except ApiFailure Catalogue
  | .get _ => Except ApiFailure Json
  | .revisions _ _ => Except ApiFailure (List Json)
  | .patch _ _ => Except ApiFailure Json
  | .configRefs _ => Except TrackerError (List ConfigRef)
  | .configChanged _ => Except TrackerError Bool
  | .now => Instant
  | .pause _ => Unit

/-- The interface of the API. -/
abbrev interface : Interface := ⟨Request, Reply⟩

/-- The method and the path of a request to the server; none for the other questions. -/
def Request.line? : Request → Option (String × String)
  | .kinds path => some ("GET", path)
  | .get path => some ("GET", path)
  | .revisions path _ => some ("GET", path)
  | .patch path _ => some ("PATCH", path)
  | _ => none

end Rollout.Api

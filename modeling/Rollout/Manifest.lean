/-
Objects of any kind as the cluster stores them: their types, their metadata, and everything else
as free JSON. Revisions are the one kind of object that is read in full.
-/
import Rollout.Metadata

namespace Rollout

/-- The version of the API that an object belongs to, and its kind. -/
structure ObjectTypes where
  apiVersion : String
  kind : String
deriving DecidableEq, Repr, Inhabited

/-- An object of any kind; `body` holds the members other than types and metadata. -/
structure Manifest where
  types : Option ObjectTypes
  metadata : Metadata
  body : Json
deriving Repr, Inhabited

namespace Manifest

open Json

/-- The members apart from metadata and types. A lone `apiVersion` is dropped, and so is a `kind`
next to no `apiVersion` or next to one that is a text. -/
def bodyMembers (members : List (String × Json)) : List (String × Json) :=
  let typesGoTogether := match members.lookup "apiVersion" with
    | none => true
    | some version => version.text?.isSome
  members.filter fun e =>
    e.1 ≠ "metadata" && e.1 ≠ "apiVersion" && !(e.1 == "kind" && typesGoTogether)

/-- Reads an object. It has types only if it names both as texts; its metadata may be missing. -/
def ofJson? : Json → Option Manifest
  | .obj members => do
    return {
      types := do
        let apiVersion ← (members.lookup "apiVersion").bind text?
        let kind ← (members.lookup "kind").bind text?
        return ⟨apiVersion, kind⟩
      metadata := ← defaulted Metadata.ofJson? {} "metadata" members
      body := .obj (bodyMembers members) }
  | _ => none

/-- Writes an object. -/
def toJson (m : Manifest) : Json :=
  let withMetadata := Assoc.insert "metadata" m.metadata.toJson m.body.membersOrNone
  match m.types with
  | none => .obj withMetadata
  | some types =>
    .obj (Assoc.insert "apiVersion" (.str types.apiVersion)
      (Assoc.insert "kind" (.str types.kind) withMetadata))

/-- The object's kind, empty if it has no types. -/
def kind (m : Manifest) : String := (m.types.map (·.kind)).getD ""

/-- The object's name, empty if it has none. -/
def name (m : Manifest) : String := m.metadata.name.getD ""

/-- The object's namespace, empty if it has none. -/
def ns (m : Manifest) : String := m.metadata.ns.getD ""

end Manifest

/-- A revision in the history of a component. -/
structure Revision where
  metadata : Metadata
  number : Int64
  data : Option Json
deriving Repr, Inhabited

namespace Revision

open Json

/-- Reads a revision; types other than those of revisions are refused. -/
def ofJson? : Json → Option Revision
  | .obj members => do
    fixedText "apps/v1" "apiVersion" members
    fixedText "ControllerRevision" "kind" members
    return {
      metadata := ← nullable Metadata.ofJson? {} "metadata" members
      number := ← nullable int64? 0 "revision" members
      data := ← optional some "data" members }
  | _ => none

end Revision

end Rollout

/-
The metadata of a stored object: who it is, at which version it was read, and its labels and
annotations.
-/
import Rollout.Json.Decode

namespace Rollout

/-- Metadata of an object; `ns` is its namespace. -/
structure Metadata where
  name : Option String := none
  generateName : Option String := none
  ns : Option String := none
  uid : Option String := none
  resourceVersion : Option String := none
  generation : Option Int64 := none
  labels : Option (Dict String) := none
  annotations : Option (Dict String) := none
deriving DecidableEq, Repr, Inhabited

namespace Metadata

open Json

/-- Reads metadata; members it does not know are dropped. -/
def ofJson? : Json → Option Metadata
  | .obj members => do
    return {
      name := ← optional text? "name" members
      generateName := ← optional text? "generateName" members
      ns := ← optional text? "namespace" members
      uid := ← optional text? "uid" members
      resourceVersion := ← optional text? "resourceVersion" members
      generation := ← optional int64? "generation" members
      labels := ← optional texts? "labels" members
      annotations := ← optional texts? "annotations" members }
  | _ => none

/-- Writes metadata; what is absent is left out. -/
def toJson (m : Metadata) : Json :=
  objectOf [
    ("name", m.name.map .str),
    ("generateName", m.generateName.map .str),
    ("namespace", m.ns.map .str),
    ("uid", m.uid.map .str),
    ("resourceVersion", m.resourceVersion.map .str),
    ("generation", m.generation.map ofInt64),
    ("labels", m.labels.map ofTexts),
    ("annotations", m.annotations.map ofTexts)]

/-- The name to show: the name, else the prefix that a name is generated from, else nothing. -/
def displayName (m : Metadata) : String := (m.name.orElse fun _ => m.generateName).getD ""

/-- The value of a label. -/
def label? (m : Metadata) (key : String) : Option String := m.labels.bind (·.get? key)

end Metadata

end Rollout

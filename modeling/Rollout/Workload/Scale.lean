/-
The scale of a workload: the part of it through which its replica count is read and set alone.
-/
import Rollout.Metadata

namespace Rollout

/-- A scale: how many replicas are wanted, and how many there are, if that is said. -/
structure Scale where
  metadata : Metadata := {}
  wanted : Option Int32 := none
  present : Option Int32 := none
deriving DecidableEq, Repr, Inhabited

namespace Scale

open Json

/-- The API version of scales. -/
def apiVersion : String := "autoscaling/v1"

/-- The kind of scales. -/
def kind : String := "Scale"

/-- Reads a member that is an object. -/
def within {α : Type} (decode : List (String × Json) → Option α) : Json → Option α
  | .obj members => decode members
  | _ => none

/-- Reads how many replicas there are; the selector of their pods is passed over. -/
def presentOf? (members : List (String × Json)) : Option Int32 := do
  let count ← nullable int32? 0 "replicas" members
  let _ ← optional text? "selector" members
  return count

/-- Reads a scale; other types are refused. -/
def ofJson? : Json → Option Scale
  | .obj members => do
    fixedText apiVersion "apiVersion" members
    fixedText kind "kind" members
    return {
      metadata := ← nullable Metadata.ofJson? {} "metadata" members
      wanted := ← nullable (within (optional int32? "replicas")) none "spec" members
      present := ← optional (within presentOf?) "status" members }
  | _ => none

end Scale

end Rollout

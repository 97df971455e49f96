/-
What the controllers read off a workload: generations, replica counters, conditions, and what it
lists about itself. Every kind that follows the convention of replica counters can be read.
-/
import Rollout.Instant.Lenient
import Rollout.Manifest
import Rollout.Workload.PodTemplate

namespace Rollout

/-! ## Conditions -/

/-- A condition that a workload publishes. -/
structure Condition where
  type : String
  status : String
  reason : Option String
  message : Option String
  lastTransitionTime : Option Instant
  lastUpdateTime : Option Instant
deriving DecidableEq, Repr, Inhabited

namespace Condition

open Json

def instant? (j : Json) : Option Instant := j.text?.bind Instant.Lenient.parse?

def ofJson? (j : Json) : Option Condition := do
  let members ← record? ["type", "status", "reason", "message", "lastTransitionTime",
    "lastUpdateTime"] 2 j
  return {
    type := ← required text? "type" members
    status := ← required text? "status" members
    reason := ← optional text? "reason" members
    message := ← optional text? "message" members
    lastTransitionTime := ← optional instant? "lastTransitionTime" members
    lastUpdateTime := ← optional instant? "lastUpdateTime" members }

/-- When the condition last changed; older objects carry the time of the last update only. -/
def changedAt (c : Condition) : Option Instant :=
  c.lastTransitionTime.orElse fun _ => c.lastUpdateTime

end Condition

namespace Manifest

/-! ## Generations and kinds -/

def generation (m : Manifest) : Int64 := m.metadata.generation.getD 0

/-- A number of 64 bits at a path of keys. -/
def number? (m : Manifest) (path : List String) : Option Int64 :=
  (m.body.path? path).bind (·.int64?)

def observedGeneration (m : Manifest) : Option Int64 := m.number? ["status", "observedGeneration"]

/-- Kinds whose counters are left out when they are zero. -/
def hasTypedStatus (m : Manifest) : Bool :=
  m.kind = "Deployment" || m.kind = "DaemonSet" || m.kind = "StatefulSet"

/-- Kinds that publish the conditions `Progressing` and `Available`. -/
def hasRichConditions (m : Manifest) : Bool := m.kind = "Deployment"

/-! ## Replica counters -/

/-- Where a kind keeps its replica counters. -/
structure Counters where
  desired : List String
  total : List String
  updated : List String
  available : List String

/-- The counters of most kinds. -/
def Counters.standard : Counters :=
  ⟨["spec", "replicas"], ["status", "replicas"], ["status", "updatedReplicas"],
    ["status", "availableReplicas"]⟩

/-- The counters of a kind with one pod on every node. -/
def Counters.perNode : Counters :=
  ⟨["status", "desiredNumberScheduled"], ["status", "currentNumberScheduled"],
    ["status", "updatedNumberScheduled"], ["status", "numberAvailable"]⟩

def counters (m : Manifest) : Counters :=
  if m.kind = "DaemonSet" then .perNode else .standard

def desiredReplicas (m : Manifest) : Option Int64 := m.number? m.counters.desired

def totalReplicas (m : Manifest) : Option Int64 := m.number? m.counters.total

def updatedReplicas (m : Manifest) : Option Int64 := m.number? m.counters.updated

def availableReplicas (m : Manifest) : Option Int64 := m.number? m.counters.available

/-! ## Conditions and listed resources -/

/-- The conditions, or none at all if one of them is of the wrong form. -/
def conditions (m : Manifest) : List Condition :=
  ((m.body.path? ["status", "conditions"]).bind (Json.list? Condition.ofJson?)).getD []

/-- The first condition of a type. -/
def condition? (m : Manifest) (type : String) : Option Condition :=
  m.conditions.find? (·.type == type)

/-- The name of the last resource of a kind that the status lists. -/
def statusResource? (m : Manifest) (kind : String) : Option String :=
  let listed := ((m.body.path? ["status", "resources"]).bind (·.items?)).getD []
  ((listed.filter fun r => (r.get? "kind").bind (·.text?) == some kind).filterMap fun r =>
    (r.get? "name").bind (·.text?)).getLast?

/-! ## Labels and spec -/

def labels (m : Manifest) : Dict String := m.metadata.labels.getD .empty

def spec? (m : Manifest) : Option Json := m.body.get? "spec"

/-- The pod template, if there is one that can be read. -/
def podTemplate? (m : Manifest) : Option PodTemplate :=
  (m.body.path? ["spec", "template"]).bind PodTemplate.ofJson?

end Manifest

end Rollout

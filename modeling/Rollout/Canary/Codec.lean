/-
Canaries in JSON. Absent fields are left out when a canary is written; fields that have a default
are always written, and may be missing but not null when it is read.
-/
import Rollout.Canary.Basic
import Rollout.Json.Decode

namespace Rollout

open Json

/-! ## Phases -/

/-- The name of a phase. -/
def Phase.text : Phase → String
  | .initializing => "Initializing"
  | .initialized => "Initialized"
  | .waiting => "Waiting"
  | .progressing => "Progressing"
  | .promoting => "Promoting"
  | .finalising => "Finalising"
  | .succeeded => "Succeeded"
  | .failed => "Failed"
  | .terminating => "Terminating"
  | .terminated => "Terminated"

/-- All the phases, in the order of a rollout. -/
def Phase.all : List Phase :=
  [.initializing, .initialized, .waiting, .progressing, .promoting, .finalising, .succeeded,
   .failed, .terminating, .terminated]

/-- The phase of a name. -/
def Phase.ofText? (name : String) : Option Phase := Phase.all.find? (·.text == name)

/-- Reads a phase: its name, or an object with that name as its only key and null under it. -/
def Phase.ofJson? : Json → Option Phase
  | .str name => Phase.ofText? name
  | .obj [(name, .null)] => Phase.ofText? name
  | _ => none

def Phase.toJson (p : Phase) : Json := .str p.text

/-! ## References -/

def ObjectReference.ofJson? (j : Json) : Option ObjectReference := do
  let members ← record? ["apiVersion", "kind", "name", "namespace"] 4 j
  return {
    apiVersion := ← required text? "apiVersion" members
    kind := ← required text? "kind" members
    name := ← required text? "name" members
    ns := ← optional text? "namespace" members }

def ObjectReference.toJson (r : ObjectReference) : Json :=
  objectOf [
    ("apiVersion", some (.str r.apiVersion)),
    ("kind", some (.str r.kind)),
    ("name", some (.str r.name)),
    ("namespace", r.ns.map .str)]

/-! ## The parts of the spec -/

def ServiceSpec.ofJson? (j : Json) : Option ServiceSpec := do
  let members ← record? ["port", "portDiscovery", "portName", "httpRoute"] 4 j
  return {
    port := ← defaulted int32? 0 "port" members
    portDiscovery := ← defaulted bool? false "portDiscovery" members
    portName := ← optional text? "portName" members
    httpRoute := ← optional text? "httpRoute" members }

def ServiceSpec.toJson (s : ServiceSpec) : Json :=
  objectOf [
    ("port", some (ofInt32 s.port)),
    ("portDiscovery", some (.bool s.portDiscovery)),
    ("portName", s.portName.map .str),
    ("httpRoute", s.httpRoute.map .str)]

def Analysis.ofJson? (j : Json) : Option Analysis := do
  let members ← record? ["interval", "threshold", "stepWeight", "maxWeight", "stepReplicas",
    "maxReplicas", "canaryReplicas", "iterations"] 2 j
  return {
    interval := ← optional text? "interval" members
    threshold := ← optional int32? "threshold" members
    stepWeight := ← defaulted int32? 0 "stepWeight" members
    maxWeight := ← defaulted int32? 0 "maxWeight" members
    stepReplicas := ← defaulted int32? 0 "stepReplicas" members
    maxReplicas := ← defaulted int32? 0 "maxReplicas" members
    canaryReplicas := ← defaulted int32? 0 "canaryReplicas" members
    iterations := ← defaulted int32? 0 "iterations" members }

def Analysis.toJson (a : Analysis) : Json :=
  objectOf [
    ("interval", a.interval.map .str),
    ("threshold", a.threshold.map ofInt32),
    ("stepWeight", some (ofInt32 a.stepWeight)),
    ("maxWeight", some (ofInt32 a.maxWeight)),
    ("stepReplicas", some (ofInt32 a.stepReplicas)),
    ("maxReplicas", some (ofInt32 a.maxReplicas)),
    ("canaryReplicas", some (ofInt32 a.canaryReplicas)),
    ("iterations", some (ofInt32 a.iterations))]

def CanarySpec.ofJson? (j : Json) : Option CanarySpec := do
  let members ← record? ["targetRef", "sourceRef", "strategy", "progressDeadlineSeconds",
    "skipAnalysis", "service", "analysis"] 4 j
  return {
    targetRef := ← required ObjectReference.ofJson? "targetRef" members
    sourceRef := ← optional ObjectReference.ofJson? "sourceRef" members
    strategy := ← optional text? "strategy" members
    progressDeadlineSeconds := ← optional int32? "progressDeadlineSeconds" members
    skipAnalysis := ← defaulted bool? false "skipAnalysis" members
    service := ← defaulted ServiceSpec.ofJson? {} "service" members
    analysis := ← defaulted Analysis.ofJson? {} "analysis" members }

def CanarySpec.toJson (s : CanarySpec) : Json :=
  objectOf [
    ("targetRef", some s.targetRef.toJson),
    ("sourceRef", s.sourceRef.map (·.toJson)),
    ("strategy", s.strategy.map .str),
    ("progressDeadlineSeconds", s.progressDeadlineSeconds.map ofInt32),
    ("skipAnalysis", some (.bool s.skipAnalysis)),
    ("service", some s.service.toJson),
    ("analysis", some s.analysis.toJson)]

/-! ## The status -/

def CanaryStatus.ofJson? (j : Json) : Option CanaryStatus := do
  let members ← record? ["phase", "canaryWeight", "failedChecks", "iterations", "trackedConfigs",
    "lastAppliedSpec", "lastPromotedSpec", "lastTransitionTime"] 8 j
  return {
    phase := ← optional Phase.ofJson? "phase" members
    canaryWeight := ← defaulted int32? 0 "canaryWeight" members
    failedChecks := ← defaulted int32? 0 "failedChecks" members
    iterations := ← defaulted int32? 0 "iterations" members
    trackedConfigs := ← optional texts? "trackedConfigs" members
    lastAppliedSpec := ← optional text? "lastAppliedSpec" members
    lastPromotedSpec := ← optional text? "lastPromotedSpec" members
    lastTransitionTime := ← optional text? "lastTransitionTime" members }

def CanaryStatus.toJson (s : CanaryStatus) : Json :=
  objectOf [
    ("phase", s.phase.map (·.toJson)),
    ("canaryWeight", some (ofInt32 s.canaryWeight)),
    ("failedChecks", some (ofInt32 s.failedChecks)),
    ("iterations", some (ofInt32 s.iterations)),
    ("trackedConfigs", s.trackedConfigs.map ofTexts),
    ("lastAppliedSpec", s.lastAppliedSpec.map .str),
    ("lastPromotedSpec", s.lastPromotedSpec.map .str),
    ("lastTransitionTime", s.lastTransitionTime.map .str)]

/-! ## Canaries -/

/-- The API version under which canaries are stored. -/
def Canary.apiVersion : String := "kulta.io/v1beta1"

/-- The kind under which canaries are stored. -/
def Canary.kind : String := "Canary"

/-- Reads a canary from an object. Its types are not looked at, and a list of its parts is not taken
for one. -/
def Canary.ofJson? : Json → Option Canary
  | .obj members => do
    return {
      metadata := ← required Metadata.ofJson? "metadata" members
      spec := ← required CanarySpec.ofJson? "spec" members
      status := ← optional CanaryStatus.ofJson? "status" members }
  | _ => none

/-- Writes a canary. -/
def Canary.toJson (c : Canary) : Json :=
  objectOf [
    ("apiVersion", some (.str Canary.apiVersion)),
    ("kind", some (.str Canary.kind)),
    ("metadata", some c.metadata.toJson),
    ("spec", some c.spec.toJson),
    ("status", c.status.map (·.toJson))]

end Rollout

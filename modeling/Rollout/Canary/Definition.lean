/-
The definition by which a cluster learns about canaries: their names, the columns to list them
with, and the schema of everything that a canary can hold.
-/
import Rollout.Canary.Codec

namespace Rollout

namespace Schema

/-! ## Schemas -/

def text : Json := .object [("type", .str "string")]

def flag : Json := .object [("type", .str "boolean")]

/-- A number of 32 bits with a sign. -/
def number : Json := .object [("type", .str "integer"), ("format", .str "int32")]

/-- A map of texts. -/
def texts : Json := .object [("type", .str "object"), ("additionalProperties", text)]

/-- One of some texts. -/
def oneOf (values : List String) : Json :=
  .object [("type", .str "string"), ("enum", .arr (values.map .str))]

/-- An object with properties, some of which are required. -/
def record (required : List String) (properties : List (String × Json)) : Json :=
  Json.objectOf [
    ("type", some (.str "object")),
    ("properties", some (.object properties)),
    ("required", if required.isEmpty then none else some (.arr (required.map .str)))]

/-- A schema that takes null as well. -/
def orNull (schema : Json) : Json := schema.set "nullable" (.bool true)

/-- A schema with the value that stands for a missing one. -/
def orElse (value schema : Json) : Json := schema.set "default" value

/-- A schema with a description. -/
def described (description : String) (schema : Json) : Json :=
  schema.set "description" (.str description)

end Schema

open Schema

/-! ## The parts of a canary -/

def ObjectReference.schema : Json :=
  described "Reference to a workload that may live in another namespace" <|
  record ["apiVersion", "kind", "name"] [
    ("apiVersion", text),
    ("kind", text),
    ("name", text),
    ("namespace", described "Defaults to the Canary's namespace" (orNull text))]

def ServiceSpec.schema : Json :=
  record [] [
    ("port", described "Port exposed by the apex/primary/canary services" (orElse (.int 0) number)),
    ("portDiscovery",
      described "Discover additional named ports from the workload pod template"
        (orElse (.bool false) flag)),
    ("portName", described "Name of the service port (default: \"http\")" (orNull text)),
    ("httpRoute",
      described "HTTPRoute carrying the weighted backends (default: target name)" (orNull text))]

def Analysis.schema : Json :=
  record [] [
    ("interval",
      described "Interval between steps (e.g. \"1m\"); scheduling is owned by the outer loop"
        (orNull text)),
    ("threshold",
      described "Failed checks tolerated before the rollout is rolled back" (orNull number)),
    ("stepWeight", described "Traffic weight added per step" count),
    ("maxWeight", described "Traffic weight at which promotion starts" count),
    ("stepReplicas",
      described "Replicas added per step for replica-driven rolling updates" count),
    ("maxReplicas", described "Replica count of a fully scaled workload" count),
    ("canaryReplicas",
      described "Explicit canary replica count; wins over the weight-derived count" count),
    ("iterations", described "Fixed iteration count (A/B style rollouts)" count)]
where
  count : Json := orElse (.int 0) number

def CanarySpec.schema : Json :=
  described
    ("Canary is a Custom Resource describing one progressive rollout\n\n" ++
      "The target is the new version, the source (or resolved baseline) is the\n" ++
      "version currently serving stable traffic.") <|
  record ["targetRef"] [
    ("targetRef", described "Reference to the new-version workload" ObjectReference.schema),
    ("sourceRef",
      described
        ("Explicit reference to the baseline workload.\n" ++
          "When unset the baseline is resolved from revision history or naming convention.")
        (orNull ObjectReference.schema)),
    ("strategy",
      described
        "Controller kind tag overriding `targetRef.kind` (e.g. \"rolling\", \"swap\")"
        (orNull text)),
    ("progressDeadlineSeconds",
      described "Seconds a workload may stay unavailable before it is considered stalled"
        (orNull number)),
    ("skipAnalysis",
      described "Skip readiness gating and analysis entirely" (orElse (.bool false) flag)),
    ("service",
      described "Service exposed in front of baseline and canary"
        (orElse (ServiceSpec.toJson {}) ServiceSpec.schema)),
    ("analysis",
      described "Rollout step parameters" (orElse (Analysis.toJson {}) Analysis.schema))]

def Phase.schema : Json :=
  described "Phase of a Canary\n\nAn absent phase is treated the same as `Initializing`."
    (oneOf (Phase.all.map (·.text)))

def CanaryStatus.schema : Json :=
  described
    ("Status of the Canary\n\n" ++
      "Written only through the merge-and-retry routine in\n" ++
      "`controller::status`, never overwritten wholesale.") <|
  record [] [
    ("phase", orNull Phase.schema),
    ("canaryWeight", described "Traffic weight routed to the canary (0-100)" count),
    ("failedChecks", count),
    ("iterations", count),
    ("trackedConfigs",
      described "ConfigMaps/Secrets referenced by the target, keyed by name" (orNull texts)),
    ("lastAppliedSpec", described "Hash of the target spec last synced" (orNull text)),
    ("lastPromotedSpec",
      described "Hash of the target spec at the last successful promotion" (orNull text)),
    ("lastTransitionTime", described "RFC3339 timestamp of the last phase change" (orNull text))]
where
  count : Json := orElse (.int 0) number

/-- The schema of a canary; metadata need no schema. -/
def Canary.schema : Json :=
  ((described "Auto-generated derived type for CanarySpec via `CustomResource`" <|
    record ["spec"] [
      ("spec", CanarySpec.schema),
      ("status", orNull CanaryStatus.schema)]).set "title" (.str Canary.kind))

/-! ## The definition -/

/-- A column to list canaries with. -/
structure Column where
  name : String
  type : String
  path : String

def Column.toJson (c : Column) : Json :=
  .object [("name", .str c.name), ("type", .str c.type), ("jsonPath", .str c.path)]

def Canary.columns : List Column := [
  ⟨"Target", "string", ".spec.targetRef.name"⟩,
  ⟨"Phase", "string", ".status.phase"⟩,
  ⟨"Weight", "integer", ".status.canaryWeight"⟩,
  ⟨"FailedChecks", "integer", ".status.failedChecks"⟩,
  ⟨"Age", "date", ".metadata.creationTimestamp"⟩]

/-- The custom resource definition of canaries. -/
def Canary.definition : Json :=
  .object [
    ("apiVersion", .str "apiextensions.k8s.io/v1"),
    ("kind", .str "CustomResourceDefinition"),
    ("metadata", .object [("name", .str "canaries.kulta.io")]),
    ("spec", .object [
      ("group", .str "kulta.io"),
      ("scope", .str "Namespaced"),
      ("names", .object [
        ("categories", .arr []),
        ("kind", .str Canary.kind),
        ("plural", .str "canaries"),
        ("shortNames", .arr []),
        ("singular", .str "canary")]),
      ("versions", .arr [.object [
        ("name", .str "v1beta1"),
        ("served", .bool true),
        ("storage", .bool true),
        ("additionalPrinterColumns", .arr (Canary.columns.map (·.toJson))),
        ("schema", .object [("openAPIV3Schema", Canary.schema)]),
        ("subresources", .object [("status", .object [])])]])])]

end Rollout

/-
The canary resource: one progressive rollout. The target is the new version of a workload, the
baseline the version that serves stable traffic.
-/
import Rollout.Metadata

namespace Rollout

/-- A reference to a workload; without a namespace it means the canary's own. -/
structure ObjectReference where
  apiVersion : String
  kind : String
  name : String
  ns : Option String := none
deriving DecidableEq, Repr, Inhabited

/-- The service in front of baseline and canary. -/
structure ServiceSpec where
  port : Int32 := 0
  portDiscovery : Bool := false
  portName : Option String := none
  httpRoute : Option String := none
deriving DecidableEq, Repr, Inhabited

/-- The step parameters of a rollout. -/
structure Analysis where
  interval : Option String := none
  threshold : Option Int32 := none
  stepWeight : Int32 := 0
  maxWeight : Int32 := 0
  stepReplicas : Int32 := 0
  maxReplicas : Int32 := 0
  canaryReplicas : Int32 := 0
  iterations : Int32 := 0
deriving DecidableEq, Repr, Inhabited

/-- What a canary asks for. -/
structure CanarySpec where
  targetRef : ObjectReference
  sourceRef : Option ObjectReference := none
  strategy : Option String := none
  progressDeadlineSeconds : Option Int32 := none
  skipAnalysis : Bool := false
  service : ServiceSpec := {}
  analysis : Analysis := {}
deriving DecidableEq, Repr, Inhabited

/-- The phase of a rollout. -/
inductive Phase where
  | initializing
  | initialized
  | waiting
  | progressing
  | promoting
  | finalising
  | succeeded
  | failed
  | terminating
  | terminated
deriving DecidableEq, Repr, Inhabited

/-- How far a rollout has come. -/
structure CanaryStatus where
  phase : Option Phase := none
  canaryWeight : Int32 := 0
  failedChecks : Int32 := 0
  iterations : Int32 := 0
  trackedConfigs : Option (Dict String) := none
  lastAppliedSpec : Option String := none
  lastPromotedSpec : Option String := none
  lastTransitionTime : Option String := none
deriving DecidableEq, Repr, Inhabited

/-- A canary. -/
structure Canary where
  metadata : Metadata
  spec : CanarySpec
  status : Option CanaryStatus := none
deriving DecidableEq, Repr, Inhabited

namespace Canary

/-! ## What the status says -/

/-- The phase; a canary without one is initializing. -/
def phase (c : Canary) : Phase := (c.status.bind (·.phase)).getD .initializing

def canaryWeight (c : Canary) : Int32 := (c.status.map (·.canaryWeight)).getD 0

def failedChecks (c : Canary) : Int32 := (c.status.map (·.failedChecks)).getD 0

/-- The hash of the target's spec that was last synced, unless it is missing or empty. -/
def appliedSpec? (c : Canary) : Option String :=
  (c.status.bind (·.lastAppliedSpec)).filter (· ≠ "")

/-! ## What the spec says -/

/-- The seconds a workload may be unavailable before it counts as stalled. -/
def progressDeadline (c : Canary) : Int32 := c.spec.progressDeadlineSeconds.getD 600

/-- The failed checks that make a rollout fail, at least one. -/
def analysisThreshold (c : Canary) : Int32 := max (c.spec.analysis.threshold.getD 1) 1

/-- The replica count of a fully scaled workload. -/
def maxReplicas (c : Canary) : Int32 := c.spec.analysis.maxReplicas

/-- The tag that selects a controller: the strategy, else the target's kind. -/
def controllerKind (c : Canary) : String := c.spec.strategy.getD c.spec.targetRef.kind

/-- The namespace of the target, else the canary's own. -/
def targetNamespace? (c : Canary) : Option String :=
  c.spec.targetRef.ns.orElse fun _ => c.metadata.ns

/-- Whether the rollout advances by replicas and not by weight. -/
def isRollingUpdate (c : Canary) : Bool := c.spec.analysis.stepReplicas ≠ 0

/-! ## Where the rollout stands -/

/-- All traffic is committed to the new version. -/
def isPromoted (c : Canary) : Bool :=
  match c.phase with
  | .promoting | .finalising | .succeeded => true
  | _ => false

/-- The rollout has to be rolled back. -/
def isFailed (c : Canary) : Bool := c.phase = .failed || c.analysisThreshold ≤ c.failedChecks

/-- The rollout is over. -/
def isFinished (c : Canary) : Bool :=
  c.isPromoted ||
    match c.phase with
    | .failed | .terminating | .terminated => true
    | _ => false

def isInitializing (c : Canary) : Bool := c.phase = .initializing

def isInitialized (c : Canary) : Bool := c.phase = .initialized

/-! ## Names -/

/-- The service that clients use. -/
def apexService (c : Canary) : String := c.spec.targetRef.name

/-- The service in front of the baseline. -/
def primaryService (c : Canary) : String := c.apexService ++ "-primary"

/-- The service in front of the new version. -/
def canaryService (c : Canary) : String := c.apexService ++ "-canary"

/-- The canary's own namespace, empty if it has none. -/
def ns (c : Canary) : String := c.metadata.ns.getD ""

/-- The name to show for the canary. -/
def name (c : Canary) : String := c.metadata.displayName

/-- The version at which the canary was read. -/
def resourceVersion (c : Canary) : Option String := c.metadata.resourceVersion

end Canary

end Rollout

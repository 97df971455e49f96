/-
What can go wrong, as causes. Each kind of failure has one function that words it and, where it
matters, one that says whether another try can help.
-/
import Rollout.Readiness
import Rollout.Workload.Ref

namespace Rollout

/-! ## Requests to the API -/

/-- A request that did not succeed. -/
inductive ApiFailure where
  /-- The server answered with an error, for a reason that is a word of its own. -/
  | status (code : Nat) (reason : String)
  /-- There was no answer, or none that could be read. -/
  | unreadable
deriving DecidableEq, Repr, Inhabited

def ApiFailure.message : ApiFailure → String
  | .status code reason => "ApiError: " ++ reason ++ " (" ++ toString code ++ ")"
  | .unreadable => "no readable answer"

/-- What every message about a failed request begins with. -/
def ApiFailure.text (f : ApiFailure) : String := "Kubernetes API error: " ++ f.message

/-! ## Workloads -/

/-- Why a workload could not be read or changed. -/
inductive AccessError where
  | notFound (kind name ns : String)
  | api (failure : ApiFailure)
  /-- The cluster does not know the kind. -/
  | discovery (text : String)
  | malformed (text : String)
deriving DecidableEq, Repr, Inhabited

namespace AccessError

def message : AccessError → String
  | .notFound kind name ns => kind ++ " " ++ name ++ "." ++ ns ++ " not found"
  | .api failure => failure.text
  | .discovery text => "cannot resolve API resource for " ++ text
  | .malformed text => "malformed workload object: " ++ text

/-- Whether the workload is just not there. -/
def isNotFound : AccessError → Bool
  | .notFound _ _ _ => true
  | .api (.status code _) => code == 404
  | _ => false

/-- A workload that is not there. -/
def missing (r : WorkloadRef) : AccessError := .notFound r.kind r.name r.ns

/-- A kind that the cluster does not know. -/
def unknownKind (apiVersion kind detail : String) : AccessError :=
  .discovery (apiVersion ++ "/" ++ kind ++ ": " ++ detail)

/-- Another try can help when a request failed for a reason other than absence. -/
def isRetriable : AccessError → Bool
  | .api (.status code _) => code != 404
  | .api .unreadable => true
  | _ => false

end AccessError

/-! ## Stored canaries -/

/-- Why a canary could not be read or its status not be written. -/
inductive StoreError where
  | notFound (ns name : String)
  /-- The stored canary is not the one that was read. -/
  | conflict (text : String)
  | api (failure : ApiFailure)
  | malformed (text : String)
deriving DecidableEq, Repr, Inhabited

namespace StoreError

def message : StoreError → String
  | .notFound ns name => "canary " ++ ns ++ "/" ++ name ++ " not found"
  | .conflict text => "status write conflict: " ++ text
  | .api failure => failure.text
  | .malformed text => "canary status cannot be encoded: " ++ text

def isRetriable : StoreError → Bool
  | .notFound _ _ => false
  | .malformed _ => false
  | _ => true

end StoreError

/-! ## Tracked configuration -/

/-- Why the tracker has no answer. -/
inductive TrackerError where
  /-- The target is of a kind without tracked configuration. -/
  | invalidKind (kind : String)
  | other (text : String)
deriving DecidableEq, Repr, Inhabited

namespace TrackerError

/-- What marks an invalid kind in a tracker's text. -/
def invalidKindMark : String := "TargetRef.Kind invalid:"

def message : TrackerError → String
  | .invalidKind kind => invalidKindMark ++ " " ++ kind
  | .other text => text

/-- Whether a list begins with another. -/
def startsWith : List Char → List Char → Bool
  | [], _ => true
  | c :: cs, d :: ds => c == d && startsWith cs ds
  | _ :: _, [] => false

/-- Whether a list contains another as a run. -/
def containsRun (run : List Char) : List Char → Bool
  | [] => run.isEmpty
  | c :: cs => startsWith run (c :: cs) || containsRun run cs

/-- Whether the target's kind is the reason, be it said by the case or by the text. -/
def isKindInvalid : TrackerError → Bool
  | .invalidKind _ => true
  | .other text => containsRun invalidKindMark.toList text.toList

end TrackerError

/-! ## Controllers -/

/-- Why there is no baseline. -/
inductive SourceProblem where
  /-- The baseline that the canary refers to could not be read. -/
  | unreadable (source : WorkloadRef) (error : AccessError)
  /-- No revision of the component leads to a live workload. -/
  | noLiveRevision (component : String)
  | stated (text : String)
deriving DecidableEq, Repr, Inhabited

def SourceProblem.message : SourceProblem → String
  | .unreadable source error => "baseline " ++ source.text ++ " not found: " ++ error.message
  | .noLiveRevision component => "baseline workload not found for component " ++ component
  | .stated text => text

/-- What is wrong with the configuration. -/
inductive ConfigurationProblem where
  /-- A canary without a namespace for its target. -/
  | noTargetNamespace (canary : String)
  /-- A canary without a namespace to look for its target in. -/
  | noSourceNamespace
  /-- A target that does not say to which component it belongs. -/
  | noComponent (target : WorkloadRef) (label : String)
  /-- A workload with none of the labels that may tell its pods apart. -/
  | noSelectorLabel (name ns : String) (candidates : List String)
  | stated (text : String)
deriving DecidableEq, Repr, Inhabited

def ConfigurationProblem.message : ConfigurationProblem → String
  | .noTargetNamespace canary => "canary " ++ canary ++ " has no namespace for its target"
  | .noSourceNamespace => "canary has no namespace to resolve its target in"
  | .noComponent target label => target.text ++ " carries no " ++ label ++ " label"
  | .noSelectorLabel name ns candidates =>
    "workload " ++ name ++ "." ++ ns ++ " meta data label must contain one of " ++
      Text.quotedList candidates
  | .stated text => text

/-- Why an operation of a controller failed, or had no end. -/
inductive ControllerError where
  | notReady (kind name ns : String) (retriable : Bool) (reason : UnreadyReason)
  | sourceNotFound (problem : SourceProblem)
  | access (error : AccessError)
  | store (error : StoreError)
  /-- Every attempt to write the status met another write. -/
  | statusConflict (name ns : String) (attempts : Nat)
  | configuration (problem : ConfigurationProblem)
  | tracker (error : TrackerError)
  | unsupported (feature : String)
  /-- The program stopped. Nobody is given this failure, and nothing comes after it. -/
  | crashed (cause : Crash)
deriving DecidableEq, Repr, Inhabited

namespace ControllerError

def message : ControllerError → String
  | .notReady kind name ns _ reason =>
    kind ++ " " ++ name ++ "." ++ ns ++ " not ready: " ++ reason.message
  | .sourceNotFound problem => problem.message
  | .access error => error.message
  | .store error => error.message
  | .statusConflict name ns attempts =>
    "status of canary " ++ ns ++ "/" ++ name ++ " still conflicting after " ++
      toString attempts ++ " attempts"
  | .configuration problem => "Configuration error: " ++ problem.message
  | .tracker error => "GetConfigRefs failed: " ++ error.message
  | .unsupported feature => feature ++ " is not supported"
  | .crashed _ => ""

/-- Whether another try, later, can succeed. -/
def isRetriable : ControllerError → Bool
  | .notReady _ _ _ retriable _ => retriable
  | .access error => error.isRetriable
  | .store error => error.isRetriable
  | .statusConflict _ _ _ => true
  | .tracker _ => true
  | .sourceNotFound _ => false
  | .configuration _ => false
  | .unsupported _ => false
  | .crashed _ => false

end ControllerError

/-! ## Routing -/

/-- The two workloads of a rollout: the baseline and the new version. -/
inductive Role where
  | primary
  | canary
deriving DecidableEq, Repr, Inhabited

def Role.text : Role → String
  | .primary => "Primary"
  | .canary => "Canary"

/-- Why traffic could not be routed. -/
inductive RouterError where
  | route (name ns : String) (primary canary : Int32) (message : String)
  | scale (role : Role) (name ns : String) (replicas : Int32) (source : ControllerError)
  | api (failure : ApiFailure)
  | controller (error : ControllerError)
deriving DecidableEq, Repr, Inhabited

namespace RouterError

def message : RouterError → String
  | .route name ns primary canary message =>
    "routing " ++ name ++ "." ++ ns ++ " to primary=" ++ toString primary.toInt ++ " canary=" ++
      toString canary.toInt ++ " failed: " ++ message
  | .scale role name ns replicas source =>
    "scaling " ++ role.text ++ " workload " ++ name ++ "." ++ ns ++ " to " ++
      toString replicas.toInt ++ " replicas failed: " ++ source.message
  | .api failure => failure.text
  | .controller error => error.message

/-- A failure to scale is as retriable as what caused it. -/
def isRetriable : RouterError → Bool
  | .route _ _ _ _ _ => true
  | .api _ => true
  | .scale _ _ _ _ source => source.isRetriable
  | .controller error => error.isRetriable

end RouterError

end Rollout

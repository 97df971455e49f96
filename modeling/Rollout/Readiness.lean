/-
Readiness of a workload at one point in time: ready, not ready but worth another look, or beyond
hope. Nothing waits here; the verdict depends on the object, the deadline and the time alone. There
is none where its arithmetic has no result.
-/
import Rollout.Text.Quoted
import Rollout.Workload.View

namespace Rollout

/-- Why a workload is not ready. -/
inductive UnreadyReason where
  /-- The object lacks a field that every workload of its kind has. -/
  | malformed (kind field : String)
  /-- The controller of the workload has not seen the latest generation. -/
  | generationBehind
  /-- The workload itself gave up. -/
  | deadlineExceeded (name : String)
  /-- Not all replicas have been updated. -/
  | updating (updated desired : Int64)
  /-- Replicas of an earlier version are still there. -/
  | terminating (count : Int64)
  /-- Not all updated replicas are available. -/
  | unavailable (available updated : Int64)
  /-- The workload wraps a deployment that it does not list yet. -/
  | deploymentUnlisted (name : String)
  /-- A reason given in words. -/
  | stated (text : String)
deriving DecidableEq, Repr, Inhabited

namespace UnreadyReason

def waiting : String := "waiting for rollout to finish: "

/-- The reason in words. -/
def message : UnreadyReason → String
  | .malformed kind field =>
    "kind:" ++ kind ++ " is not a well-formed workload, " ++ field ++ " not found"
  | .generationBehind => waiting ++ "observed generation behind desired generation"
  | .deadlineExceeded name => "deployment " ++ Text.quoted name ++ " exceeded its progress deadline"
  | .updating updated desired =>
    waiting ++ toString updated.toInt ++ " out of " ++ toString desired.toInt ++
      " new replicas have been updated"
  | .terminating count =>
    waiting ++ toString count.toInt ++ " old replicas are pending termination"
  | .unavailable available updated =>
    waiting ++ toString available.toInt ++ " of " ++ toString updated.toInt ++
      " updated replicas are available"
  | .deploymentUnlisted name => "Deployment not found for podSpecWorkload " ++ name
  | .stated text => text

end UnreadyReason

/-- Whether a workload is ready and, if not, whether it is worth another look. -/
inductive Verdict where
  | ready
  | notReady (retriable : Bool) (reason : UnreadyReason)
deriving DecidableEq, Repr, Inhabited

namespace Verdict

/-- Not ready, but may become so. -/
def retry (reason : UnreadyReason) : Verdict := .notReady true reason

/-- Not ready, and not going to be. -/
def fatal (reason : UnreadyReason) : Verdict := .notReady false reason

def isReady : Verdict → Bool
  | .ready => true
  | .notReady _ _ => false

/-- A ready workload counts as retriable: there is nothing to give up. -/
def isRetriable : Verdict → Bool
  | .ready => true
  | .notReady retriable _ => retriable

end Verdict

/-- Why a verdict is not reached: arithmetic without a result, at which the program stops. -/
inductive Crash where
  /-- An instant that the calendar does not reach. -/
  | calendar
  /-- A difference that 64 bits do not hold. -/
  | overflow
deriving DecidableEq, Repr, Inhabited

/-- The difference of two numbers, if 64 bits hold it. -/
def difference? (a b : Int64) : Option Int64 :=
  if (a - b).toInt = a.toInt - b.toInt then some (a - b) else none

namespace Manifest

/-- The deployment has passed its own progress deadline. -/
def gaveUp (m : Manifest) : Bool :=
  m.hasRichConditions &&
    ((m.condition? "Progressing").bind (·.reason)) == some "ProgressDeadlineExceeded"

/-- The time since which the deployment has been below its minimum availability. -/
def shortSince? (m : Manifest) : Option Instant :=
  if m.hasRichConditions then
    (m.condition? "Available").bind fun available =>
      if available.status = "False" ∧ available.reason = some "MinimumReplicasUnavailable" then
        available.changedAt
      else none
  else none

/-- Whether the deployment has been below its minimum availability for longer than the
deadline. -/
def isStalled (m : Manifest) (deadline : Int32) (now : Instant) : Except Crash Bool :=
  match m.shortSince? with
  | none => .ok false
  | some since =>
    match since.plus? deadline.toInt with
    | none => .error .calendar
    | some due => .ok (due.before now)

/-- The total and updated counters. Kinds with a typed status leave out zeros; the others have to
publish both, or the name of the missing one is given. -/
def rolloutCounters (m : Manifest) : Except String (Int64 × Int64) :=
  if m.hasTypedStatus then .ok (m.totalReplicas.getD 0, m.updatedReplicas.getD 0)
  else
    match m.totalReplicas, m.updatedReplicas with
    | none, _ => .error "status.replicas"
    | some _, none => .error "status.updatedReplicas"
    | some total, some updated => .ok (total, updated)

/-- The available counter, where it is known. -/
def knownAvailable (m : Manifest) : Option Int64 :=
  if m.hasTypedStatus then some (m.availableReplicas.getD 0) else m.availableReplicas

/-- The verdict on the replica counters. -/
def countersVerdict (m : Manifest) (total updated : Int64) (deadline : Int32) (now : Instant) :
    Except Crash Verdict :=
  match m.desiredReplicas.filter (updated < ·) with
  | some desired =>
    (m.isStalled deadline now).map fun stalled => .notReady (!stalled) (.updating updated desired)
  | none =>
    if updated < total then
      match difference? total updated with
      | none => .error .overflow
      | some count => .ok (.retry (.terminating count))
    else
      match m.knownAvailable.filter (· < updated) with
      | some available => .ok (.retry (.unavailable available updated))
      | none => .ok .ready

/-- The verdict on a workload for a deadline in seconds, if there is one. -/
def readiness (m : Manifest) (deadline : Int32) (now : Instant) : Except Crash Verdict :=
  match m.observedGeneration with
  | none => .ok (.fatal (.malformed m.kind "status.observedGeneration"))
  | some observed =>
    if observed < m.generation then .ok (.retry .generationBehind)
    else if m.gaveUp then .ok (.fatal (.deadlineExceeded m.name))
    else
      match m.rolloutCounters with
      | .error field => .ok (.fatal (.malformed m.kind field))
      | .ok (total, updated) => m.countersVerdict total updated deadline now

end Manifest

end Rollout

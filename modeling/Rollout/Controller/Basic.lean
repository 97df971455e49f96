/-
Controllers: one for each shape of workload. A controller knows which workloads are baseline and
target and how they are scaled; what a rollout does with them is the same for all.
-/
import Rollout.Baseline

namespace Rollout

/-- A controller. -/
inductive Controller where
  /-- Replica counts; the baseline is named after the target. -/
  | deployment
  /-- One pod on every node, so scaling is parking. -/
  | daemonSet
  /-- Routing only. -/
  | service
  /-- Any kind with replica counters; the baseline is found in the revision history once and kept
  from then on. -/
  | rolling (baseline : Option WorkloadRef)
  /-- Two fixed workloads that take each other's place. -/
  | swap (baseline target : WorkloadRef)
deriving DecidableEq, Repr, Inhabited

def Controller.name : Controller → String
  | .deployment => "deployment"
  | .daemonSet => "daemonset"
  | .service => "service"
  | .rolling _ => "rolling"
  | .swap _ _ => "swap"

/-! ## Operations -/

/-- An operation of a controller: work that may fail, and that may settle the controller's
baseline whether it fails or not. -/
abbrev Operation (α : Type) :=
  ExceptT ControllerError (StateT Controller (Program Cluster.interface)) α

instance : MonadLift (ExceptT ControllerError (Program Cluster.interface))
    (ExceptT ControllerError (StateT Controller (Program Cluster.interface))) where
  monadLift task := ExceptT.mk fun controller => do
    let result ← task.run
    pure (result, controller)

/-! ## References -/

/-- A reference of the canary; it is missing when there is no namespace for the target. -/
def Canary.placed (c : Canary) : Option WorkloadRef → Except ControllerError WorkloadRef
  | some ref => .ok ref
  | none => .error (.configuration (.noTargetNamespace c.name))

/-- The canary's target. -/
def Canary.target (c : Canary) : Task WorkloadRef := Task.ofExcept id (c.placed c.target?)

/-- The canary's baseline by reference or by name. -/
def Canary.primary (c : Canary) : Task WorkloadRef := Task.ofExcept id (c.placed c.primary?)

/-- The identity of a resolved baseline. -/
def baselineRef (object : Manifest) : Task WorkloadRef :=
  match WorkloadRef.of? object with
  | some ref => pure ref
  | none => throw (.access (.malformed "baseline workload lacks kind or namespace"))

/-- The controller that swaps the canary's baseline and target; both have to be there. -/
def Controller.swapFor (c : Canary) : Task Controller := do
  let baseline ← baselineRef (← c.resolveSource)
  let target ← c.target
  let _ ← Task.workload target
  return .swap baseline target

/-- The controller for a canary, by its controller kind. Kinds without a controller of their own
follow the convention of replica counts. -/
def Controller.select (c : Canary) : Task Controller :=
  if c.controllerKind = "Deployment" then pure .deployment
  else if c.controllerKind = "DaemonSet" then pure .daemonSet
  else if c.controllerKind = "Service" then pure .service
  else if c.controllerKind = "rolling" then pure (.rolling none)
  else if c.controllerKind = "swap" then Controller.swapFor c
  else if c.controllerKind = "inplace" then throw (.unsupported "inplace strategy")
  else pure .deployment

/-! ## Scaling -/

/-- The baseline of a rolling controller, resolved the first time it is needed. -/
def Canary.settledBaseline (c : Canary) : Option WorkloadRef → Operation WorkloadRef
  | some baseline => pure baseline
  | none => do
    let baseline ← baselineRef (← c.resolveSource)
    set (Controller.rolling (some baseline))
    return baseline

/-- The workload in a role. -/
def Canary.workloadFor (c : Canary) (role : Role) : Operation WorkloadRef := do
  match ← get, role with
  | .swap baseline _, .primary => return baseline
  | .swap _ target, .canary => return target
  | .rolling settled, .primary => c.settledBaseline settled
  | _, .primary => c.primary
  | _, .canary => c.target

/-- Scales the workload in a role, in the way of the controller. -/
def Canary.scale (c : Canary) (role : Role) (replicas : Int32) : Operation Unit := do
  match ← get with
  | .service => return ()
  | .daemonSet => change (.parking replicas)
  | .rolling _ => do
    let ref ← c.workloadFor role
    done (← Task.ask (.scale ref replicas))
  | _ => change (.replicas replicas)
where
  change (change : WorkloadChange) : Operation Unit := do
    let ref ← c.workloadFor role
    done (← Task.ask (.change ref change))
  done (result : Except AccessError Unit) : Task Unit := Task.ofExcept .access result

/-- The replica count of a workload at full size; a workload with one pod on every node is either
scheduled or not. -/
def Canary.fullSize (c : Canary) : Controller → Int32
  | .daemonSet => 1
  | _ => c.maxReplicas

end Rollout

/-
What a controller finds out without changing anything: whether baseline and target are ready,
whether the target or its configuration has changed, and what services need to know.
-/
import Rollout.Controller.Basic
import Rollout.Settings
import Rollout.Workload.SpecHash

namespace Rollout

/-! ## Readiness -/

/-- The kind that wraps a deployment, which it lists in its status. -/
def wrapperKind : String := "PodSpecWorkload"

/-- The verdict on an object at this time. -/
def Canary.verdictNow (c : Canary) (object : Manifest) : Task Verdict := do
  Task.ofExcept .crashed (object.readiness c.progressDeadline (← Task.now))

/-- The verdict on a fetched workload. A wrapper publishes no counters of its own and is judged
by the deployment that it lists. -/
def Canary.verdict (c : Canary) (object : Manifest) : Task Verdict := do
  if object.kind = wrapperKind then
    match object.statusResource? "Deployment" with
    | none => return .retry (.deploymentUnlisted object.name)
    | some name => c.verdictNow (← Task.workload ⟨"apps/v1", "Deployment", name, object.ns⟩)
  else c.verdictNow object

/-- The failure that a verdict amounts to, if it is not that the workload is ready. -/
def Verdict.require (v : Verdict) (object : Manifest) : Except ControllerError Unit :=
  match v with
  | .ready => .ok ()
  | .notReady retriable reason =>
    .error (.notReady object.kind object.name object.ns retriable reason)

/-- Fails unless the baseline is ready. -/
def Canary.requirePrimaryReady (c : Canary) : Operation Unit := do
  match ← get with
  | .service => return ()
  | _ =>
    let object ← Task.workload (← c.workloadFor .primary)
    Task.ofExcept id ((← c.verdict object).require object)

/-- The verdict on the target. -/
def Canary.targetVerdict (c : Canary) : Operation Verdict := do
  match ← get with
  | .service => return .ready
  | _ => c.verdict (← Task.workload (← c.workloadFor .canary))

/-! ## Changes -/

/-- The hash of the target's spec, if it has one. -/
def Canary.targetHash (c : Canary) : Task (Option String) := do
  return (← Task.workload (← c.target)).specHash?

/-- Whether the target is a new version. A rolling target stays at its revision; a swap reports a
change while it is initialized, so that it can leave that phase; the others compare hashes. -/
def Canary.targetChanged (c : Canary) : Operation Bool := do
  match ← get with
  | .rolling _ => return false
  | .swap _ _ => return c.isInitialized
  | _ =>
    let current ← c.targetHash
    return match c.appliedSpec? with
      | none => true
      | some applied => current ≠ some applied

/-- Whether the configuration that the target refers to has changed. -/
def Canary.dependenciesChanged (c : Canary) : Operation Bool := do
  match ← get with
  | .service => return false
  | _ =>
    match ← Task.ask (.configChanged c) with
    | .ok changed => return changed
    | .error e => if e.isKindInvalid then return false else throw (.tracker e)

/-! ## Services -/

/-- What the services of a canary are made from. -/
structure WorkloadMetadata where
  selectorLabel : Option String := none
  ports : Option (Dict Int32) := none
deriving DecidableEq, Repr, Inhabited

/-- The selector label of a workload and, where they are asked for, its ports. -/
def Canary.workloadMetadata (c : Canary) (settings : Settings) (object : Manifest) :
    Except ControllerError WorkloadMetadata :=
  match settings.selectorLabels.find? object.labels.contains with
  | none =>
    .error (.configuration (.noSelectorLabel object.name object.ns settings.selectorLabels))
  | some label =>
    .ok {
      selectorLabel := some label
      ports :=
        if c.spec.service.portDiscovery then
          object.podTemplate?.map (·.ports c.spec.service.port)
        else none }

/-- What the services of the canary are made from. -/
def Canary.targetMetadata (c : Canary) (settings : Settings) : Operation WorkloadMetadata := do
  match ← get with
  | .service => return {}
  | _ =>
    let object ← Task.workload (← c.workloadFor .canary)
    Task.ofExcept id (c.workloadMetadata settings object)

end Rollout

/-
How a controller moves a rollout on: recording status, starting, promoting, and retiring one of
the two workloads.
-/
import Rollout.Controller.Inspection
import Rollout.Status.Update

namespace Rollout

/-! ## Status -/

/-- The delta with the tracked configuration and, unless it names one, the hash of the target. -/
def Canary.completeDelta (c : Canary) (delta : StatusDelta) : Task StatusDelta := do
  let configs ← match ← Task.ask (.configRefs c) with
    | .ok refs => pure (trackedConfigs refs)
    | .error e => if e.isKindInvalid then pure Dict.empty else throw (.tracker e)
  let hash ← match delta.lastAppliedSpec with
    | some hash => pure (some hash)
    | none => c.targetHash
  return { delta with trackedConfigs := some configs, lastAppliedSpec := hash }

/-- Records a delta together with what the target looks like now. The result is the canary as
stored. -/
def Canary.syncStatus (c : Canary) (settings : Settings) (delta : StatusDelta) : Task Canary := do
  c.updateStatus settings (← c.completeDelta delta)

/-- Gives the canary all the traffic. Below full weight it is recorded and read back; `get` is
the canary as the caller knows it, which a failure to read back leaves at the recorded one. -/
def promote (settings : Settings) :
    ExceptT ControllerError (StateT Canary (Program Cluster.interface)) Unit := do
  let c ← get
  if c.canaryWeight = 100 then return ()
  let recorded ← attempt (c.updateStatus settings { canaryWeight := some 100 })
  set recorded
  set (← attempt (Task.canary recorded.ns recorded.name))
where
  attempt (task : Task Canary) :
      ExceptT ControllerError (StateT Canary (Program Cluster.interface)) Canary :=
    ExceptT.mk fun c => do
      let result ← task.run
      pure (result, c)

/-! ## Starting -/

/-- Prepares the rollout of a canary that has just begun: the target gives up its replicas until
traffic shifts, the baseline takes its full size. A rolling canary is not scaled, for its rollout
is already underway, and moves on from `Initialized` at once. -/
def Canary.prepare (c : Canary) (settings : Settings) : Operation Canary := do
  match ← get with
  | .service => return c
  | .rolling settled =>
    let _ ← c.settledBaseline settled
    if c.isInitializing && !c.spec.skipAnalysis then c.requirePrimaryReady
    if c.isInitialized then c.syncStatus settings { phase := some .progressing } else return c
  | controller =>
    if c.isInitializing then
      if !c.spec.skipAnalysis then c.requirePrimaryReady
      c.scale .canary 0
      c.scale .primary (c.fullSize controller)
    return c

/-! ## Retiring and restoring -/

/-- Brings the baseline back to its full size. -/
def Canary.finalize (c : Canary) : Operation Unit := do
  c.scale .primary (c.fullSize (← get))

/-- Retires the workload that is no longer needed: the target, or in a swap the baseline once the
canary is promoted. A swap that is not promoted restores the baseline. -/
def Canary.scaleToZero (c : Canary) : Operation Unit := do
  match ← get with
  | .service => return ()
  | .rolling _ => return ()
  | .swap _ _ => c.scale .primary (if c.isPromoted then 0 else c.maxReplicas)
  | _ => c.scale .canary 0

/-- Gives the target its first replicas. Rolling and swap targets run already. -/
def Canary.scaleFromZero (c : Canary) : Operation Unit := do
  match ← get with
  | .deployment => c.scale .canary (max c.spec.analysis.canaryReplicas 1)
  | .daemonSet => c.scale .canary 1
  | _ => return ()

end Rollout

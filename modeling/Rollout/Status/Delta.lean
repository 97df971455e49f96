/-
Changes to a canary's status, as one writer wants them: fields it does not name are left as they
are found.
-/
import Rollout.Canary.Basic
import Rollout.Instant

namespace Rollout

/-- The fields of a status to change. -/
structure StatusDelta where
  phase : Option Phase := none
  canaryWeight : Option Int32 := none
  failedChecks : Option Int32 := none
  iterations : Option Int32 := none
  trackedConfigs : Option (Dict String) := none
  lastAppliedSpec : Option String := none
deriving DecidableEq, Repr, Inhabited

namespace StatusDelta

/-- Whether the delta moves to a phase in which the synced spec becomes the promoted one. -/
def reachesStablePhase (d : StatusDelta) : Bool :=
  d.phase = some .succeeded || d.phase = some .initialized

/-- The time of the last transition: `now` when the delta changes the phase. -/
def transitionTime (d : StatusDelta) (s : CanaryStatus) (now : Instant) : Option String :=
  match d.phase with
  | none => s.lastTransitionTime
  | some phase => if s.phase = some phase then s.lastTransitionTime else some now.text

/-- The status with the delta's fields. An empty map of tracked configuration clears the field. -/
def apply (d : StatusDelta) (s : CanaryStatus) (now : Instant) : CanaryStatus :=
  let lastAppliedSpec := d.lastAppliedSpec.orElse fun _ => s.lastAppliedSpec
  { phase := d.phase.orElse fun _ => s.phase
    canaryWeight := d.canaryWeight.getD s.canaryWeight
    failedChecks := d.failedChecks.getD s.failedChecks
    iterations := d.iterations.getD s.iterations
    trackedConfigs := match d.trackedConfigs with
      | none => s.trackedConfigs
      | some configs => if configs.isEmpty then none else some configs
    lastAppliedSpec
    lastPromotedSpec :=
      if d.reachesStablePhase then lastAppliedSpec.orElse fun _ => s.lastPromotedSpec
      else s.lastPromotedSpec
    lastTransitionTime := d.transitionTime s now }

end StatusDelta

end Rollout

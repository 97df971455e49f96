/-
Writing a status: read the canary afresh, apply the delta to what is stored, and write under the
guard of the version read. A conflict starts over, a bounded number of times; an update that
changes nothing is not written.
-/
import Rollout.Cluster
import Rollout.Settings
import Rollout.Status.Delta

namespace Rollout

/-- The attempts of an update: `left` more of `attempts` in all. The result is the canary as the
store holds it. -/
def updateAttempts (settings : Settings) (ns name : String) (delta : StatusDelta)
    (attempts : Nat) : Nat → Task Canary
  | 0 => throw (.statusConflict name ns attempts)
  | left + 1 => do
    let fresh ← Task.canary ns name
    let current := fresh.status.getD {}
    let desired := delta.apply current (← Task.now)
    if desired = current then pure fresh
    else
      match ← Task.ask (.writeStatus fresh desired) with
      | .ok written => pure written
      | .error (.conflict _) =>
        if 0 < left then Task.ask (.pause settings.statusPause)
        updateAttempts settings ns name delta attempts left
      | .error e => throw (.store e)

/-- Merges a delta into the stored status of a canary. -/
def Canary.updateStatus (c : Canary) (settings : Settings) (delta : StatusDelta) : Task Canary :=
  let attempts := max settings.statusAttempts 1
  updateAttempts settings c.ns c.name delta attempts attempts

end Rollout

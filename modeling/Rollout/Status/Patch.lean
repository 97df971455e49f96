/-
The merge patch that writes a status. It is guarded by the version at which the canary was read
and holds only what differs, so that what disappeared is removed.
-/
import Rollout.Canary.Codec
import Rollout.Json.MergePatch

namespace Rollout

/-- The part of the patch that moves one status to another. -/
def CanaryStatus.patchTo (before after : CanaryStatus) : Json := before.toJson.diff after.toJson

/-- The patch that moves a canary's status to another. -/
def Canary.statusPatch (c : Canary) (status : CanaryStatus) : Json :=
  .object [
    ("metadata", .object [("resourceVersion", Json.ofOption .str c.resourceVersion)]),
    ("status", (c.status.getD {}).patchTo status)]

end Rollout

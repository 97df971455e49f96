/-
Changes to a workload: its replica count, or an entry of its node selector. A workload with one
pod on every node has no replica count; it is parked by a node selector entry that no node has.
-/
import Rollout.Json.MergePatch

namespace Rollout

/-- A change to a workload. -/
inductive WorkloadChange where
  /-- Sets the replica count. -/
  | replicas (count : Int32)
  /-- Sets an entry of the pod template's node selector, or removes it. -/
  | nodeSelector (key : String) (value : Option String)
deriving DecidableEq, Repr, Inhabited

namespace WorkloadChange

/-- The path to the node selector of the pod template. -/
def selectorPath : List String := ["spec", "template", "spec", "nodeSelector"]

/-- The object after the change; objects missing on the way are created. -/
def apply : WorkloadChange → Json → Json
  | .replicas count, object => object.update (·.set "replicas" (.int count.toInt)) ["spec"]
  | .nodeSelector key (some value), object => object.update (·.set key (.str value)) selectorPath
  | .nodeSelector key none, object => object.update (·.unset key) selectorPath

/-- The node selector key that parks pods on no node at all. -/
def parkingKey : String := "kulta.io/scale-to-zero"

/-- The change that scales a workload with one pod on every node: none park it, any other count
lets its pods be scheduled again. -/
def parking (count : Int32) : WorkloadChange :=
  .nodeSelector parkingKey (if count = 0 then some "true" else none)

/-- The merge patch that makes the change to an object. -/
def patch (change : WorkloadChange) (object : Json) : Json := object.diff (change.apply object)

end WorkloadChange

end Rollout

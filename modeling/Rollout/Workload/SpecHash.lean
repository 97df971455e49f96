/-
The hash by which a new version of a workload is told: that of its pod template, or of its whole
spec if it has none. What the controllers themselves write to park a workload is left out.
-/
import Rollout.Fingerprint
import Rollout.Workload.Change
import Rollout.Workload.View

namespace Rollout

/-- The template without the parking entry of its node selector; a node selector that is empty
then is left out too. -/
def withoutParking (template : Json) : Json :=
  match template.get? "spec" with
  | some (.obj spec) =>
    match spec.lookup "nodeSelector" with
    | some (.obj selector) =>
      match Assoc.erase WorkloadChange.parkingKey selector with
      | [] => template.set "spec" (.obj (Assoc.erase "nodeSelector" spec))
      | rest => template.set "spec" (.obj (Assoc.insert "nodeSelector" (.obj rest) spec))
    | _ => template
  | _ => template

/-- The part of the spec that makes a version. -/
def Manifest.versionedSpec? (m : Manifest) : Option Json :=
  m.spec?.map fun spec => withoutParking ((spec.get? "template").getD spec)

/-- The hash of the part of the spec that makes a version, if there is a spec. -/
def Manifest.specHash? (m : Manifest) : Option String := m.versionedSpec?.map Fingerprint.ofJson

end Rollout

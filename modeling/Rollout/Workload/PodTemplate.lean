/-
Pod templates, as far as the ports of their containers go. `PodTemplate.ports` finds the ports
that a canary's services expose next to the service port.
-/
import Rollout.Metadata

namespace Rollout

structure ContainerPort where
  name : Option String
  port : Int32
deriving DecidableEq, Repr, Inhabited

structure Container where
  name : String
  ports : List ContainerPort
deriving DecidableEq, Repr, Inhabited

structure PodTemplate where
  containers : List Container
deriving DecidableEq, Repr, Inhabited

open Json

def ContainerPort.ofJson? : Json → Option ContainerPort
  | .obj members => do
    return {
      name := ← optional text? "name" members
      port := ← nullable int32? 0 "containerPort" members }
  | _ => none

def Container.ofJson? : Json → Option Container
  | .obj members => do
    return {
      name := ← nullable text? "" "name" members
      ports := ← nullable (list? ContainerPort.ofJson?) [] "ports" members }
  | _ => none

/-- Reads the containers of a pod spec. -/
def PodTemplate.containers? : Json → Option (List Container)
  | .obj members => nullable (list? Container.ofJson?) [] "containers" members
  | _ => none

/-- Reads a pod template. Its metadata has to be of the right form but is not kept. -/
def PodTemplate.ofJson? : Json → Option PodTemplate
  | .obj members => do
    let _ ← optional Metadata.ofJson? "metadata" members
    return { containers := ← nullable PodTemplate.containers? [] "spec" members }
  | _ => none

/-- The name of a port: its own, or one made of the container's name and the port's place. -/
def Container.portName (c : Container) (index : Nat) (p : ContainerPort) : String :=
  match p.name with
  | some name => if name = "" then "tcp-" ++ c.name ++ "-" ++ toString index else name
  | none => "tcp-" ++ c.name ++ "-" ++ toString index

/-- The named ports of a container other than the service port. -/
def Container.namedPorts (c : Container) (servicePort : Int32) : List (String × Int32) :=
  (c.ports.zipIdx.filter fun (p, _) => p.port ≠ servicePort).map fun (p, index) =>
    (c.portName index p, p.port)

/-- The named ports of a template other than the service port, which the service exposes anyway;
of two ports of one name the later counts. -/
def PodTemplate.ports (t : PodTemplate) (servicePort : Int32) : Dict Int32 :=
  .ofList (t.containers.flatMap (·.namedPorts servicePort))

end Rollout

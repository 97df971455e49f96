/-
The identity of a workload, and the workloads that a canary refers to.
-/
import Rollout.Canary.Basic
import Rollout.Manifest

namespace Rollout

/-- The identity of a workload. -/
structure WorkloadRef where
  apiVersion : String
  kind : String
  name : String
  ns : String
deriving DecidableEq, Repr, Inhabited

namespace WorkloadRef

/-- The workload of a reference that may leave the namespace open. -/
def ofReference (r : ObjectReference) (defaultNs : String) : WorkloadRef :=
  ⟨r.apiVersion, r.kind, r.name, r.ns.getD defaultNs⟩

/-- The identity of a fetched object, if it has types, a name and a namespace. -/
def of? (m : Manifest) : Option WorkloadRef := do
  let types ← m.types
  return ⟨types.apiVersion, types.kind, ← m.metadata.name, ← m.metadata.ns⟩

/-- The workload of the same kind and namespace under another name. -/
def withName (r : WorkloadRef) (name : String) : WorkloadRef := { r with name }

/-- Group and version of an API version; the core group has no name. -/
def splitVersion (apiVersion : String) : String × String :=
  match apiVersion.toList.span (· ≠ '/') with
  | (group, _ :: version) => (String.ofList group, String.ofList version)
  | (_, []) => ("", apiVersion)

/-- How messages name the workload. -/
def text (r : WorkloadRef) : String := r.kind ++ " " ++ r.name ++ "." ++ r.ns

end WorkloadRef

/-- The canary's target, if a namespace can be derived. -/
def Canary.target? (c : Canary) : Option WorkloadRef :=
  c.targetNamespace?.map fun ns => .ofReference c.spec.targetRef ns

/-- The canary's baseline by reference or by name, if a namespace can be derived: the source
reference when there is one, else the target's name with `-primary` behind it. -/
def Canary.primary? (c : Canary) : Option WorkloadRef :=
  c.target?.map fun target =>
    match c.spec.sourceRef with
    | some source => .ofReference source target.ns
    | none => target.withName (target.name ++ "-primary")

end Rollout

/-
Finding the baseline: the workload that serves stable traffic now. An explicit source reference
wins; else the revisions of the target's component are walked, newest first, up to one other than
the target's that still leads to a live workload.
-/
import Rollout.Cluster

namespace Rollout

/-- The label that names the component of a live workload. -/
def componentLabel : String := "app.oam.dev/component"

/-! ## The order of revisions -/

/-- The order of names in which a missing one comes first. -/
def compareNames : Option String → Option String → Ordering
  | none, none => .eq
  | none, some _ => .lt
  | some _, none => .gt
  | some a, some b => if a < b then .lt else if a = b then .eq else .gt

/-- Newer revisions come first; of equal ones the name decides. -/
def Revision.compare (a b : Revision) : Ordering :=
  if b.number < a.number then .lt
  else if a.number < b.number then .gt
  else compareNames a.metadata.name b.metadata.name

/-- The revisions, newest first; those that compare equal keep their order. -/
def Revision.sort (revisions : List Revision) : List Revision :=
  revisions.mergeSort fun a b => (a.compare b) != .gt

/-! ## What a revision declares -/

/-- The text at a pointer, unless it is empty. -/
def textAt? (j : Json) (pointer : List String) : Option String :=
  ((j.pointer? pointer).bind (·.text?)).filter (· ≠ "")

/-- The workload that a revision declares. Its data is the workload itself or a component that
holds it under `spec.workload`; what the workload leaves open is taken from the target. -/
def Revision.declared? (r : Revision) (target : WorkloadRef) : Option WorkloadRef := do
  let data ← r.data
  let workload := match data.pointer? ["spec", "workload"] with
    | some (.obj members) => .obj members
    | _ => data
  let name ← textAt? workload ["metadata", "name"]
  return {
    apiVersion := (textAt? workload ["apiVersion"]).getD target.apiVersion
    kind := (textAt? workload ["kind"]).getD target.kind
    name
    ns := (textAt? workload ["metadata", "namespace"]).getD target.ns }

/-- The workloads that a revision can lead to: the one of its own name and the one it declares. -/
def Revision.candidates (r : Revision) (target : WorkloadRef) (name : String) : List WorkloadRef :=
  target.withName name :: (r.declared? target).toList

/-! ## The walk -/

/-- The live object of the first of several workloads; one that is not there is passed over, and
any other failure ends the search. -/
def firstLive : List WorkloadRef → Task (Option Manifest)
  | [] => pure none
  | ref :: rest => do
    match ← Task.ask (.workload ref) with
    | .ok object => pure (some object)
    | .error e => if e.isNotFound then firstLive rest else throw (.access e)

/-- The workloads that the revisions lead to, in the order they are tried. A revision without a
name or with the target's name leads nowhere. -/
def baselineCandidates (target : WorkloadRef) (revisions : List Revision) : List WorkloadRef :=
  (Revision.sort revisions).flatMap fun r =>
    match r.metadata.name with
    | none => []
    | some name => if name = target.name then [] else r.candidates target name

/-- The baseline of a canary. -/
def Canary.resolveSource (c : Canary) : Task Manifest := do
  match c.target? with
  | none => throw (.configuration .noSourceNamespace)
  | some target =>
    match c.spec.sourceRef with
    | some reference =>
      let source := WorkloadRef.ofReference reference target.ns
      Task.ofExcept (fun e => .sourceNotFound (.unreadable source e))
        (← Task.ask (.workload source))
    | none =>
      let object ← Task.workload target
      match object.metadata.label? componentLabel with
      | none => throw (.configuration (.noComponent target componentLabel))
      | some component =>
        let revisions ← Task.ofExcept .access (← Task.ask (.revisions target.ns component))
        match ← firstLive (baselineCandidates target revisions) with
        | some baseline => pure baseline
        | none => throw (.sourceNotFound (.noLiveRevision component))

end Rollout
